import PyAds.ListRead
import PyAds.SumSlots

/-! Splitting a list write. Each sum command packs its own values before it is
sent, so a value that cannot be packed stops the write at its slice, when the
slices before it are already stored. -/
namespace PyAds
open Fallible SlotSequence

/-! ## A memory that is written item by item -/

/-- A request as it is sent. -/
def SumRequest.bytes (request : SumRequest) : Bytes :=
  LittleEndian.ofNat 4 request.iGroup.toNat ++ LittleEndian.ofNat 4 request.iOffset.toNat ++
    LittleEndian.ofNat 4 request.size.toNat

@[simp] theorem SumRequest.length_bytes (request : SumRequest) : request.bytes.length = 12 := by
  simp [SumRequest.bytes]

/-- The four bytes of a header at `offset`. -/
def headerWord (buf : Bytes) (offset : Nat) : UInt32 :=
  .ofNat (LittleEndian.toNat ((buf.drop offset).take 4))

/-- The request in the header of item `i`. -/
def receivedRequest (buf : Bytes) (i : Nat) : SumRequest :=
  ⟨headerWord buf (i * 12), headerWord buf (i * 12 + 4), headerWord buf (i * 12 + 8)⟩

/-- What a device finds in the buffer of a sum write: the headers, and behind
them the consecutive slots of the announced sizes. -/
def received (numRequests : Nat) (buf : Bytes) : List (SumRequest × Bytes) :=
  cut (fun request => request.size.toNat) ((List.range numRequests).map (receivedRequest buf))
    (buf.drop (numRequests * 12))

@[simp] theorem length_received (numRequests : Nat) (buf : Bytes) :
    (received numRequests buf).length = numRequests := by
  have requests := congrArg List.length (map_fst_cut (fun request : SumRequest => request.size.toNat)
    ((List.range numRequests).map (receivedRequest buf)) (buf.drop (numRequests * 12)))
  simpa [received] using requests

private theorem headerWord_eq (word : UInt32) (behind : buf.drop offset = LittleEndian.ofNat 4 word.toNat ++ more) :
    headerWord buf offset = word := by
  have front : (LittleEndian.ofNat 4 word.toNat ++ more).take (LittleEndian.ofNat 4 word.toNat).length = _ :=
    List.take_left
  rw [LittleEndian.length_ofNat] at front
  rw [headerWord, behind, front, LittleEndian.toNat_ofNat_of_lt word.toNat_lt, UInt32.ofNat_toNat]

private theorem receivedRequest_bytes (requests : List SumRequest) (rest : Bytes) {i : Nat}
    (inside : i < requests.length) : receivedRequest (requests.flatMap (·.bytes) ++ rest) i = requests[i] := by
  have blocks : ∀ part ∈ requests.map (·.bytes), part.length = 12 := by simp
  have total : (requests.flatMap (·.bytes)).length = requests.length * 12 := by
    rw [List.flatMap_def, length_flatten_blocks blocks, List.length_map]
  obtain ⟨more, behind⟩ : ∃ more, (requests.flatMap (·.bytes) ++ rest).drop (i * 12) = requests[i].bytes ++ more := by
    refine ⟨((requests.map (·.bytes)).drop (i + 1)).flatten ++ rest, ?_⟩
    rw [List.drop_append_of_le_length (by omega), List.flatMap_def, drop_flatten blocks (by rw [List.length_map]; omega),
      List.drop_eq_getElem_cons (by rwa [List.length_map]), List.flatten_cons, List.getElem_map, List.append_assoc]
  rw [SumRequest.bytes, List.append_assoc, List.append_assoc] at behind
  have second : (requests.flatMap (·.bytes) ++ rest).drop (i * 12 + 4) =
      LittleEndian.ofNat 4 requests[i].iOffset.toNat ++ (LittleEndian.ofNat 4 requests[i].size.toNat ++ more) := by
    rw [← List.drop_drop, behind]
    exact List.drop_left' (LittleEndian.length_ofNat ..)
  have third : (requests.flatMap (·.bytes) ++ rest).drop (i * 12 + 8) =
      LittleEndian.ofNat 4 requests[i].size.toNat ++ more := by
    rw [show i * 12 + 8 = i * 12 + 4 + 4 from rfl, ← List.drop_drop, second]
    exact List.drop_left' (LittleEndian.length_ofNat ..)
  rw [receivedRequest, headerWord_eq _ behind, headerWord_eq _ second, headerWord_eq _ third]

/-- Requests that are sent one after the other are found again. -/
theorem receivedRequests_bytes (requests : List SumRequest) (rest : Bytes) :
    (List.range requests.length).map (receivedRequest (requests.flatMap (·.bytes) ++ rest)) = requests := by
  apply List.ext_getElem
  · simp
  · intro i _ inside
    rw [List.getElem_map, List.getElem_range, receivedRequest_bytes requests rest inside]

/-- A device finds the headers and slots that were put into the buffer. -/
theorem received_headers {items : List WriteItem} {slots : List Bytes}
    (fill : List.Forall₂ (fun item slot => slot.length = item.2.1.size.toNat) items slots) (rest : Bytes) :
    received items.length (headers items ++ slots.flatten ++ rest) = (items.map (·.2.1.request)).zip slots := by
  have sent : headers items = (items.map (·.2.1.request)).flatMap (·.bytes) := by
    rw [headers, List.flatMap_map, List.flatMap_map]
    rfl
  have requests := receivedRequests_bytes (items.map (·.2.1.request)) (slots.flatten ++ rest)
  rw [List.length_map, ← sent] at requests
  have behind : (headers items ++ (slots.flatten ++ rest)).drop (items.length * 12) = slots.flatten ++ rest :=
    List.drop_left' (by rw [length_headers, Nat.mul_comm])
  have pieces : List.Forall₂ (fun (request : SumRequest) slot => slot.length = request.size.toNat)
      (items.map (·.2.1.request)) slots := List.forall₂_map_left_iff.mpr fill
  rw [received, List.append_assoc, requests, behind, cut_flatten pieces]

/-- A PLC stores one item after the other and reports a known status for
each. -/
structure ItemStore (σ : Type) where
  write : σ → SumRequest → Bytes → UInt32 × σ
  known : ∀ memory request data, Known (write memory request data).1.toNat

namespace ItemStore

def writeAll (store : ItemStore σ) : σ → List (SumRequest × Bytes) → List UInt32 × σ
  | memory, [] => ([], memory)
  | memory, (request, data) :: items =>
    let written := store.write memory request data
    let rest := store.writeAll written.2 items
    (written.1 :: rest.1, rest.2)

def device (store : ItemStore σ) : SumWriteDevice σ := fun memory numRequests buf =>
  let written := store.writeAll memory (received numRequests buf)
  (.ok (written.1.flatMap statusBytes), written.2)

theorem writeAll_append (store : ItemStore σ) (memory : σ) (first second : List (SumRequest × Bytes)) :
    store.writeAll memory (first ++ second) =
      ((store.writeAll memory first).1 ++ (store.writeAll (store.writeAll memory first).2 second).1,
        (store.writeAll (store.writeAll memory first).2 second).2) := by
  induction first generalizing memory with
  | nil => rfl
  | cons item first ih =>
    obtain ⟨request, data⟩ := item
    simp only [List.cons_append, writeAll, ih]

theorem length_writeAll (store : ItemStore σ) (memory : σ) (items : List (SumRequest × Bytes)) :
    (store.writeAll memory items).1.length = items.length := by
  induction items generalizing memory with
  | nil => rfl
  | cons item items ih => simp [writeAll, ih]

/-- The texts of all statuses are known. -/
theorem exists_texts (store : ItemStore σ) (memory : σ) (items : List (SumRequest × Bytes)) :
    ∃ texts, (store.writeAll memory items).1.mapM (fun status => errorText status.toNat) = .ok texts := by
  apply exists_mapM_eq_ok.mpr
  induction items generalizing memory with
  | nil => simp [writeAll]
  | cons item items ih =>
    obtain ⟨request, data⟩ := item
    refine List.forall_mem_cons.mpr ⟨?_, ih _⟩
    obtain ⟨text, found⟩ := store.known memory request data
    exact ⟨_, errorText_eq_ok.mpr ⟨text, found, rfl⟩⟩

end ItemStore

/-- The statuses of a reply are looked up one after the other. -/
theorem adsSumWriteBytes_statuses (statuses : List UInt32) (buf : Bytes) :
    adsSumWriteBytes (fun _ _ => .ok (statuses.flatMap statusBytes)) statuses.length buf =
      statuses.mapM fun status => errorText status.toNat := by
  have blocks : ∀ part ∈ statuses.map statusBytes, part.length = 4 := by simp
  have total : (statuses.flatMap statusBytes).length = statuses.length * 4 := by
    rw [List.flatMap_def, length_flatten_blocks blocks, List.length_map]
  have whole : responseBuffer (statuses.length * 4) (statuses.flatMap statusBytes) =
      statuses.flatMap statusBytes := by
    rw [responseBuffer, ← total, List.take_left]
  have lookup : (List.range statuses.length).map (fun i => do
      let code ← unpackUInt32 (statuses.flatMap statusBytes) (i * 4)
      errorText code) = statuses.map fun status => errorText status.toNat := by
    apply List.ext_getElem
    · simp
    · intro i before inside
      rw [List.length_map] at inside
      have word : statusWord (statuses.flatMap statusBytes) i = statuses[i].toNat := by
        have behind := drop_flatten blocks (i := i) (by rw [List.length_map]; omega)
        rw [statusWord, List.flatMap_def, behind, List.drop_eq_getElem_cons (by rwa [List.length_map]),
          List.flatten_cons, List.getElem_map]
        have first : (statusBytes statuses[i] ++ ((statuses.map statusBytes).drop (i + 1)).flatten).take
            (statusBytes statuses[i]).length = _ := List.take_left
        rw [length_statusBytes] at first
        rw [first, toNat_statusBytes]
      rw [List.getElem_map, List.getElem_map, List.getElem_range, unpackUInt32_statusWord (by omega), word]
      rfl
  have separate := congrArg (fun lookups => lookups.mapM id) lookup
  simp only [List.mapM_map, Function.comp_def, id_eq] at separate
  rw [← separate, ← whole]
  simp only [adsSumWriteBytes, bind, Except.bind, whole]

/-! ## One slice -/

section Slices
variable {dataSymbols : DataSymbols} {structuredDataNames : List String}

/-- The items that the buffer of a sum write carries. -/
def sentItems (dataSymbols : DataSymbols) (structuredDataNames : List String)
    (dataNamesAndValues : OrderedDict String PyVal) : Result (List (SumRequest × Bytes)) := do
  let buf ← transmittedBuffer dataNamesAndValues dataSymbols structuredDataNames
  return received dataNamesAndValues.entries.length buf

theorem length_sentItems (sent : sentItems dataSymbols structuredDataNames values = .ok items) :
    items.length = values.entries.length := by
  obtain ⟨buf, -, same⟩ := bind_eq_ok.mp sent
  cases same
  exact length_received ..

/-- The values can be packed into one buffer. -/
def Packs (dataSymbols : DataSymbols) (structuredDataNames : List String)
    (dataNamesAndValues : OrderedDict String PyVal) : Prop :=
  ∃ buf, transmittedBuffer dataNamesAndValues dataSymbols structuredDataNames = .ok buf

theorem packs_iff : Packs dataSymbols structuredDataNames values ↔
    ∃ items, sentItems dataSymbols structuredDataNames values = .ok items := by
  constructor
  · rintro ⟨buf, built⟩
    exact ⟨_, bind_eq_ok.mpr ⟨buf, built, rfl⟩⟩
  · rintro ⟨items, sent⟩
    obtain ⟨buf, built, -⟩ := bind_eq_ok.mp sent
    exact ⟨buf, built⟩

/-- A write that cannot be packed does nothing. -/
theorem sumWrite_of_unpacked (store : ItemStore σ) (memory : σ)
    (unpacked : ¬ Packs dataSymbols structuredDataNames values) :
    ∃ e, sumWrite store.device dataSymbols structuredDataNames memory values = (.error e, memory) := by
  cases built : transmittedBuffer values dataSymbols structuredDataNames with
  | error e => exact ⟨e, by rw [sumWrite, built]⟩
  | ok buf => exact absurd ⟨buf, built⟩ unpacked

/-- A write that can be packed stores its items. -/
theorem sumWrite_of_sent (store : ItemStore σ) (memory : σ)
    (sent : sentItems dataSymbols structuredDataNames values = .ok items) :
    ∃ texts, (store.writeAll memory items).1.mapM (fun status => errorText status.toNat) = .ok texts ∧
      sumWrite store.device dataSymbols structuredDataNames memory values =
        (.ok (OrderedDict.empty.setAll (values.keys.zip texts)), (store.writeAll memory items).2) := by
  obtain ⟨buf, built, same⟩ := bind_eq_ok.mp sent
  cases same
  obtain ⟨texts, found⟩ := store.exists_texts memory (received values.entries.length buf)
  have looked := adsSumWriteBytes_statuses
    (store.writeAll memory (received values.entries.length buf)).1 buf
  rw [store.length_writeAll, length_received, found] at looked
  refine ⟨texts, found, ?_⟩
  simp only [sumWrite, built, ItemStore.device, adsSumWrite_eq, bind, Except.bind, looked]
  rfl

/-! ## The loop over the slices -/

/-- How a write of slices ends: all of them are stored, or those before the
first that cannot be packed. -/
inductive SlicesWritten (dataSymbols : DataSymbols) (structuredDataNames : List String) (store : ItemStore σ)
    (memory : σ) (returnData : OrderedDict String PyVal) (slices : List (OrderedDict String PyVal)) :
    Result (OrderedDict String PyVal) × σ → Prop where
  | all {parts texts} :
      slices.mapM (sentItems dataSymbols structuredDataNames) = .ok parts →
      (store.writeAll memory parts.flatten).1.mapM (fun status => errorText status.toNat) = .ok texts →
      SlicesWritten dataSymbols structuredDataNames store memory returnData slices
        (.ok (returnData.setAll ((slices.flatMap (·.keys)).zip texts)), (store.writeAll memory parts.flatten).2)
  | stopped {before unpacked after parts e} :
      slices = before ++ unpacked :: after →
      before.mapM (sentItems dataSymbols structuredDataNames) = .ok parts →
      ¬ Packs dataSymbols structuredDataNames unpacked →
      SlicesWritten dataSymbols structuredDataNames store memory returnData slices
        (.error e, (store.writeAll memory parts.flatten).2)

theorem writeSlices_spec (store : ItemStore σ) (memory : σ) (returnData : OrderedDict String PyVal)
    (slices : List (OrderedDict String PyVal)) :
    SlicesWritten dataSymbols structuredDataNames store memory returnData slices
      (writeSlices (sumWrite store.device dataSymbols structuredDataNames) slices memory returnData) := by
  induction slices generalizing memory returnData with
  | nil =>
    have sent : ([] : List (OrderedDict String PyVal)).mapM (sentItems dataSymbols structuredDataNames) = .ok [] := rfl
    have found : (store.writeAll memory ([] : List (List (SumRequest × Bytes))).flatten).1.mapM
        (fun status => errorText status.toNat) = .ok [] := rfl
    exact .all sent found
  | cons slice slices ih =>
    by_cases packs : Packs dataSymbols structuredDataNames slice
    · obtain ⟨items, sent⟩ := packs_iff.mp packs
      obtain ⟨texts, found, run⟩ := sumWrite_of_sent store memory sent
      have rest := ih (store.writeAll memory items).2
        (returnData.update (OrderedDict.empty.setAll (slice.keys.zip texts)))
      rw [writeSlices, run]
      dsimp only
      generalize writeSlices (sumWrite store.device dataSymbols structuredDataNames) slices
        (store.writeAll memory items).2
        (returnData.update (OrderedDict.empty.setAll (slice.keys.zip texts))) = outcome at rest
      cases rest with
      | @all parts texts' sentAll found' =>
        have merged : (store.writeAll memory (items :: parts).flatten).1.mapM
            (fun status => errorText status.toNat) = .ok (texts ++ texts') := by
          rw [List.flatten_cons, store.writeAll_append]
          exact mapM_eq_ok.mpr (forall₂_append_left.mpr
            ⟨texts, texts', mapM_eq_ok.mp found, mapM_eq_ok.mp found', rfl⟩)
        have length : slice.keys.length = texts.length := by
          rw [OrderedDict.keys, List.length_map, ← length_sentItems sent, ← store.length_writeAll memory,
            (mapM_eq_ok.mp found).length_eq]
        have final : SlicesWritten dataSymbols structuredDataNames store memory returnData (slice :: slices) _ :=
          .all (mapM_eq_ok.mpr (.cons sent (mapM_eq_ok.mp sentAll))) merged
        rw [List.flatMap_cons, List.zip_append length, OrderedDict.setAll_append,
          ← OrderedDict.update_setAll returnData (slice.keys.zip texts), List.flatten_cons, store.writeAll_append] at final
        exact final
      | @stopped before unpacked after parts e split sentBefore stops =>
        have final : SlicesWritten dataSymbols structuredDataNames store memory returnData (slice :: slices)
            (.error e, _) :=
          .stopped (congrArg (slice :: ·) split) (mapM_eq_ok.mpr (.cons sent (mapM_eq_ok.mp sentBefore))) stops
        rw [List.flatten_cons, store.writeAll_append] at final
        exact final
    · obtain ⟨e, run⟩ := sumWrite_of_unpacked store memory packs
      rw [writeSlices, run]
      have none_ : ([] : List (OrderedDict String PyVal)).mapM (sentItems dataSymbols structuredDataNames) =
          .ok [] := rfl
      exact .stopped rfl none_ packs

/-! ## Splitting -/

/-- The dictionaries a write is split into. -/
def dictSlices (values : OrderedDict String PyVal) (adsSubCommands : Nat) : List (OrderedDict String PyVal) :=
  (slicesOf values.entries adsSubCommands).map OrderedDict.empty.setAll

theorem entries_dictSlice {values : OrderedDict String PyVal} {slice : List (String × PyVal)}
    (part : slice.Sublist values.entries) : (OrderedDict.empty.setAll slice).entries = slice := by
  rw [OrderedDict.entries_setAll_of_nodup]
  · rfl
  · exact values.nodup.sublist (part.map Prod.fst)

theorem keys_dictSlices {values : OrderedDict String PyVal} (positive : 0 < adsSubCommands) :
    (dictSlices values adsSubCommands).flatMap (·.keys) = values.keys := by
  have whole := flatten_slicesOf positive values.entries
  have each : ∀ slice ∈ slicesOf values.entries adsSubCommands,
      (OrderedDict.empty.setAll slice).keys = slice.map Prod.fst := by
    intro slice member
    have part : slice.Sublist values.entries := whole ▸ List.sublist_flatten_of_mem member
    rw [OrderedDict.keys, entries_dictSlice part]
  rw [dictSlices, List.flatMap_map, List.flatMap_def, List.map_congr_left each, ← List.map_flatten, whole]
  rfl

/-- A longer list is cut at the number of sub-commands first. -/
theorem dictSlices_cons {values : OrderedDict String PyVal} (positive : 0 < adsSubCommands)
    (long : adsSubCommands < values.entries.length) : ∃ others, dictSlices values adsSubCommands =
      OrderedDict.empty.setAll (values.entries.take adsSubCommands) :: others := by
  obtain ⟨count, more⟩ : ∃ count, (values.entries.length + adsSubCommands - 1) / adsSubCommands = count + 1 := by
    apply Nat.exists_eq_add_one.mpr
    apply Nat.div_pos
    · omega
    · exact positive
  rw [dictSlices, slicesOf, if_neg (by omega), more]
  exact ⟨_, rfl⟩

theorem writeList_long {values : OrderedDict String PyVal} {write : σ → OrderedDict String PyVal →
    Result (OrderedDict String PyVal) × σ} (positive : 0 < adsSubCommands) (long : adsSubCommands < values.entries.length) :
    writeList write memory values adsSubCommands =
      writeSlices write (dictSlices values adsSubCommands) memory OrderedDict.empty := by
  have sliced : dictSliceGenerator values adsSubCommands = .ok (dictSlices values adsSubCommands) := by
    rw [dictSliceGenerator, listSliceGenerator, if_neg (by omega), dictSlices, slicesOf, if_neg (by omega)]
    rfl
  rw [writeList, if_neg (by omega), sliced]

theorem entries_dictSlices {values : OrderedDict String PyVal} (positive : 0 < adsSubCommands) :
    (dictSlices values adsSubCommands).flatMap (·.entries) = values.entries := by
  have whole := flatten_slicesOf positive values.entries
  have each : ∀ slice ∈ slicesOf values.entries adsSubCommands, (OrderedDict.empty.setAll slice).entries = slice := by
    intro slice member
    exact entries_dictSlice (whole ▸ List.sublist_flatten_of_mem member)
  rw [dictSlices, List.flatMap_map, List.flatMap_def, List.map_congr_left each, List.map_id'' (fun _ => rfl), whole]

/-- What each slice keeps, a list write keeps whatever it returns. -/
theorem writeList_invariant {write : σ → OrderedDict String PyVal → Result (OrderedDict String PyVal) × σ}
    {inv : σ → Prop} (each : ∀ memory slice, inv memory → inv (write memory slice).2) (start : inv memory)
    (values : OrderedDict String PyVal) (adsSubCommands : Nat) : inv (writeList write memory values adsSubCommands).2 := by
  have slicewise (slices : List (OrderedDict String PyVal)) (memory : σ) (returnData : OrderedDict String PyVal)
      (start : inv memory) : inv (writeSlices write slices memory returnData).2 := by
    induction slices generalizing memory returnData with
    | nil => exact start
    | cons slice slices ih =>
      have here := each memory slice start
      rw [writeSlices]
      split
      · rename_i same
        rwa [same] at here
      · rename_i same
        rw [same] at here
        exact ih _ _ here
  unfold writeList
  split
  · exact each memory values start
  · split
    · exact start
    · exact slicewise _ memory _ start

/-- Where each slice is written and its entries are noted, so are all entries. -/
theorem writeList_noted {write : σ → OrderedDict String PyVal → Result (OrderedDict String PyVal) × σ}
    {inv : σ → ω → Prop} {note : ω → String × PyVal → ω} {values : OrderedDict String PyVal}
    (each : ∀ memory noted (slice : OrderedDict String PyVal), (∀ entry ∈ slice.entries, entry ∈ values.entries) →
      inv memory noted → ∃ result later, write memory slice = (.ok result, later) ∧
        inv later (slice.entries.foldl note noted))
    (positive : 0 < adsSubCommands) (start : inv memory noted) :
    inv (writeList write memory values adsSubCommands).2 (values.entries.foldl note noted) := by
  have slicewise (slices : List (OrderedDict String PyVal)) (memory : σ) (noted : ω) (returnData : OrderedDict String PyVal)
      (within : ∀ slice ∈ slices, ∀ entry ∈ slice.entries, entry ∈ values.entries) (start : inv memory noted) :
      inv (writeSlices write slices memory returnData).2 ((slices.flatMap (·.entries)).foldl note noted) := by
    induction slices generalizing memory noted returnData with
    | nil => exact start
    | cons slice slices ih =>
      obtain ⟨first, others⟩ := List.forall_mem_cons.mp within
      obtain ⟨result, later, written, here⟩ := each memory noted slice first start
      rw [writeSlices, written, List.flatMap_cons, List.foldl_append]
      exact ih later _ _ others here
  by_cases short : values.entries.length ≤ adsSubCommands
  · obtain ⟨result, later, written, here⟩ := each memory noted values (fun _ member => member) start
    rw [writeList, if_pos short, written]
    exact here
  · rw [writeList_long positive (by omega)]
    have all := slicewise (dictSlices values adsSubCommands) memory noted OrderedDict.empty (by
      intro slice member entry held
      rw [← entries_dictSlices positive]
      exact List.mem_flatMap.mpr ⟨slice, member, held⟩) start
    rwa [entries_dictSlices positive] at all

/-- What splitting must not change: the memory, what is returned, and that a
write that raises has stored nothing. -/
structure SameOutcome (before : σ) (whole split : Result (OrderedDict String PyVal) × σ) : Prop where
  memory : split.2 = whole.2
  result : split.1.toOption = whole.1.toOption
  unwritten : ∀ e, whole.1 = .error e → split.2 = before

/-- Splitting changes nothing if there is one slice, if neither the first
slice nor all values can be packed, or if everything can be packed and the
slices carry the same requests and slots as all values together. -/
def SplitHarmless (dataSymbols : DataSymbols) (structuredDataNames : List String)
    (values : OrderedDict String PyVal) (adsSubCommands : Nat) : Prop :=
  values.entries.length ≤ adsSubCommands ∨
    (¬ Packs dataSymbols structuredDataNames values ∧
      ¬ Packs dataSymbols structuredDataNames (OrderedDict.empty.setAll (values.entries.take adsSubCommands))) ∨
    ∃ parts, (dictSlices values adsSubCommands).mapM (sentItems dataSymbols structuredDataNames) = .ok parts ∧
      sentItems dataSymbols structuredDataNames values = .ok parts.flatten

/-- A memory that lists what is stored. -/
def logStore : ItemStore (List (SumRequest × Bytes)) where
  write log request data := (0, log ++ [(request, data)])
  known _ _ _ := ⟨_, (by decide +kernel : ERROR_CODES 0 = some "no error")⟩

theorem writeAll_logStore (log items : List (SumRequest × Bytes)) :
    (logStore.writeAll log items).2 = log ++ items := by
  induction items generalizing log with
  | nil => simp [ItemStore.writeAll]
  | cons item items ih =>
    obtain ⟨request, data⟩ := item
    rw [ItemStore.writeAll, ih]
    simp [logStore]

theorem sumWrite_unwritten (store : ItemStore σ) (memory : σ) (values : OrderedDict String PyVal)
    (raised : (sumWrite store.device dataSymbols structuredDataNames memory values).1 = .error e) :
    (sumWrite store.device dataSymbols structuredDataNames memory values).2 = memory := by
  by_cases packs : Packs dataSymbols structuredDataNames values
  · obtain ⟨items, sent⟩ := packs_iff.mp packs
    obtain ⟨texts, -, run⟩ := sumWrite_of_sent store memory sent
    rw [run] at raised
    cases raised
  · obtain ⟨e, run⟩ := sumWrite_of_unpacked store memory packs
    rw [run]

/-- What the logging memory shows decides for every memory. -/
theorem splitHarmless_of_sameOutcome {values : OrderedDict String PyVal} (positive : 0 < adsSubCommands)
    (slices : dictSlices values adsSubCommands =
      OrderedDict.empty.setAll (values.entries.take adsSubCommands) :: others)
    (long : adsSubCommands < values.entries.length)
    (logged : SameOutcome [] (sumWrite logStore.device dataSymbols structuredDataNames [] values)
      (writeSlices (sumWrite logStore.device dataSymbols structuredDataNames) (dictSlices values adsSubCommands)
        [] OrderedDict.empty)) :
    SplitHarmless dataSymbols structuredDataNames values adsSubCommands := by
  have run : SlicesWritten dataSymbols structuredDataNames logStore [] OrderedDict.empty
      (dictSlices values adsSubCommands)
      (writeSlices (sumWrite logStore.device dataSymbols structuredDataNames) (dictSlices values adsSubCommands)
        [] OrderedDict.empty) := writeSlices_spec ..
  generalize writeSlices (sumWrite logStore.device dataSymbols structuredDataNames)
    (dictSlices values adsSubCommands) [] OrderedDict.empty = outcome at logged run
  by_cases packs : Packs dataSymbols structuredDataNames values
  · obtain ⟨items, sent⟩ := packs_iff.mp packs
    obtain ⟨texts, -, whole⟩ := sumWrite_of_sent logStore [] sent
    rw [whole] at logged
    cases run with
    | @all parts texts' sentAll found =>
      have stored := logged.memory
      rw [writeAll_logStore, writeAll_logStore, List.nil_append, List.nil_append] at stored
      exact Or.inr (Or.inr ⟨parts, sentAll, stored ▸ sent⟩)
    | stopped => cases logged.result
  · obtain ⟨e, whole⟩ := sumWrite_of_unpacked logStore [] packs
    rw [whole] at logged
    cases run with
    | all => cases logged.result
    | @stopped before unpacked after parts e' cutAt sentBefore stops =>
      have stored := logged.memory
      rw [writeAll_logStore, List.nil_append] at stored
      cases before with
      | nil =>
        obtain ⟨rfl, -⟩ := List.cons.inj (slices.symm.trans cutAt)
        exact Or.inr (Or.inl ⟨packs, stops⟩)
      | cons first before =>
        -- a first slice that is sent has been stored
        obtain ⟨rfl, -⟩ := List.cons.inj (slices.symm.trans cutAt)
        obtain ⟨items, rest, here, -, rfl⟩ := List.forall₂_cons_left_iff.mp (mapM_eq_ok.mp sentBefore)
        have size := length_sentItems here
        rw [List.flatten_cons, List.append_eq_nil_iff] at stored
        rw [stored.1, entries_dictSlice (List.take_sublist ..), List.length_take, List.length_nil] at size
        omega

/-- Neither all values nor those of the first slice can be packed. -/
theorem sameOutcome_of_unpacked {values : OrderedDict String PyVal} (store : ItemStore σ) (memory : σ)
    (slices : dictSlices values adsSubCommands =
      OrderedDict.empty.setAll (values.entries.take adsSubCommands) :: others)
    (packs : ¬ Packs dataSymbols structuredDataNames values)
    (first : ¬ Packs dataSymbols structuredDataNames
      (OrderedDict.empty.setAll (values.entries.take adsSubCommands)))
    (run : SlicesWritten dataSymbols structuredDataNames store memory OrderedDict.empty
      (dictSlices values adsSubCommands) outcome) :
    SameOutcome memory (sumWrite store.device dataSymbols structuredDataNames memory values) outcome := by
  obtain ⟨e, whole⟩ := sumWrite_of_unpacked store memory packs
  rw [whole]
  cases run with
  | all sentAll found =>
    rw [slices, mapM_eq_ok] at sentAll
    obtain ⟨items, _, here, -, -⟩ := List.forall₂_cons_left_iff.mp sentAll
    exact absurd (packs_iff.mpr ⟨items, here⟩) first
  | @stopped before unpacked after parts e' cutAt sentBefore stops =>
    cases before with
    | nil =>
      cases sentBefore
      exact ⟨rfl, rfl, fun _ _ => rfl⟩
    | cons head before =>
      obtain ⟨rfl, -⟩ := List.cons.inj (slices.symm.trans cutAt)
      obtain ⟨items, _, here, -, -⟩ := List.forall₂_cons_left_iff.mp (mapM_eq_ok.mp sentBefore)
      exact absurd (packs_iff.mpr ⟨items, here⟩) first

/-- The slices carry the requests and slots of all values. -/
theorem sameOutcome_of_sent {values : OrderedDict String PyVal} (positive : 0 < adsSubCommands)
    (store : ItemStore σ) (memory : σ)
    (sentAll : (dictSlices values adsSubCommands).mapM (sentItems dataSymbols structuredDataNames) = .ok parts)
    (sent : sentItems dataSymbols structuredDataNames values = .ok parts.flatten)
    (run : SlicesWritten dataSymbols structuredDataNames store memory OrderedDict.empty
      (dictSlices values adsSubCommands) outcome) :
    SameOutcome memory (sumWrite store.device dataSymbols structuredDataNames memory values) outcome := by
  obtain ⟨texts, found, whole⟩ := sumWrite_of_sent store memory sent
  rw [whole]
  cases run with
  | @all parts' texts' sentAll' found' =>
    cases sentAll.symm.trans sentAll'
    cases found.symm.trans found'
    rw [keys_dictSlices positive]
    exact ⟨rfl, rfl, fun e raised => by cases raised⟩
  | @stopped before unpacked after parts' e' cutAt sentBefore stops =>
    rw [cutAt, mapM_eq_ok] at sentAll
    obtain ⟨_, _, -, behind, -⟩ := forall₂_append_left.mp sentAll
    obtain ⟨items, _, here, -, -⟩ := List.forall₂_cons_left_iff.mp behind
    exact absurd (packs_iff.mpr ⟨items, here⟩) stops

theorem writeList_split_iff {values : OrderedDict String PyVal} (positive : 0 < adsSubCommands) :
    (∀ (σ : Type) (store : ItemStore σ) (memory : σ), SameOutcome memory
      (writeList (sumWrite store.device dataSymbols structuredDataNames) memory values values.entries.length)
      (writeList (sumWrite store.device dataSymbols structuredDataNames) memory values adsSubCommands)) ↔
    SplitHarmless dataSymbols structuredDataNames values adsSubCommands := by
  have once {σ : Type} (store : ItemStore σ) (memory : σ) {size : Nat} (short : values.entries.length ≤ size) :
      writeList (sumWrite store.device dataSymbols structuredDataNames) memory values size =
        sumWrite store.device dataSymbols structuredDataNames memory values := if_pos short
  by_cases short : values.entries.length ≤ adsSubCommands
  · refine iff_of_true (fun σ store memory => ?_) (Or.inl short)
    rw [once store memory short, once store memory (Nat.le_refl _)]
    exact ⟨rfl, rfl, fun e raised => sumWrite_unwritten store memory values raised⟩
  · have long := Nat.lt_of_not_le short
    obtain ⟨others, slices⟩ := dictSlices_cons positive long
    simp only [once _ _ (Nat.le_refl _), writeList_long positive long]
    constructor
    · intro same
      exact splitHarmless_of_sameOutcome positive slices long (same _ logStore [])
    · intro harmless σ store memory
      have run : SlicesWritten dataSymbols structuredDataNames store memory OrderedDict.empty
          (dictSlices values adsSubCommands)
          (writeSlices (sumWrite store.device dataSymbols structuredDataNames) (dictSlices values adsSubCommands)
            memory OrderedDict.empty) := writeSlices_spec ..
      rcases harmless with short | ⟨packs, first⟩ | ⟨parts, sentAll, sent⟩
      · omega
      · exact sameOutcome_of_unpacked store memory slices packs first run
      · exact sameOutcome_of_sent positive store memory sentAll sent run

/-! ## Values -/

/-- A value that is refused wherever it is written. -/
def Refused (structured : Bool) (symbol : SAdsSymbolEntry) (value : PyVal) : Prop :=
  ∀ buf offset, ¬ ∃ result, writeItem structured symbol buf offset value = .ok result

/-- The request and the slot that an entry sends in any buffer. -/
def Sends (dataSymbols : DataSymbols) (structuredDataNames : List String) (entry : String × PyVal)
    (sent : SumRequest × Bytes) : Prop :=
  ∃ symbol, symbolOf dataSymbols entry.1 = .ok symbol ∧ sent.1 = symbol.request ∧
    FillsSlot (entry.1 ∈ structuredDataNames) symbol entry.2 sent.2

/-- Values that fill their slots are packed into a buffer in which the device
finds the requests and the slots. -/
theorem exists_transmitted {values : OrderedDict String PyVal} {sent : List (SumRequest × Bytes)}
    (each : List.Forall₂ (Sends dataSymbols structuredDataNames) values.entries sent) :
    ∃ buf, transmittedBuffer values dataSymbols structuredDataNames = .ok buf ∧
      received values.entries.length buf = sent ∧ values.entries.length * 12 ≤ buf.length := by
  obtain ⟨items, found, fills, requests⟩ : ∃ items, values.entries.mapM (writeItemOf dataSymbols) = .ok items ∧
      List.Forall₂ (fun item slot => FillsSlot (item.1 ∈ structuredDataNames) item.2.1 item.2.2 slot)
        items (sent.map Prod.snd) ∧ items.map (·.2.1.request) = sent.map Prod.fst := by
    generalize values.entries = entries at each
    induction each with
    | nil => exact ⟨[], rfl, .nil, rfl⟩
    | @cons entry item entries sent here _ ih =>
      obtain ⟨symbol, known, request, fills⟩ := here
      obtain ⟨items, found, others, requests⟩ := ih
      refine ⟨(entry.1, symbol, entry.2) :: items, ?_, .cons fills others, by simp [request, requests]⟩
      exact mapM_eq_ok.mpr (.cons (bind_eq_ok.mpr ⟨symbol, known, rfl⟩) (mapM_eq_ok.mp found))
  obtain ⟨m, built⟩ := sumWriteBuffer_fill fills
  have count : values.entries.length = items.length := (mapM_eq_ok.mp found).length_eq
  have finds := received_headers (fills.imp fun _ _ here => here.length) (List.replicate m 0)
  have rejoined : (sent.map Prod.fst).zip (sent.map Prod.snd) = sent := (List.zip_of_prod rfl rfl).symm
  rw [requests, rejoined] at finds
  refine ⟨_, bind_eq_ok.mpr ⟨items, found, built⟩, by rw [count, finds], ?_⟩
  rw [count]
  simp only [List.length_append, length_headers]
  omega

theorem sentItems_of_sends {values : OrderedDict String PyVal} {sent : List (SumRequest × Bytes)}
    (each : List.Forall₂ (Sends dataSymbols structuredDataNames) values.entries sent) :
    sentItems dataSymbols structuredDataNames values = .ok sent := by
  obtain ⟨buf, built, finds, -⟩ := exists_transmitted each
  exact bind_eq_ok.mpr ⟨buf, built, congrArg Except.ok finds⟩

theorem exists_sends {values : OrderedDict String PyVal}
    (found : values.entries.mapM (writeItemOf dataSymbols) = .ok items)
    (fill : ∀ item ∈ items, ∃ slot, FillsSlot (item.1 ∈ structuredDataNames) item.2.1 item.2.2 slot) :
    ∀ entry ∈ values.entries, ∃ sent, Sends dataSymbols structuredDataNames entry sent := by
  intro entry member
  obtain ⟨item, held, here⟩ := exists_of_mem_right (mapM_eq_ok.mp found).flip member
  obtain ⟨symbol, known, same⟩ := bind_eq_ok.mp here
  cases same
  obtain ⟨slot, fills⟩ := fill _ held
  exact ⟨(symbol.request, slot), symbol, known, rfl, fills⟩

/-- A dictionary with a refused value cannot be packed. -/
theorem not_packs_of_refused {values : OrderedDict String PyVal}
    (found : values.entries.mapM (writeItemOf dataSymbols) = .ok items) (member : item ∈ items)
    (refused : Refused (item.1 ∈ structuredDataNames) item.2.1 item.2.2) :
    ¬ Packs dataSymbols structuredDataNames values := by
  rintro ⟨buf, built⟩
  rw [transmittedBuffer, found] at built
  have run : sumWriteBuffer structuredDataNames items = .ok buf := built
  rw [sumWriteBuffer_eq] at run
  obtain ⟨buf, offset, result, written⟩ := writeItem_of_writeItems run item member
  exact refused buf offset ⟨result, written⟩

/-- Values that fill their slots send the same in slices as together. -/
theorem splitHarmless_of_sends {values : OrderedDict String PyVal} (positive : 0 < adsSubCommands)
    (each : ∀ entry ∈ values.entries, ∃ sent, Sends dataSymbols structuredDataNames entry sent) :
    SplitHarmless dataSymbols structuredDataNames values adsSubCommands := by
  have whole := flatten_slicesOf positive values.entries
  have within : ∀ slice ∈ slicesOf values.entries adsSubCommands, slice.Sublist values.entries := by
    intro slice member
    rw [← whole]
    exact List.sublist_flatten_of_mem member
  obtain ⟨parts, related⟩ := exists_forall₂ fun slice (member : slice ∈ slicesOf values.entries adsSubCommands) =>
    exists_forall₂ fun entry held => each entry ((within slice member).subset held)
  refine Or.inr (Or.inr ⟨parts, ?_, sentItems_of_sends (whole ▸ List.rel_flatten related)⟩)
  rw [dictSlices, mapM_eq_ok, List.forall₂_map_left_iff]
  refine ((List.forall₂_and_left _ _).mpr ⟨within, related⟩).imp fun slice part here => ?_
  apply sentItems_of_sends
  rw [entries_dictSlice here.1]
  exact here.2

/-- If each value fills its slot or is refused, what counts is where the
first refused value is. -/
theorem splitHarmless_iff {values : OrderedDict String PyVal} (positive : 0 < adsSubCommands)
    (found : values.entries.mapM (writeItemOf dataSymbols) = .ok items)
    (clear : ∀ item ∈ items, Refused (item.1 ∈ structuredDataNames) item.2.1 item.2.2 ∨
      ∃ slot, FillsSlot (item.1 ∈ structuredDataNames) item.2.1 item.2.2 slot) :
    SplitHarmless dataSymbols structuredDataNames values adsSubCommands ↔ items.length ≤ adsSubCommands ∨
      (∃ item ∈ items.take adsSubCommands, Refused (item.1 ∈ structuredDataNames) item.2.1 item.2.2) ∨
      ∀ item ∈ items, ∃ slot, FillsSlot (item.1 ∈ structuredDataNames) item.2.1 item.2.2 slot := by
  have count := (mapM_eq_ok.mp found).length_eq
  have foundFirst : (OrderedDict.empty.setAll (values.entries.take adsSubCommands)).entries.mapM
      (writeItemOf dataSymbols) = .ok (items.take adsSubCommands) := by
    rw [entries_dictSlice (List.take_sublist ..), mapM_eq_ok]
    exact List.forall₂_take _ (mapM_eq_ok.mp found)
  constructor
  · rintro (short | ⟨-, first⟩ | ⟨parts, -, sent⟩)
    · exact Or.inl (count ▸ short)
    · refine Or.inr (Or.inl ?_)
      by_contra accepted
      have fill : ∀ item ∈ items.take adsSubCommands, ∃ slot,
          FillsSlot (item.1 ∈ structuredDataNames) item.2.1 item.2.2 slot := by
        intro item member
        apply (clear item (List.mem_of_mem_take member)).resolve_left
        intro refused
        exact accepted ⟨item, member, refused⟩
      obtain ⟨sent, each⟩ := exists_forall₂ (exists_sends foundFirst fill)
      exact first (packs_iff.mpr ⟨sent, sentItems_of_sends each⟩)
    · refine Or.inr (Or.inr fun item member => (clear item member).resolve_left fun refused => ?_)
      exact not_packs_of_refused found member refused (packs_iff.mpr ⟨_, sent⟩)
  · rintro (short | ⟨item, member, refused⟩ | fill)
    · exact Or.inl (count ▸ short)
    · refine Or.inr (Or.inl ⟨?_, not_packs_of_refused foundFirst member refused⟩)
      exact not_packs_of_refused found (List.mem_of_mem_take member) refused
    · exact splitHarmless_of_sends positive (exists_sends found fill)

end Slices

/-! ## `write_list_by_name` -/

theorem keys_encodeStructures (encoded : encodeStructures structureDefs values = .ok values') :
    values'.keys = values.keys := by
  induction structureDefs generalizing values with
  | nil =>
    cases encoded
    rfl
  | cons entry structureDefs ih =>
    obtain ⟨name, structureDef⟩ := entry
    rw [encodeStructures] at encoded
    cases found : values.get? name with
    | none =>
      rw [found] at encoded
      cases encoded
    | some value =>
      rw [found] at encoded
      obtain ⟨bytes, -, rest⟩ := bind_eq_ok.mp encoded
      have member : name ∈ values.keys := by
        by_contra absent
        cases found.symm.trans (OrderedDict.get?_eq_none_iff.mpr absent)
      rw [ih rest, OrderedDict.keys_set, OrderedDict.addKey, if_pos member]

/-- A list write is the same in slices as at once exactly when the slices
pack as the whole does; where each value fills its slot or is refused, when
there is one slice, a refused value in the first slice, or none at all. -/
theorem write_list_split_iff (adsGetSymbolInfo : String → Result SAdsSymbolEntry) (symbolInfoCache : DataSymbols)
    (dataNamesAndValues : OrderedDict String PyVal) (cacheSymbolInfo : Bool) (structureDefs : StructureDefs)
    (positive : 0 < adsSubCommands) :
    ((∀ (σ : Type) (store : ItemStore σ) (memory : σ), SameOutcome memory
        (writeListByName adsGetSymbolInfo store.device memory symbolInfoCache dataNamesAndValues cacheSymbolInfo
          dataNamesAndValues.entries.length structureDefs)
        (writeListByName adsGetSymbolInfo store.device memory symbolInfoCache dataNamesAndValues cacheSymbolInfo
          adsSubCommands structureDefs)) ↔
      ∀ dataSymbols cache values,
        resolveSymbols adsGetSymbolInfo cacheSymbolInfo symbolInfoCache dataNamesAndValues.keys =
          .ok (dataSymbols, cache) →
        encodeStructures structureDefs.entries dataNamesAndValues = .ok values →
        SplitHarmless dataSymbols structureDefs.keys values adsSubCommands) ∧
    ∀ (dataSymbols : DataSymbols) (values : OrderedDict String PyVal) items,
      values.entries.mapM (writeItemOf dataSymbols) = .ok items →
      (∀ item ∈ items, Refused (item.1 ∈ structureDefs.keys) item.2.1 item.2.2 ∨
        ∃ slot, FillsSlot (item.1 ∈ structureDefs.keys) item.2.1 item.2.2 slot) →
      (SplitHarmless dataSymbols structureDefs.keys values adsSubCommands ↔ items.length ≤ adsSubCommands ∨
        (∃ item ∈ items.take adsSubCommands, Refused (item.1 ∈ structureDefs.keys) item.2.1 item.2.2) ∨
        ∀ item ∈ items, ∃ slot, FillsSlot (item.1 ∈ structureDefs.keys) item.2.1 item.2.2 slot) := by
  refine ⟨?_, fun dataSymbols values items found clear => splitHarmless_iff positive found clear⟩
  unfold writeListByName
  cases resolved : resolveSymbols adsGetSymbolInfo cacheSymbolInfo symbolInfoCache dataNamesAndValues.keys with
  | error e => exact iff_of_true (fun _ _ _ => ⟨rfl, rfl, fun _ _ => rfl⟩) (by rintro _ _ _ ⟨⟩)
  | ok both =>
    obtain ⟨dataSymbols, cache⟩ := both
    cases encoded : encodeStructures structureDefs.entries dataNamesAndValues with
    | error e => exact iff_of_true (fun _ _ _ => ⟨rfl, rfl, fun _ _ => rfl⟩) (by rintro _ _ _ _ ⟨⟩)
    | ok values =>
      have size : dataNamesAndValues.entries.length = values.entries.length := by
        have keys := congrArg List.length (keys_encodeStructures encoded)
        simpa [OrderedDict.keys] using keys.symm
      rw [size]
      refine (writeList_split_iff positive).trans ⟨?_, fun harmless => harmless dataSymbols cache values rfl rfl⟩
      rintro harmless _ _ _ ⟨⟩ ⟨⟩
      exact harmless

/-- Two counts, written in two slices. -/
theorem counters_write_split : SameOutcome []
    (writeListByName (symbolOf counters) logStore.device [] OrderedDict.empty counterValues true 2 ⟨[], by decide⟩)
    (writeListByName (symbolOf counters) logStore.device [] OrderedDict.empty counterValues true 1 ⟨[], by decide⟩) := by
  refine (write_list_split_iff (symbolOf counters) OrderedDict.empty counterValues true ⟨[], by decide⟩
    (by decide)).1.mpr ?_ _ logStore []
  intro dataSymbols cache values resolved encoded
  cases encoded
  cases resolved
  exact Or.inr (Or.inr ⟨_, rfl, rfl⟩)

def mixedValues : OrderedDict String PyVal := ⟨[("first", .int 5), ("second", .str [])], by decide⟩

/-- The second value is a text and cannot be packed as a count; the first is
stored nevertheless if it goes in a slice of its own. -/
theorem first_counter_written :
    (writeListByName (symbolOf counters) logStore.device [] OrderedDict.empty mixedValues true 1
      ⟨[], by decide⟩).2 = [(⟨16448, 0, 2⟩, [5, 0])] ∧
    ¬ SameOutcome [] (writeListByName (symbolOf counters) logStore.device [] OrderedDict.empty mixedValues true 2
        ⟨[], by decide⟩)
      (writeListByName (symbolOf counters) logStore.device [] OrderedDict.empty mixedValues true 1
        ⟨[], by decide⟩) := by
  have stored : (writeListByName (symbolOf counters) logStore.device [] OrderedDict.empty mixedValues true 1
      ⟨[], by decide⟩).2 = [(⟨16448, 0, 2⟩, [5, 0])] := by decide +kernel
  refine ⟨stored, fun same => ?_⟩
  have unwritten := same.unwritten _ rfl
  rw [stored] at unwritten
  cases unwritten

end PyAds
