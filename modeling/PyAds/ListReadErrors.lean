import PyAds.ListRead
import PyAds.StructureLayout

/-! Failing items in a list read. Each slice of the read first stores the
error texts of its failed items, and then decodes the entries of structured
names; the last item of a name in a slice decides what is decoded there. -/
namespace PyAds
open Fallible SlotSequence

/-! ## Merging -/

/-- A list read merges the dictionaries of its slices. -/
theorem readList_parts {read : Nat → List String → Result (OrderedDict String PyVal)} {dataNames : List String}
    (positive : 0 < adsSubCommands) : readList read dataNames adsSubCommands = .ok final ↔ ∃ parts,
      ((slicesOf dataNames adsSubCommands).zipIdx).mapM (fun slice => read slice.2 slice.1) = .ok parts ∧
        parts.foldl OrderedDict.update OrderedDict.empty = final := by
  have loop (slices : List (List String)) (call : Nat) (returnData : OrderedDict String PyVal) :
      readSlices read slices call returnData = .ok final ↔ ∃ parts,
        (slices.zipIdx call).mapM (fun slice => read slice.2 slice.1) = .ok parts ∧
          parts.foldl OrderedDict.update returnData = final := by
    induction slices generalizing call returnData with
    | nil => simp [readSlices, pure, Except.pure]
    | cons slice slices ih =>
      rw [readSlices, bind_eq_ok, List.zipIdx_cons, List.mapM_cons]
      simp only [ih, bind_eq_ok, pure, Except.pure, Except.ok.injEq]
      constructor
      · rintro ⟨part, first, parts, rest, merged⟩
        exact ⟨_, ⟨part, first, parts, rest, rfl⟩, merged⟩
      · rintro ⟨_, ⟨part, first, parts, rest, rfl⟩, merged⟩
        exact ⟨part, first, parts, rest, merged⟩
  unfold readList slicesOf
  split
  · refine Iff.trans ?_ (loop [dataNames] 0 OrderedDict.empty)
    rw [readSlices, bind_eq_ok]
    simp only [readSlices, OrderedDict.empty_update, Except.ok.injEq, exists_eq_right]
  · rw [listSliceGenerator, if_neg (by omega)]
    exact loop _ 0 _

/-! ## Texts in place of bytes -/

open StructureDef in
/-- Without elements nothing is read. -/
theorem readFields_of_layout_nil {structureDef : StructureDef} (empty : structureDef.layout = [])
    (first second : ByteSource) (index : Nat) (values : Entries) :
    readFields structureDef first index values = readFields structureDef second index values := by
  induction structureDef generalizing first second index values with
  | nil => rfl
  | item var plcDatatype size strLen rest ih =>
    rw [layout, List.append_eq_nil_iff, List.replicate_eq_nil_iff] at empty
    obtain ⟨rfl, after⟩ := empty
    simp only [readFields, repeatRead, bind, Except.bind, ih after first second]
  | nested var plcDatatype size rest ihNested ih =>
    rw [layout, List.append_eq_nil_iff] at empty
    obtain ⟨here, after⟩ := empty
    cases size with
    | zero => simp only [readFields, repeatRead, bind, Except.bind, ih after first second]
    | succ size =>
      rw [List.replicate_succ, List.flatten_cons, List.append_eq_nil_iff] at here
      simp only [readFields, bind, Except.bind, ih after first second]
      simp only [fun index nBytes => ihNested here.1 (first.slice index nBytes) (second.slice index nBytes) 0 []]

private theorem readElement_text (text : Text.Str) (plcDatatype : PlcType) (strLen : Option Nat) (index : Nat) :
    ∃ e, readElement (.text text) plcDatatype strLen index = .error e := by
  cases plcDatatype <;> exact ⟨_, rfl⟩

open StructureDef in
/-- An element cannot be read from a text. -/
theorem readFields_text {structureDef : StructureDef} (some_ : structureDef.layout ≠ []) (text : Text.Str)
    (index : Nat) (values : Entries) : ¬ ∃ result, readFields structureDef (.text text) index values = .ok result := by
  induction structureDef generalizing text index values with
  | nil => exact absurd rfl some_
  | item var plcDatatype size strLen rest ih =>
    rintro ⟨result, read⟩
    obtain ⟨⟨varArray, index'⟩, loop, after⟩ := bind_eq_ok.mp read
    cases size with
    | zero => exact ih (by simpa [layout] using some_) text index' _ ⟨result, after⟩
    | succ size =>
      obtain ⟨e, raised⟩ := readElement_text text plcDatatype strLen index
      simp [repeatRead, raised, bind, Except.bind] at loop
  | nested var plcDatatype size rest ihNested ih =>
    rintro ⟨result, read⟩
    obtain ⟨⟨varArray, index'⟩, loop, after⟩ := bind_eq_ok.mp read
    by_cases empty : rest.layout = []
    · cases size with
      | zero => simp [layout, empty] at some_
      | succ size =>
        have inner : plcDatatype.layout ≠ [] := by
          intro none_
          simp [layout, empty, none_] at some_
        obtain ⟨⟨element, index''⟩, first, -⟩ := bind_eq_ok.mp loop
        obtain ⟨nBytes, -, body⟩ := bind_eq_ok.mp first
        obtain ⟨fields, inside, -⟩ := bind_eq_ok.mp body
        exact ihNested inner _ 0 [] ⟨fields, inside⟩
    · exact ih empty text index' _ ⟨result, after⟩

/-- One structure is decoded to a dictionary. -/
private theorem dictFromBytes_single_eq_ok : dictFromBytes source structureDef 1 = .ok value ↔
    ∃ fields index, readFields structureDef source 0 [] = .ok (fields, index) ∧ .dict fields = value := by
  rw [dictFromBytes, bind_eq_ok]
  constructor
  · rintro ⟨⟨valuesList, after⟩, loop, final⟩
    obtain ⟨⟨first, index⟩, read, rest⟩ := bind_eq_ok.mp loop
    obtain ⟨⟨fields, index'⟩, inside, same⟩ := bind_eq_ok.mp read
    cases same
    cases rest
    exact ⟨fields, _, inside, Except.ok.inj final⟩
  · rintro ⟨fields, index, inside, rfl⟩
    exact ⟨([.dict fields], index), by simp [repeatRead, inside, bind, Except.bind, pure, Except.pure], rfl⟩

theorem decodeStructure_dict (decoded : decodeStructure value structureDef = .ok result) :
    ∃ fields, result = .dict fields := by
  obtain ⟨byteList, -, read⟩ := bind_eq_ok.mp decoded
  obtain ⟨fields, index, -, same⟩ := dictFromBytes_single_eq_ok.mp read
  exact ⟨fields, same.symm⟩

/-- A text is decoded only if there is nothing to decode. -/
theorem layout_nil_of_decodeStructure_text
    (decoded : decodeStructure (.str text) structureDef = .ok result) : structureDef.layout = [] := by
  by_contra some_
  obtain ⟨fields, index, read, -⟩ := dictFromBytes_single_eq_ok.mp decoded
  exact readFields_text some_ text 0 [] ⟨_, read⟩

theorem decodeStructure_of_layout_nil (empty : structureDef.layout = [])
    (decoded : decodeStructure value structureDef = .ok result) (text : Text.Str) :
    decodeStructure (.str text) structureDef = .ok result := by
  obtain ⟨byteList, -, read⟩ := bind_eq_ok.mp decoded
  obtain ⟨fields, index, inside, same⟩ := dictFromBytes_single_eq_ok.mp read
  rw [readFields_of_layout_nil empty byteList (.text text)] at inside
  exact dictFromBytes_single_eq_ok.mpr ⟨fields, index, inside, same⟩

/-! ## One slice -/

/-- One item of a list read: what the device answers, and the data it returns
when nothing fails. -/
structure ReadItem where
  dataName : String
  reply : ItemReply
  data : Bytes
  same : reply.status = 0 → reply.data = data

def ReadItem.unfailed (item : ReadItem) : ItemReply := ⟨0, item.data⟩

theorem ReadItem.reply_eq_unfailed {item : ReadItem}
    (zero : item.reply.status = 0) : item.reply = item.unfailed := by
  have data := item.same zero
  cases found : item.reply with
  | mk status bytes =>
    rw [found] at zero data
    rw [unfailed, ← data, ← zero]

/-- The item is the last one of its name. -/
def LastOf (items : List ReadItem) (item : ReadItem) : Prop :=
  ∃ before after, items = before ++ item :: after ∧ item.dataName ∉ after.map (·.dataName)

theorem LastOf.mem (last : LastOf items item) : item ∈ items := by
  obtain ⟨before, after, rfl, -⟩ := last
  simp

theorem exists_lastOf {items : List ReadItem} (named : dataName ∈ items.map (·.dataName)) :
    ∃ item, LastOf items item ∧ item.dataName = dataName := by
  induction items with
  | nil => cases named
  | cons head items ih =>
    by_cases later : dataName ∈ items.map (·.dataName)
    · obtain ⟨item, ⟨before, after, rfl, fresh⟩, name⟩ := ih later
      exact ⟨item, ⟨head :: before, after, rfl, fresh⟩, name⟩
    · rcases List.mem_cons.mp named with rfl | member
      · exact ⟨head, ⟨[], items, rfl, later⟩, rfl⟩
      · exact absurd member later

section Slice
variable {dataSymbols : DataSymbols} {structureDefs : StructureDefs} {slice : List ReadItem}
  {answer : ReadItem → ItemReply}

/-- What a sum read stores for an item. -/
def ReadItem.entry (dataSymbols : DataSymbols) (structureDefs : StructureDefs) (answer : ReadItem → ItemReply)
    (item : ReadItem) : Result PyVal := do
  let symbol ← symbolOf dataSymbols item.dataName
  itemResult (item.dataName ∈ structureDefs.keys) symbol (answer item)

/-- The device returns as many bytes as the symbol has, and a number fits its
symbol. -/
def Fits (dataSymbols : DataSymbols) (structureDefs : StructureDefs) (answer : ReadItem → ItemReply)
    (item : ReadItem) : Prop :=
  ∃ symbol, symbolOf dataSymbols item.dataName = .ok symbol ∧ (answer item).data.length = symbol.size.toNat ∧
    HoldsElement (item.dataName ∈ structureDefs.keys) symbol

/-- What a slice returns: the last item of each name decides. -/
structure SliceRead (dataSymbols : DataSymbols) (structureDefs : StructureDefs) (answer : ReadItem → ItemReply)
    (slice : List ReadItem) (part : OrderedDict String PyVal) : Prop where
  keys : part.keys = (slice.map (·.dataName)).foldl OrderedDict.addKey []
  stored : ∀ item ∈ slice, ∃ value, item.entry dataSymbols structureDefs answer = .ok value
  decoded : ∀ item, LastOf slice item → ∃ value decoded, item.entry dataSymbols structureDefs answer = .ok value ∧
    decodeEntry structureDefs.entries item.dataName value = .ok decoded ∧ part.get? item.dataName = some decoded

private theorem entries_of_items {symbols : List SAdsSymbolEntry}
    (found : List.Forall₂ (fun (item : ReadItem) symbol => symbolOf dataSymbols item.dataName = .ok symbol)
      slice symbols) :
    (((slice.map (·.dataName)).zip symbols).zip (slice.map answer)).mapM (fun item =>
      itemResult (item.1.1 ∈ structureDefs.keys) item.1.2 item.2) =
      slice.mapM (·.entry dataSymbols structureDefs answer) := by
  induction found with
  | nil => rfl
  | @cons item symbol slice symbols here _ ih =>
    have first : item.entry dataSymbols structureDefs answer =
        itemResult (item.dataName ∈ structureDefs.keys) symbol (answer item) := by
      rw [ReadItem.entry, here]
      rfl
    simp only [List.map_cons, List.zip_cons_cons, List.mapM_cons, ih, first]

/-- A dictionary that is assigned one value for each item holds the value of
the last item of a name. -/
private theorem get?_setAll_lastOf {relates : ReadItem → β → Prop} (related : List.Forall₂ relates slice values) :
    (OrderedDict.empty.setAll ((slice.map (·.dataName)).zip values)).keys =
      (slice.map (·.dataName)).foldl OrderedDict.addKey [] ∧
    ∀ item, LastOf slice item → ∃ value, relates item value ∧
      (OrderedDict.empty.setAll ((slice.map (·.dataName)).zip values)).get? item.dataName = some value := by
  have length : (slice.map (·.dataName)).length = values.length := by rw [List.length_map, related.length_eq]
  refine ⟨by rw [OrderedDict.keys_setAll, List.map_fst_zip length.le, OrderedDict.keys_empty], ?_⟩
  rintro item ⟨before, after, rfl, fresh⟩
  obtain ⟨head, tail, first, rest, rfl⟩ := forall₂_append_left.mp related
  obtain ⟨value, tail, here, others, rfl⟩ := List.forall₂_cons_left_iff.mp rest
  refine ⟨value, here, ?_⟩
  rw [List.map_append, List.map_cons, List.zip_append (by simpa using first.length_eq), List.zip_cons_cons]
  apply OrderedDict.get?_setAll_of_last
  rwa [List.map_fst_zip (by simpa using others.length_eq.le)]

/-- A slice whose replies fit returns exactly this. -/
theorem sumRead_eq_ok_iff (fits : ∀ item ∈ slice, Fits dataSymbols structureDefs answer item) :
    sumRead (fun _ => .ok (sumReply (slice.map answer))) dataSymbols structureDefs (slice.map (·.dataName)) =
      .ok part ↔ SliceRead dataSymbols structureDefs answer slice part := by
  obtain ⟨symbols, all⟩ := exists_forall₂ fits
  have found : List.Forall₂ (fun (item : ReadItem) symbol => symbolOf dataSymbols item.dataName = .ok symbol)
      slice symbols := all.imp fun _ _ here => here.1
  have mapped : (slice.map (·.dataName)).mapM (symbolOf dataSymbols) = .ok symbols :=
    mapM_eq_ok.mpr (List.forall₂_map_left_iff.mpr found)
  have whole : List.Forall₂ (fun (symbol : SAdsSymbolEntry) (reply : ItemReply) =>
      reply.data.length = symbol.size.toNat) symbols (slice.map answer) :=
    List.forall₂_map_right_iff.mpr (all.imp fun _ _ here => here.2.1).flip
  have held : List.Forall₂ (fun dataName symbol => HoldsElement (dataName ∈ structureDefs.keys) symbol)
      (slice.map (·.dataName)) symbols := List.forall₂_map_left_iff.mpr (all.imp fun _ _ here => here.2.2)
  have length {values : List PyVal} (each : slice.mapM (·.entry dataSymbols structureDefs answer) = .ok values) :
      (slice.map (·.dataName)).length = values.length := by
    rw [List.length_map, (mapM_eq_ok.mp each).length_eq]
  rw [sumRead, bind_eq_ok]
  simp only [adsSumRead_replies mapped whole (fun item member => List.forall₂_zip held member),
    entries_of_items found,
    decodeStructures_eq_ok structureDefs.nodup]
  constructor
  · rintro ⟨_, ⟨values, each, rfl⟩, keys, decoded⟩
    obtain ⟨sameKeys, last⟩ := get?_setAll_lastOf (mapM_eq_ok.mp each)
    rw [← OrderedDict.fromKeys_setAll (length each) PyVal.none] at sameKeys last
    refine ⟨keys.trans sameKeys, exists_mapM_eq_ok.mp ⟨values, each⟩, fun item final => ?_⟩
    obtain ⟨value, entry, here⟩ := last item final
    obtain ⟨final, stage, there⟩ := decoded _ value here
    exact ⟨value, final, entry, stage, there⟩
  · rintro ⟨keys, stored, decoded⟩
    obtain ⟨values, each⟩ := exists_mapM_eq_ok.mpr stored
    obtain ⟨sameKeys, last⟩ := get?_setAll_lastOf (mapM_eq_ok.mp each)
    rw [← OrderedDict.fromKeys_setAll (length each) PyVal.none] at sameKeys last
    refine ⟨_, ⟨values, each, rfl⟩, keys.trans sameKeys.symm, fun dataName value here => ?_⟩
    have named : dataName ∈ slice.map (·.dataName) := by
      by_contra absent
      have unknown := OrderedDict.get?_eq_none_iff.mpr (show dataName ∉ _ by
        rw [sameKeys, OrderedDict.mem_foldl_addKey]
        simpa using absent)
      cases unknown.symm.trans here
    obtain ⟨item, final, rfl⟩ := exists_lastOf named
    obtain ⟨other, entry, there⟩ := last item final
    obtain ⟨other', result, entry', stage, held⟩ := decoded item final
    cases here.symm.trans there
    cases entry.symm.trans entry'
    exact ⟨result, stage, held⟩

/-! ## Failures within a slice -/

private theorem entry_of_zero {item : ReadItem} (zero : item.reply.status = 0) :
    item.entry dataSymbols structureDefs (·.reply) = item.entry dataSymbols structureDefs (·.unfailed) := by
  rw [ReadItem.entry, item.reply_eq_unfailed zero]
  rfl

private theorem entry_of_failed {item : ReadItem} (fits : Fits dataSymbols structureDefs answer item)
    (failed : item.reply.status ≠ 0) (known : ERROR_CODES item.reply.status.toNat = some text) :
    item.entry dataSymbols structureDefs (·.reply) = .ok (.str (Text.ofChars text.toList)) := by
  obtain ⟨symbol, found, -⟩ := fits
  rw [ReadItem.entry, found]
  exact (if_pos failed).trans (errorText_eq_ok.mpr ⟨text, known, rfl⟩)

/-- A slice returns despite its failures if no failed item is decoded. -/
theorem exists_sliceRead (clean : SliceRead dataSymbols structureDefs (·.unfailed) slice part)
    (fits : ∀ item ∈ slice, Fits dataSymbols structureDefs answer item)
    (known : ∀ item ∈ slice, item.reply.status ≠ 0 → Known item.reply.status.toNat)
    (empty : ∀ item, LastOf slice item → item.reply.status ≠ 0 → ∀ structureDef,
      structureDefs.get? item.dataName = some structureDef → structureDef.layout = []) :
    ∃ part', SliceRead dataSymbols structureDefs (·.reply) slice part' := by
  have each : ∀ item ∈ slice, ∃ decoded, LastOf slice item → ∃ value,
      item.entry dataSymbols structureDefs (·.reply) = .ok value ∧
        decodeEntry structureDefs.entries item.dataName value = .ok decoded := by
    intro item member
    by_cases last : LastOf slice item
    · obtain ⟨value, decoded, entry, stage, -⟩ := clean.decoded item last
      by_cases zero : item.reply.status = 0
      · exact ⟨decoded, fun _ => ⟨value, (entry_of_zero zero).trans entry, stage⟩⟩
      · obtain ⟨text, found⟩ := known item member zero
        have stored := entry_of_failed (fits item member) zero found
        cases structured : OrderedDict.lookup item.dataName structureDefs.entries with
        | none => exact ⟨_, fun _ => ⟨_, stored, by rw [decodeEntry, structured]⟩⟩
        | some structureDef =>
          rw [decodeEntry, structured] at stage
          have again := decodeStructure_of_layout_nil (empty item last zero structureDef structured) stage
            (Text.ofChars text.toList)
          exact ⟨decoded, fun _ => ⟨_, stored, by rwa [decodeEntry, structured]⟩⟩
    · exact ⟨.none, fun final => absurd final last⟩
  obtain ⟨values, related⟩ := exists_forall₂ each
  obtain ⟨keys, last⟩ := get?_setAll_lastOf related
  refine ⟨_, ⟨keys, fun item member => ?_, fun item final => ?_⟩⟩
  · by_cases zero : item.reply.status = 0
    · rw [entry_of_zero zero]
      exact clean.stored item member
    · obtain ⟨text, found⟩ := known item member zero
      exact ⟨_, entry_of_failed (fits item member) zero found⟩
  · obtain ⟨decoded, here, held⟩ := last item final
    obtain ⟨value, entry, stage⟩ := here final
    exact ⟨value, decoded, entry, stage, held⟩

end Slice

/-! ## The whole list -/

/-- The replies to the sum reads of a list. -/
def answers (items : List ReadItem) (answer : ReadItem → ItemReply) (adsSubCommands call : Nat)
    (_ : List SumRequest) : Result Bytes :=
  .ok (sumReply (((slicesOf items adsSubCommands)[call]?.getD []).map answer))

theorem readList_answers_iff {items : List ReadItem} {answer : ReadItem → ItemReply}
    {dataSymbols : DataSymbols} {structureDefs : StructureDefs} (positive : 0 < adsSubCommands)
    (fits : ∀ item ∈ items, Fits dataSymbols structureDefs answer item) :
    readList (fun call => sumRead (answers items answer adsSubCommands call) dataSymbols structureDefs)
      (items.map (·.dataName)) adsSubCommands = .ok final ↔ ∃ parts,
        List.Forall₂ (SliceRead dataSymbols structureDefs answer) (slicesOf items adsSubCommands) parts ∧
          parts.foldl OrderedDict.update OrderedDict.empty = final := by
  have calls : (slicesOf (items.map (·.dataName)) adsSubCommands).zipIdx.map (fun slice =>
      sumRead (answers items answer adsSubCommands slice.2) dataSymbols structureDefs slice.1) =
      (slicesOf items adsSubCommands).map fun slice => sumRead (fun _ => .ok (sumReply (slice.map answer)))
        dataSymbols structureDefs (slice.map (·.dataName)) := by
    rw [slicesOf_map]
    apply List.ext_getElem (by simp)
    intro call inside inside'
    have within : call < (slicesOf items adsSubCommands).length := by simpa using inside'
    have answered : answers items answer adsSubCommands call =
        fun _ => .ok (sumReply ((slicesOf items adsSubCommands)[call].map answer)) := by
      funext requests
      simp [answers, within]
    simp [answered]
  have each : ∀ slice ∈ slicesOf items adsSubCommands, ∀ item ∈ slice, Fits dataSymbols structureDefs answer item := by
    intro slice member item held
    apply fits item
    rw [← flatten_slicesOf positive items]
    exact List.mem_flatten_of_mem member held
  rw [readList_parts positive]
  refine exists_congr fun parts => and_congr_left fun _ => ?_
  have separate := congrArg (fun runs => runs.mapM id) calls
  simp only [List.mapM_map, Function.comp_def, id_eq] at separate
  rw [separate, mapM_eq_ok]
  exact forall₂_congr fun slice member part => sumRead_eq_ok_iff (each slice member)

private theorem lastOf_flatten {slices : List (List ReadItem)} (last : LastOf slices.flatten item) :
    ∃ before slice after, slices = before ++ slice :: after ∧ LastOf slice item ∧
      item.dataName ∉ after.flatten.map (·.dataName) := by
  obtain ⟨earlier, later, split, fresh⟩ := last
  rcases List.flatten_eq_append_iff.mp split with ⟨before, after, rfl, -, rest⟩ |
    ⟨before, head, _, tail, after, rfl, -, rest⟩
  · obtain ⟨empty, tail, after', rfl, none_, rfl⟩ := List.flatten_eq_cons_iff.mp rest.symm
    rw [List.map_append, List.mem_append, not_or] at fresh
    exact ⟨before ++ empty, item :: tail, after', by simp, ⟨[], tail, rfl, fresh.1⟩, fresh.2⟩
  · obtain ⟨same, others⟩ := List.cons.inj rest
    subst same
    change later = tail ++ after.flatten at others
    rw [others, List.map_append, List.mem_append, not_or] at fresh
    exact ⟨before, head ++ item :: tail, after, rfl, ⟨head, tail, rfl, fresh.1⟩, fresh.2⟩

private theorem lastOf_of_slice {slices : List (List ReadItem)} (split : slices = before ++ slice :: after)
    (last : LastOf slice item) (fresh : item.dataName ∉ after.flatten.map (·.dataName)) :
    LastOf slices.flatten item := by
  obtain ⟨earlier, later, rfl, here⟩ := last
  refine ⟨before.flatten ++ earlier, later ++ after.flatten, by simp [split], ?_⟩
  rw [List.map_append, List.mem_append, not_or]
  exact ⟨here, fresh⟩

/-- The last slice with a name decides its value. -/
private theorem get?_parts {slices : List (List ReadItem)} {before after : List (List ReadItem)}
    (related : List.Forall₂ (SliceRead dataSymbols structureDefs answer) slices parts)
    (split : slices = before ++ slice :: after) (last : LastOf slice item)
    (fresh : item.dataName ∉ after.flatten.map (·.dataName)) :
    ∃ value decoded, item.entry dataSymbols structureDefs answer = .ok value ∧
      decodeEntry structureDefs.entries item.dataName value = .ok decoded ∧
      (parts.foldl OrderedDict.update OrderedDict.empty).get? item.dataName = some decoded := by
  rw [split] at related
  obtain ⟨first, rest, -, behind, rfl⟩ := forall₂_append_left.mp related
  obtain ⟨part, others, here, later, rfl⟩ := List.forall₂_cons_left_iff.mp behind
  obtain ⟨value, decoded, entry, stage, held⟩ := here.decoded item last
  refine ⟨value, decoded, entry, stage, OrderedDict.get?_foldl_update_of_last held ?_⟩
  intro other member named
  obtain ⟨slice', among, sliceRead⟩ := exists_of_mem_right later member
  rw [sliceRead.keys, OrderedDict.mem_foldl_addKey] at named
  obtain ⟨item', held', name⟩ := List.mem_map.mp (by simpa using named)
  exact fresh (List.mem_map.mpr ⟨item', List.mem_flatten_of_mem among held', name⟩)

private theorem keys_parts {first second : ReadItem → ItemReply} {slices : List (List ReadItem)}
    (one : List.Forall₂ (SliceRead dataSymbols structureDefs first) slices parts)
    (two : List.Forall₂ (SliceRead dataSymbols structureDefs second) slices parts') :
    (parts.foldl OrderedDict.update OrderedDict.empty).keys =
      (parts'.foldl OrderedDict.update OrderedDict.empty).keys := by
  have folded (start start' : OrderedDict String PyVal) (same : start.keys = start'.keys) :
      (parts.foldl OrderedDict.update start).keys = (parts'.foldl OrderedDict.update start').keys := by
    induction one generalizing parts' start start' with
    | nil =>
      cases two
      exact same
    | cons here _ ih =>
      obtain ⟨part', others, there, later, rfl⟩ := List.forall₂_cons_left_iff.mp two
      apply ih later _ _
      rw [OrderedDict.keys_update, OrderedDict.keys_update, same, here.keys, there.keys]
  exact folded _ _ rfl

/-- What a list read returns if a failure concerns its own item only: for
each name, its last item decides between the text of its status and the value
that is read when nothing fails. -/
structure FailuresReported (items : List ReadItem) (unfailed result : OrderedDict String PyVal) : Prop where
  keys : result.keys = unfailed.keys
  failed : ∀ item, LastOf items item → item.reply.status ≠ 0 → ∃ text,
    ERROR_CODES item.reply.status.toNat = some text ∧
      result.get? item.dataName = some (.str (Text.ofChars text.toList))
  unharmed : ∀ item, LastOf items item → item.reply.status = 0 →
    result.get? item.dataName = unfailed.get? item.dataName

/-- Within each slice, the last item of a structured name does not fail. The
one exception is a definition without elements, if a later slice reads the
name again. -/
def StructuresSurvive (items : List ReadItem) (adsSubCommands : Nat) (structureDefs : StructureDefs) : Prop :=
  ∀ before slice after, slicesOf items adsSubCommands = before ++ slice :: after →
    ∀ item, LastOf slice item → item.reply.status ≠ 0 →
      ∀ structureDef, structureDefs.get? item.dataName = some structureDef →
        structureDef.layout = [] ∧ item.dataName ∈ after.flatten.map (·.dataName)

section Reported
variable {items : List ReadItem} {dataSymbols : DataSymbols} {structureDefs : StructureDefs} {adsSubCommands : Nat}
  {parts failedParts : List (OrderedDict String PyVal)}
  (positive : 0 < adsSubCommands)
  (texts : ∀ item ∈ items, item.reply.status ≠ 0 → ∃ text, ERROR_CODES item.reply.status.toNat = some text ∧
    item.entry dataSymbols structureDefs (·.reply) = .ok (.str (Text.ofChars text.toList)))
  (related : List.Forall₂ (SliceRead dataSymbols structureDefs (·.reply)) (slicesOf items adsSubCommands) failedParts)
include positive texts related

private theorem structuresSurvive_of_reported
    (reported : FailuresReported items unfailed (failedParts.foldl OrderedDict.update OrderedDict.empty)) :
    StructuresSurvive items adsSubCommands structureDefs := by
  intro before slice after split item last failed structureDef structured
  have whole := flatten_slicesOf positive items
  have member : item ∈ items := by
    rw [← whole, split]
    exact List.mem_flatten_of_mem (by simp) last.mem
  obtain ⟨text, found, stored⟩ := texts item member failed
  have decoding {value decoded} (entry : item.entry dataSymbols structureDefs (·.reply) = .ok value)
      (stage : decodeEntry structureDefs.entries item.dataName value = .ok decoded) :
      decodeStructure (.str (Text.ofChars text.toList)) structureDef = .ok decoded := by
    cases stored.symm.trans entry
    rwa [decodeEntry, show OrderedDict.lookup item.dataName structureDefs.entries = some structureDef from structured]
      at stage
  have within := related
  rw [split] at within
  obtain ⟨first, rest, -, behind, rfl⟩ := forall₂_append_left.mp within
  obtain ⟨part, others, here, later, rfl⟩ := List.forall₂_cons_left_iff.mp behind
  obtain ⟨value, decoded, entry, stage, -⟩ := here.decoded item last
  refine ⟨layout_nil_of_decodeStructure_text (decoding entry stage), ?_⟩
  -- otherwise the dictionary of the last slice with the name would be the text
  by_contra fresh
  obtain ⟨value, decoded, entry, stage, held⟩ := get?_parts related split last fresh
  obtain ⟨fields, rfl⟩ := decodeStructure_dict (decoding entry stage)
  obtain ⟨_, -, texts⟩ := reported.failed item (whole ▸ lastOf_of_slice split last fresh) failed
  cases held.symm.trans texts

private theorem failuresReported_of_survive
    (clean : List.Forall₂ (SliceRead dataSymbols structureDefs (·.unfailed)) (slicesOf items adsSubCommands) parts)
    (survive : StructuresSurvive items adsSubCommands structureDefs) :
    FailuresReported items (parts.foldl OrderedDict.update OrderedDict.empty)
      (failedParts.foldl OrderedDict.update OrderedDict.empty) := by
  have whole := flatten_slicesOf positive items
  refine ⟨keys_parts related clean, fun item last failed => ?_, fun item last zero => ?_⟩
  · obtain ⟨before, slice, after, split, final, fresh⟩ := lastOf_flatten (whole.symm ▸ last)
    obtain ⟨text, found, stored⟩ := texts item last.mem failed
    obtain ⟨value, decoded, entry, stage, held⟩ := get?_parts related split final fresh
    have unstructured : OrderedDict.lookup item.dataName structureDefs.entries = none := by
      rw [Option.eq_none_iff_forall_ne_some]
      intro structureDef structured
      exact fresh (survive before slice after split item final failed structureDef structured).2
    cases stored.symm.trans entry
    rw [decodeEntry, unstructured] at stage
    cases stage
    exact ⟨text, found, held⟩
  · obtain ⟨before, slice, after, split, final, fresh⟩ := lastOf_flatten (whole.symm ▸ last)
    obtain ⟨value, decoded, entry, stage, held⟩ := get?_parts related split final fresh
    obtain ⟨value', decoded', entry', stage', held'⟩ := get?_parts clean split final fresh
    rw [entry_of_zero zero] at entry
    cases entry.symm.trans entry'
    cases stage.symm.trans stage'
    exact held.trans held'.symm

end Reported

/-- A failing item does no harm to a list read exactly when no slice decodes
the error text of a structured name. -/
theorem read_list_failures_iff (items : List ReadItem) (adsGetSymbolInfo : String → Result SAdsSymbolEntry)
    (symbolInfoCache : DataSymbols) (cacheSymbolInfo : Bool) (structureDefs : StructureDefs)
    (positive : 0 < adsSubCommands)
    (resolved : resolveSymbols adsGetSymbolInfo cacheSymbolInfo symbolInfoCache (items.map (·.dataName)) =
      .ok (dataSymbols, cache))
    (fits : ∀ item ∈ items, Fits dataSymbols structureDefs (·.unfailed) item ∧
      Fits dataSymbols structureDefs (·.reply) item)
    (known : ∀ item ∈ items, item.reply.status ≠ 0 → Known item.reply.status.toNat)
    (clean : (readListByName ⟨adsGetSymbolInfo, answers items (·.unfailed) adsSubCommands⟩ symbolInfoCache
      (items.map (·.dataName)) cacheSymbolInfo adsSubCommands structureDefs).1 = .ok unfailed) :
    (∃ result, (readListByName ⟨adsGetSymbolInfo, answers items (·.reply) adsSubCommands⟩ symbolInfoCache
        (items.map (·.dataName)) cacheSymbolInfo adsSubCommands structureDefs).1 = .ok result ∧
      FailuresReported items unfailed result) ↔ StructuresSurvive items adsSubCommands structureDefs := by
  simp only [readListByName, resolved] at clean ⊢
  obtain ⟨parts, cleanParts, rfl⟩ := (readList_answers_iff positive fun item member => (fits item member).1).mp clean
  simp only [readList_answers_iff positive fun item member => (fits item member).2]
  have texts (item : ReadItem) (member : item ∈ items) (failed : item.reply.status ≠ 0) : ∃ text,
      ERROR_CODES item.reply.status.toNat = some text ∧
        item.entry dataSymbols structureDefs (·.reply) = .ok (.str (Text.ofChars text.toList)) :=
    (known item member failed).imp fun text found => ⟨found, entry_of_failed (fits item member).2 failed found⟩
  constructor
  · rintro ⟨_, ⟨failedParts, related, rfl⟩, reported⟩
    exact structuresSurvive_of_reported positive texts related reported
  · intro survive
    have each : ∀ slice ∈ slicesOf items adsSubCommands, ∃ part,
        SliceRead dataSymbols structureDefs (·.reply) slice part := by
      intro slice member
      obtain ⟨before, after, split⟩ := List.append_of_mem member
      have among : ∀ item ∈ slice, item ∈ items := by
        intro item held
        rw [← flatten_slicesOf positive items]
        exact List.mem_flatten_of_mem member held
      obtain ⟨part, sliceRead⟩ : ∃ part, SliceRead dataSymbols structureDefs (·.unfailed) slice part := by
        rw [split] at cleanParts
        obtain ⟨_, _, -, behind, -⟩ := forall₂_append_left.mp cleanParts
        obtain ⟨part, _, here, -, -⟩ := List.forall₂_cons_left_iff.mp behind
        exact ⟨part, here⟩
      refine exists_sliceRead sliceRead (fun item held => (fits item (among item held)).1)
        (fun item held => known item (among item held)) ?_
      intro item last failed structureDef structured
      exact (survive before slice after split item last failed structureDef structured).1
    obtain ⟨failedParts, related⟩ := exists_forall₂ each
    exact ⟨_, ⟨failedParts, related, rfl⟩, failuresReported_of_survive positive texts related cleanParts survive⟩

/-- A full tank, and a level that is not supported. -/
def failedLevel : List ReadItem :=
  [⟨"tank", ⟨0, [1, 0]⟩, [1, 0], fun _ => rfl⟩, ⟨"level", ⟨1793, [0, 0]⟩, [5, 0], fun zero => by cases zero⟩]

/-- The level, and a tank that is not supported. -/
def failedTank : List ReadItem :=
  [⟨"tank", ⟨1793, [0, 0]⟩, [1, 0], fun zero => by cases zero⟩, ⟨"level", ⟨0, [5, 0]⟩, [5, 0], fun _ => rfl⟩]

theorem level_failure_reported :
    ∃ unfailed result, (readListByName ⟨symbolOf gaugeSymbols, answers failedLevel (·.unfailed) 2⟩
        OrderedDict.empty ["tank", "level"] true 2 tankDefs).1 = .ok unfailed ∧
      (readListByName ⟨symbolOf gaugeSymbols, answers failedLevel (·.reply) 2⟩ OrderedDict.empty
        ["tank", "level"] true 2 tankDefs).1 = .ok result ∧ FailuresReported failedLevel unfailed result := by
  have resolved : resolveSymbols (symbolOf gaugeSymbols) true OrderedDict.empty ["tank", "level"] =
      .ok (⟨[("tank", ⟨0x4040, 2, 2, 65, "ST_Tank".toList⟩), ("level", ⟨0x4040, 0, 2, 2, "INT".toList⟩)],
        by decide⟩, _) := rfl
  have unsupported : ERROR_CODES 1793 = some "Service is not supported by server" := by decide +kernel
  have clean : (readListByName ⟨symbolOf gaugeSymbols, answers failedLevel (·.unfailed) 2⟩
      OrderedDict.empty ["tank", "level"] true 2 tankDefs).1 = .ok _ := rfl
  have fits : ∀ item ∈ failedLevel,
      Fits ⟨[("tank", ⟨0x4040, 2, 2, 65, "ST_Tank".toList⟩), ("level", ⟨0x4040, 0, 2, 2, "INT".toList⟩)], by decide⟩
        tankDefs (·.unfailed) item ∧
      Fits ⟨[("tank", ⟨0x4040, 2, 2, 65, "ST_Tank".toList⟩), ("level", ⟨0x4040, 0, 2, 2, "INT".toList⟩)], by decide⟩
        tankDefs (·.reply) item := by
    intro item member
    rcases List.mem_cons.mp member with rfl | member
    · exact ⟨⟨_, rfl, rfl, by decide⟩, ⟨_, rfl, rfl, by decide⟩⟩
    · obtain rfl := List.mem_singleton.mp member
      exact ⟨⟨_, rfl, rfl, by decide⟩, ⟨_, rfl, rfl, by decide⟩⟩
  have known : ∀ item ∈ failedLevel, item.reply.status ≠ 0 → Known item.reply.status.toNat := by
    intro item member failed
    rcases List.mem_cons.mp member with rfl | member
    · exact absurd rfl failed
    · obtain rfl := List.mem_singleton.mp member
      exact ⟨_, unsupported⟩
  have survive : StructuresSurvive failedLevel 2 tankDefs := by
    intro before slice after split item last failed structureDef structured
    have within : item ∈ failedLevel := by
      rw [← flatten_slicesOf (by decide : 0 < 2) failedLevel, split]
      exact List.mem_flatten_of_mem (by simp) last.mem
    rcases List.mem_cons.mp within with rfl | member
    · exact absurd rfl failed
    · obtain rfl := List.mem_singleton.mp member
      cases structured
  obtain ⟨result, returned, reported⟩ := (read_list_failures_iff failedLevel (symbolOf gaugeSymbols)
    OrderedDict.empty true tankDefs (by decide) resolved fits known clean).mpr survive
  exact ⟨_, result, clean, returned, reported⟩

/-- The error text of the tank is decoded as if it were its bytes. -/
theorem tank_failure_raises :
    (∃ unfailed, (readListByName ⟨symbolOf gaugeSymbols, answers failedTank (·.unfailed) 2⟩ OrderedDict.empty
        ["tank", "level"] true 2 tankDefs).1 = .ok unfailed) ∧
      ¬ ∃ result, (readListByName ⟨symbolOf gaugeSymbols, answers failedTank (·.reply) 2⟩ OrderedDict.empty
        ["tank", "level"] true 2 tankDefs).1 = .ok result := by
  have raised : (readListByName ⟨symbolOf gaugeSymbols, answers failedTank (·.reply) 2⟩ OrderedDict.empty
      ["tank", "level"] true 2 tankDefs).1.toBool = false := by decide +kernel
  refine ⟨⟨_, rfl⟩, ?_⟩
  rintro ⟨result, returned⟩
  simp [returned, Except.toBool] at raised

end PyAds
