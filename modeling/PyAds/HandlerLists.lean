import PyAds.HandlerCatalogue

/-! List reads and list writes of a handler. A read is answered like one from a
memory as long as each requested size is that of the value; a write stores the
slot of each item in the variable with its indices. -/
namespace PyAds
open Fallible SlotSequence

namespace AdvancedHandler

/-! ## Reading -/

/-- The handler as a memory that answers with as many bytes as requested. -/
def memory (handler : AdvancedHandler) : DeviceMemory where
  read request :=
    match handler.getVariableByIndices request.iGroup request.iOffset with
    | .ok id =>
      if (handler.objects id).value.length = request.size.toNat then ⟨0, (handler.objects id).value⟩
      else ⟨0, List.replicate request.size.toNat 0⟩
    | .error _ => ⟨0, List.replicate request.size.toNat 0⟩
  whole request := by
    split
    · split
      · assumption
      · exact List.length_replicate
    · exact List.length_replicate

/-- The request is for a variable, and for as many bytes as it has. -/
def Serves (handler : AdvancedHandler) (request : SumRequest) (id : Nat) : Prop :=
  handler.getVariableByIndices request.iGroup request.iOffset = .ok id ∧
    (handler.objects id).value.length = request.size.toNat

theorem memory_read {handler : AdvancedHandler} {id : Nat} (serves : handler.Serves request id) :
    handler.memory.read request = ⟨0, (handler.objects id).value⟩ := by
  obtain ⟨found, size⟩ := serves
  simp only [memory, found, size, ↓reduceIte]

theorem flatMap_statusBytes_zero {statuses : List UInt32} (zero : ∀ status ∈ statuses, status = 0) :
    statuses.flatMap statusBytes = List.replicate (statuses.length * 4) 0 := by
  have word : statusBytes 0 = List.replicate 4 0 := rfl
  induction statuses with
  | nil => rfl
  | cons status statuses ih =>
    obtain ⟨rfl, others⟩ := List.forall_mem_cons.mp zero
    rw [List.flatMap_cons, ih others, word, ← List.replicate_add, List.length_cons, Nat.succ_mul, Nat.add_comm]

theorem sumRead_eq (handler : AdvancedHandler) (call : Nat) (requests : List SumRequest) :
    handler.plc.sumRead call requests = handler.sumupRead requests.length (requests.flatMap (·.bytes)) := by
  simp only [plc, handleReadWrite_sumupRead]

/-- A sum read of served requests is answered like one from the memory. -/
theorem sumRead_served {handler : AdvancedHandler} {requests : List SumRequest}
    (served : ∀ request ∈ requests, ∃ id, handler.Serves request id) (call : Nat) :
    handler.plc.sumRead call requests = handler.memory.reply requests := by
  have found := receivedRequests_bytes requests []
  rw [List.append_nil] at found
  have sent : ¬ (requests.flatMap (·.bytes)).length < requests.length * 12 := by
    have blocks : ∀ part ∈ requests.map (·.bytes), part.length = 12 := by simp
    rw [List.flatMap_def, length_flatten_blocks blocks, List.length_map]
    omega
  have values : List.Forall₂ (fun request part => (do
      let id ← handler.getVariableByIndices request.iGroup request.iOffset
      return (handler.objects id).value : Result Bytes) = .ok part) requests
      (requests.map fun request => (handler.memory.read request).data) := by
    rw [List.forall₂_map_right_iff, List.forall₂_same]
    intro request member
    obtain ⟨id, serves⟩ := served request member
    rw [memory_read serves, serves.1]
    rfl
  have statuses : (requests.map fun request => (handler.memory.read request).status).flatMap statusBytes =
      List.replicate (requests.length * 4) 0 := by
    rw [flatMap_statusBytes_zero, List.length_map]
    rw [List.forall_mem_map]
    intro request member
    obtain ⟨id, serves⟩ := served request member
    rw [memory_read serves]
  rw [List.flatMap_map] at statuses
  rw [sumRead_eq, sumupRead, if_neg sent, found, concatM_of_forall₂ values, DeviceMemory.reply, sumReply,
    List.flatMap_map, List.flatMap_map, statuses, List.flatMap_def]
  rfl

/-- Each symbol is one of a variable, with the size of its value. -/
def Resolves (handler : AdvancedHandler) (dataSymbols : DataSymbols) : Prop :=
  ∀ dataName symbol, dataSymbols.get? dataName = some symbol → ∃ id, handler.Serves symbol.request id

theorem sumRead_resolved {handler : AdvancedHandler} (resolves : handler.Resolves dataSymbols) (call : Nat) :
    sumRead (handler.plc.sumRead call) dataSymbols = sumRead handler.memory.reply dataSymbols := by
  funext structureDefs dataNames
  have same : adsSumRead (handler.plc.sumRead call) dataNames dataSymbols structureDefs.keys =
      adsSumRead handler.memory.reply dataNames dataSymbols structureDefs.keys := by
    unfold adsSumRead
    cases found : dataNames.mapM (symbolOf dataSymbols) with
    | error e => rfl
    | ok symbols =>
      have served : ∀ request ∈ symbols.map (·.request), ∃ id, handler.Serves request id := by
        intro request member
        obtain ⟨symbol, held, rfl⟩ := List.mem_map.mp member
        obtain ⟨dataName, -, known⟩ := exists_of_mem_right (mapM_eq_ok.mp found) held
        exact resolves dataName symbol (symbolOf_eq_ok.mp known)
      simp only [bind, Except.bind, adsSumReadBytes, sumRead_served served call]
  rw [sumRead, same, sumRead]

/-- A list read returns what each of its variables holds. -/
theorem readList_resolved {handler : AdvancedHandler} (resolves : handler.Resolves dataSymbols)
    (holds : ∀ dataName symbol, dataSymbols.get? dataName = some symbol → HoldsElement false symbol)
    (positive : 0 < adsSubCommands) :
    readList (fun call => sumRead (handler.plc.sumRead call) dataSymbols OrderedDict.empty) dataNames adsSubCommands =
        .ok result ↔
      dictOf (fun dataName => do
        let symbol ← symbolOf dataSymbols dataName
        readItem false symbol (handler.memory.read symbol.request).data 0) dataNames = .ok result := by
  have results (dataName : String) : handler.memory.resultOf dataSymbols OrderedDict.empty dataName = (do
      let symbol ← symbolOf dataSymbols dataName
      readItem false symbol (handler.memory.read symbol.request).data 0) := by
    have undecoded : handler.memory.resultOf dataSymbols OrderedDict.empty dataName =
        handler.memory.entryOf dataSymbols [] dataName := by
      exact bind_pure (handler.memory.entryOf dataSymbols [] dataName)
    rw [undecoded, DeviceMemory.entryOf]
    cases known : symbolOf dataSymbols dataName with
    | error e => rfl
    | ok symbol =>
      obtain ⟨id, serves⟩ := resolves dataName symbol (symbolOf_eq_ok.mp known)
      simp [bind, Except.bind, itemResult, memory_read serves]
  rw [← funext results]
  apply readList_eq_ok
  · intro call names part
    rw [sumRead_resolved resolves]
    exact DeviceMemory.sumRead_eq_ok (by simpa using holds)
  · exact positive

/-- All statuses of an answer are zero. -/
theorem statuses_of_sumRead {handler : AdvancedHandler} {requests : List SumRequest}
    (answered : handler.plc.sumRead call requests = .ok reply) :
    ∃ values, reply = List.replicate (requests.length * 4) 0 ++ values := by
  rw [sumRead_eq, sumupRead] at answered
  split at answered
  · cases answered
  · obtain ⟨values, -, same⟩ := bind_eq_ok.mp answered
    cases same
    exact ⟨values, rfl⟩

private theorem unpackUInt32_zero (values : Bytes) (size : Nat) :
    unpackUInt32 (responseBuffer (4 + size) (List.replicate 4 0 ++ values)) 0 = .ok 0 := by
  have front : (responseBuffer (4 + size) (List.replicate 4 0 ++ values)).take 4 = List.replicate 4 0 := by
    rw [responseBuffer, List.take_take, Nat.min_eq_left (by omega), List.append_assoc]
    exact List.take_left' List.length_replicate
  have inside : 0 + 4 ≤ (responseBuffer (4 + size) (List.replicate 4 0 ++ values)).length := by
    rw [length_responseBuffer]
    omega
  rw [unpackUInt32, if_pos inside, List.drop_zero, front]
  rfl

/-- A read of one variable that returns has read its item. -/
theorem readItem_of_single {handler : AdvancedHandler} (known : dataSymbols.get? dataName = some symbol)
    (returned : readList (fun call => sumRead (handler.plc.sumRead call) dataSymbols OrderedDict.empty) [dataName] 1 =
      .ok result) : ∃ value response, result.get? dataName = some value ∧ readItem false symbol response 4 = .ok value := by
  have one : readList (fun call => sumRead (handler.plc.sumRead call) dataSymbols OrderedDict.empty) [dataName] 1 =
      sumRead (handler.plc.sumRead 0) dataSymbols OrderedDict.empty [dataName] := if_pos (Nat.le_refl _)
  rw [one] at returned
  obtain ⟨first, listed, same⟩ := bind_eq_ok.mp returned
  cases same
  obtain ⟨symbols, found, rest⟩ := bind_eq_ok.mp listed
  cases (mapM_eq_ok.mp found) with
  | cons here none_ =>
    cases none_
    cases (symbolOf_eq_ok.mp here).symm.trans known
    obtain ⟨response, sent, loop⟩ := bind_eq_ok.mp rest
    obtain ⟨value, entry, final⟩ := bind_eq_ok.mp loop
    cases final
    refine ⟨value, response, by simp [OrderedDict.get?_set], ?_⟩
    obtain ⟨status, word, item⟩ := bind_eq_ok.mp entry
    obtain ⟨reply, answered, buffer⟩ := bind_eq_ok.mp sent
    obtain ⟨values, same⟩ := statuses_of_sumRead answered
    cases same
    cases buffer
    cases word.symm.trans (unpackUInt32_zero values symbol.size.toNat)
    exact item

/-! ## Writing -/

/-- Items whose variables are found are stored one after the other. -/
theorem storeItems_found {items : List (SumRequest × Bytes)} {stored : List (Nat × Bytes)} {handler : AdvancedHandler}
    (each : List.Forall₂ (fun item slot =>
      handler.getVariableByIndices item.1.iGroup item.1.iOffset = .ok slot.1 ∧ item.2 = slot.2) items stored)
    (later : AdvancedHandler) (same : later.data = handler.data) :
    storeItems items later = (.ok (), stored.foldl (fun handler slot => handler.setValue slot.1 slot.2) later) := by
  induction each generalizing later with
  | nil => rfl
  | @cons item slot items stored here others ih =>
    obtain ⟨found, value⟩ := here
    have still : later.getVariableByIndices item.1.iGroup item.1.iOffset = .ok slot.1 := by
      rw [← found, getVariableByIndices, same, getVariableByIndices]
    rw [storeItems, still, value]
    exact ih (later.setValue slot.1 slot.2) same

theorem Revalued.storeItems (items : List (SumRequest × Bytes)) (handler : AdvancedHandler) :
    Revalued handler (storeItems items handler).2 := by
  induction items generalizing handler with
  | nil => exact .refl handler
  | cons item items ih =>
    rw [AdvancedHandler.storeItems]
    cases found : handler.getVariableByIndices item.1.iGroup item.1.iOffset with
    | error e => exact .refl handler
    | ok id => exact (Revalued.setValue id item.2 handler).trans (ih _)

theorem device_eq (handler : AdvancedHandler) (numRequests : Nat) (buf : Bytes) :
    device handler numRequests buf = handler.sumupWrite numRequests buf :=
  handleReadWrite_sumupWrite ..

theorem Revalued.sumWrite (dataSymbols : DataSymbols) (structuredDataNames : List String)
    (values : OrderedDict String PyVal) (handler : AdvancedHandler) :
    Revalued handler (sumWrite device dataSymbols structuredDataNames handler values).2 := by
  unfold PyAds.sumWrite
  cases transmittedBuffer values dataSymbols structuredDataNames with
  | error e => exact .refl handler
  | ok buf =>
    have stored := Revalued.storeItems (received values.entries.length buf) handler
    simp only [device_eq, sumupWrite]
    split
    · exact .refl handler
    · split
      · rename_i later same
        rwa [same] at stored
      · rename_i later same
        rwa [same] at stored

/-- Values that fill the slots of their variables are stored. -/
theorem sumWrite_stored {values : OrderedDict String PyVal} {sent : List (SumRequest × Bytes)}
    {stored : List (Nat × Bytes)} {handler : AdvancedHandler}
    (sends : List.Forall₂ (Sends dataSymbols structuredDataNames) values.entries sent)
    (each : List.Forall₂ (fun item slot =>
      handler.getVariableByIndices item.1.iGroup item.1.iOffset = .ok slot.1 ∧ item.2 = slot.2) sent stored) :
    ∃ result, sumWrite device dataSymbols structuredDataNames handler values =
      (.ok result, stored.foldl (fun handler slot => handler.setValue slot.1 slot.2) handler) := by
  obtain ⟨buf, built, finds, long⟩ := exists_transmitted sends
  have statuses := flatMap_statusBytes_zero fun _ => List.eq_of_mem_replicate (n := values.entries.length)
  rw [List.length_replicate] at statuses
  have reply : device handler values.entries.length buf = (.ok (List.replicate (values.entries.length * 4) 0),
      stored.foldl (fun handler slot => handler.setValue slot.1 slot.2) handler) := by
    rw [device_eq, sumupWrite, if_neg (by omega), finds, storeItems_found each handler rfl]
  obtain ⟨texts, found⟩ : ∃ texts, (List.replicate values.entries.length (0 : UInt32)).mapM
      (fun status => errorText status.toNat) = .ok texts := by
    apply exists_mapM_eq_ok.mpr
    intro status member
    rw [List.eq_of_mem_replicate member]
    exact ⟨_, errorText_eq_ok.mpr ⟨_, errorCode_zero, rfl⟩⟩
  have looked := adsSumWriteBytes_statuses (List.replicate values.entries.length 0) buf
  rw [List.length_replicate, statuses, found] at looked
  refine ⟨OrderedDict.empty.setAll (values.keys.zip texts), ?_⟩
  simp only [PyAds.sumWrite, built, reply, adsSumWrite_eq, bind, Except.bind, looked]
  rfl

end AdvancedHandler

end PyAds
