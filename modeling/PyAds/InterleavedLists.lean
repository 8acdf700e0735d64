import PyAds.InterleavedCalls

/-! List calls, request by request. The symbol information of each name is asked
for on its own, and each slice is one sum command. A list of one slice is read or
written at once, whatever requests come in between. -/
namespace PyAds
open Interleaving SequentialObject Fallible

namespace ClientProgram

/-- The symbol information of one name after the other. -/
def resolve : List String → (List SAdsSymbolEntry → ClientProgram) → ClientProgram
  | [], next => next []
  | dataName :: dataNames, next =>
    adsGetSymbolInfo dataName fun info => resolve dataNames fun infos => next (info :: infos)

/-- `adsSumRead`, with the structures decoded. -/
def sumRead (dataSymbols : DataSymbols) (structureDefs : StructureDefs) (dataNames : List String)
    (next : OrderedDict String PyVal → ClientProgram) : ClientProgram :=
  orRaise (dataNames.mapM (symbolOf dataSymbols)) fun symbols =>
    let requests := symbols.map (·.request)
    .ask (.readWrite ADSIGRP_SUMUP_READ requests.length (4 * requests.length + (requests.map (·.size.toNat)).sum)
      (requests.flatMap (·.bytes))) fun reply =>
        orRaise (PyAds.sumRead (fun _ => reply) dataSymbols structureDefs dataNames) next

/-- The loop over the slices of a read. -/
def readSlices (read : List String → (OrderedDict String PyVal → ClientProgram) → ClientProgram) :
    List (List String) → OrderedDict String PyVal → (OrderedDict String PyVal → ClientProgram) → ClientProgram
  | [], returnData, next => next returnData
  | dataNamesSlice :: slices, returnData, next =>
    read dataNamesSlice fun part => readSlices read slices (returnData.update part) next

/-- `adsSumWrite` -/
def sumWrite (dataSymbols : DataSymbols) (structuredDataNames : List String)
    (dataNamesAndValues : OrderedDict String PyVal) (next : OrderedDict String PyVal → ClientProgram) : ClientProgram :=
  orRaise (transmittedBuffer dataNamesAndValues dataSymbols structuredDataNames) fun buf =>
    .ask (.readWrite ADSIGRP_SUMUP_WRITE dataNamesAndValues.entries.length (dataNamesAndValues.entries.length * 4) buf)
      fun reply => orRaise (adsSumWrite (fun _ _ => reply) dataNamesAndValues dataSymbols structuredDataNames) next

/-- The loop over the slices of a write. -/
def writeSlices (write : OrderedDict String PyVal → (OrderedDict String PyVal → ClientProgram) → ClientProgram) :
    List (OrderedDict String PyVal) → OrderedDict String PyVal → (OrderedDict String PyVal → ClientProgram) →
      ClientProgram
  | [], returnData, next => next returnData
  | dataNamesSlice :: slices, returnData, next =>
    write dataNamesSlice fun part => writeSlices write slices (returnData.update part) next

/-- `read_list_by_name` -/
def readListByName (dataNames : List String) (adsSubCommands : Nat) (structureDefs : StructureDefs)
    (next : OrderedDict String PyVal → ClientProgram) : ClientProgram :=
  resolve dataNames fun infos =>
    let dataSymbols := OrderedDict.empty.setAll (dataNames.zip infos)
    if dataNames.length ≤ adsSubCommands then sumRead dataSymbols structureDefs dataNames next
    else orRaise (listSliceGenerator dataNames adsSubCommands) fun slices =>
      readSlices (sumRead dataSymbols structureDefs) slices OrderedDict.empty next

/-- `write_list_by_name` -/
def writeListByName (dataNamesAndValues : OrderedDict String PyVal) (adsSubCommands : Nat)
    (structureDefs : StructureDefs) (next : OrderedDict String PyVal → ClientProgram) : ClientProgram :=
  resolve dataNamesAndValues.keys fun infos =>
    let dataSymbols := OrderedDict.empty.setAll (dataNamesAndValues.keys.zip infos)
    orRaise (encodeStructures structureDefs.entries dataNamesAndValues) fun dataNamesAndValues =>
      if dataNamesAndValues.entries.length ≤ adsSubCommands then
        sumWrite dataSymbols structureDefs.keys dataNamesAndValues next
      else orRaise (dictSliceGenerator dataNamesAndValues adsSubCommands) fun slices =>
        writeSlices (sumWrite dataSymbols structureDefs.keys) slices OrderedDict.empty next

end ClientProgram

/-- List calls without a cache, and single reads, writes and combined read-writes. -/
inductive ListCall where
  | request (request : ClientRequest)
  | readListByName (dataNames : List String) (adsSubCommands : Nat) (structureDefs : StructureDefs)
  | writeListByName (dataNamesAndValues : OrderedDict String PyVal) (adsSubCommands : Nat)
    (structureDefs : StructureDefs)

/-- The requests of a call. -/
def ListCall.program : ListCall → ClientProgram
  | request asked => .ask asked fun reply => .done (reply.map .data)
  | readListByName dataNames adsSubCommands structureDefs =>
    ClientProgram.readListByName dataNames adsSubCommands structureDefs fun result => .done (.ok (.entries result))
  | writeListByName dataNamesAndValues adsSubCommands structureDefs =>
    ClientProgram.writeListByName dataNamesAndValues adsSubCommands structureDefs fun result =>
      .done (.ok (.entries result))

/-- A call that nobody interrupts. -/
def ListCall.perform (handler : AdvancedHandler) (call : ListCall) : Result CallResult × AdvancedHandler :=
  whole AdvancedHandler.answer program handler call

/-! ## Calls without interruption -/

namespace ClientProgram
variable {handler : AdvancedHandler}

theorem exec_resolve (dataNames : List String) (next : List SAdsSymbolEntry → ClientProgram) :
    (resolve dataNames next).exec AdvancedHandler.answer handler =
      (orRaise (dataNames.mapM handler.adsGetSymbolInfo) next).exec AdvancedHandler.answer handler := by
  induction dataNames generalizing next with
  | nil => rfl
  | cons dataName dataNames ih =>
    change (orRaise (handler.adsGetSymbolInfo dataName) _).exec AdvancedHandler.answer handler = _
    rw [List.mapM_cons, ← orRaise_bind, exec_orRaise, exec_orRaise]
    cases handler.adsGetSymbolInfo dataName with
    | error e => rfl
    | ok info =>
      dsimp only
      rw [ih, ← orRaise_bind, exec_orRaise, exec_orRaise]
      rfl

theorem exec_sumRead (dataSymbols : DataSymbols) (structureDefs : StructureDefs) (dataNames : List String) (call : Nat)
    (next : OrderedDict String PyVal → ClientProgram) :
    (sumRead dataSymbols structureDefs dataNames next).exec AdvancedHandler.answer handler =
      (orRaise (PyAds.sumRead (handler.plc.sumRead call) dataSymbols structureDefs dataNames) next).exec
        AdvancedHandler.answer handler := by
  cases found : dataNames.mapM (symbolOf dataSymbols) with
  | error e => simp [sumRead, PyAds.sumRead, adsSumRead, found, bind, Except.bind]
  | ok symbols =>
    have same : PyAds.sumRead (handler.plc.sumRead call) dataSymbols structureDefs dataNames =
        PyAds.sumRead (fun _ => handler.plc.sumRead call (symbols.map (·.request))) dataSymbols structureDefs
          dataNames := by
      simp only [PyAds.sumRead, adsSumRead, adsSumReadBytes, found, bind, Except.bind]
    rw [same, sumRead, found]
    rfl

theorem exec_readSlices {read : List String → (OrderedDict String PyVal → ClientProgram) → ClientProgram}
    {readAt : Nat → List String → Result (OrderedDict String PyVal)}
    (each : ∀ call dataNames next, (read dataNames next).exec AdvancedHandler.answer handler =
      (orRaise (readAt call dataNames) next).exec AdvancedHandler.answer handler)
    (slices : List (List String)) (call : Nat) (returnData : OrderedDict String PyVal)
    (next : OrderedDict String PyVal → ClientProgram) :
    (readSlices read slices returnData next).exec AdvancedHandler.answer handler =
      (orRaise (PyAds.readSlices readAt slices call returnData) next).exec AdvancedHandler.answer handler := by
  induction slices generalizing call returnData with
  | nil => rfl
  | cons dataNamesSlice slices ih =>
    rw [readSlices, each call, PyAds.readSlices, ← orRaise_bind, exec_orRaise, exec_orRaise]
    cases readAt call dataNamesSlice with
    | error e => rfl
    | ok part => exact ih (call + 1) _

theorem exec_sumWrite (dataSymbols : DataSymbols) (structuredDataNames : List String)
    (values : OrderedDict String PyVal) (next : OrderedDict String PyVal → ClientProgram) :
    (sumWrite dataSymbols structuredDataNames values next).exec AdvancedHandler.answer handler =
      (orRaise (PyAds.sumWrite AdvancedHandler.device dataSymbols structuredDataNames handler values).1 next).exec
        AdvancedHandler.answer
        (PyAds.sumWrite AdvancedHandler.device dataSymbols structuredDataNames handler values).2 := by
  rw [sumWrite, PyAds.sumWrite]
  cases transmittedBuffer values dataSymbols structuredDataNames with
  | error e => rfl
  | ok buf => rfl

theorem exec_writeSlices (dataSymbols : DataSymbols) (structuredDataNames : List String)
    (slices : List (OrderedDict String PyVal)) (returnData : OrderedDict String PyVal)
    (next : OrderedDict String PyVal → ClientProgram) :
    (writeSlices (sumWrite dataSymbols structuredDataNames) slices returnData next).exec
        AdvancedHandler.answer handler =
      (orRaise (PyAds.writeSlices (PyAds.sumWrite AdvancedHandler.device dataSymbols structuredDataNames) slices handler
        returnData).1 next).exec AdvancedHandler.answer
        (PyAds.writeSlices (PyAds.sumWrite AdvancedHandler.device dataSymbols structuredDataNames) slices handler
          returnData).2 := by
  induction slices generalizing handler returnData with
  | nil => rfl
  | cons dataNamesSlice slices ih =>
    rw [writeSlices, exec_sumWrite, PyAds.writeSlices, exec_orRaise]
    rcases PyAds.sumWrite AdvancedHandler.device dataSymbols structuredDataNames handler dataNamesSlice with
      ⟨e | part, later⟩
    · rfl
    · exact ih ..

theorem exec_readListByName (dataNames : List String) (symbolInfoCache : DataSymbols) (adsSubCommands : Nat)
    (structureDefs : StructureDefs) (next : OrderedDict String PyVal → ClientProgram) :
    (readListByName dataNames adsSubCommands structureDefs next).exec AdvancedHandler.answer handler =
      (orRaise (PyAds.readListByName handler.plc.toPlc symbolInfoCache dataNames false adsSubCommands structureDefs).1
        next).exec AdvancedHandler.answer handler := by
  have infos : handler.plc.adsGetSymbolInfo = handler.adsGetSymbolInfo := rfl
  rw [readListByName, exec_resolve, exec_orRaise, PyAds.readListByName, resolveSymbols, dictOf]
  simp only [Bool.false_eq_true, ↓reduceIte, infos]
  cases dataNames.mapM handler.adsGetSymbolInfo with
  | error e => rfl
  | ok infos =>
    simp only [bind, Except.bind, pure, Except.pure, readList]
    split
    · exact exec_sumRead ..
    · rw [exec_orRaise, exec_orRaise]
      cases listSliceGenerator dataNames adsSubCommands with
      | error e => rfl
      | ok slices =>
        dsimp only
        rw [exec_readSlices fun call dataNames next => exec_sumRead _ structureDefs dataNames call next, exec_orRaise]

theorem exec_writeListByName (values : OrderedDict String PyVal) (symbolInfoCache : DataSymbols) (adsSubCommands : Nat)
    (structureDefs : StructureDefs) (next : OrderedDict String PyVal → ClientProgram) :
    (writeListByName values adsSubCommands structureDefs next).exec AdvancedHandler.answer handler =
      (orRaise (PyAds.writeListByName handler.adsGetSymbolInfo AdvancedHandler.device handler symbolInfoCache values
        false adsSubCommands structureDefs).1 next).exec AdvancedHandler.answer
        (PyAds.writeListByName handler.adsGetSymbolInfo AdvancedHandler.device handler symbolInfoCache values false
          adsSubCommands structureDefs).2 := by
  rw [writeListByName, exec_resolve, exec_orRaise, PyAds.writeListByName, resolveSymbols, dictOf]
  simp only [Bool.false_eq_true, ↓reduceIte]
  cases values.keys.mapM handler.adsGetSymbolInfo with
  | error e => rfl
  | ok infos =>
    simp only [bind, Except.bind, pure, Except.pure]
    rw [exec_orRaise]
    cases encodeStructures structureDefs.entries values with
    | error e => rfl
    | ok values =>
      simp only [writeList]
      split
      · exact exec_sumWrite ..
      · rw [exec_orRaise]
        cases dictSliceGenerator values adsSubCommands with
        | error e => rfl
        | ok slices => exact exec_writeSlices ..

end ClientProgram

namespace ListCall

/-- Without interruption, a list is read by `read_list_by_name`. -/
theorem perform_readListByName (handler : AdvancedHandler) (symbolInfoCache : DataSymbols) (dataNames : List String)
    (adsSubCommands : Nat) (structureDefs : StructureDefs) :
    perform handler (.readListByName dataNames adsSubCommands structureDefs) =
      ((PyAds.readListByName handler.plc.toPlc symbolInfoCache dataNames false adsSubCommands structureDefs).1.map
        .entries, handler) := by
  rw [perform, whole, program, ClientProgram.exec_readListByName, ClientProgram.exec_orRaise]
  cases (PyAds.readListByName handler.plc.toPlc symbolInfoCache dataNames false adsSubCommands structureDefs).1 <;> rfl

/-- Without interruption, a list is written by `write_list_by_name`. -/
theorem perform_writeListByName (handler : AdvancedHandler) (symbolInfoCache : DataSymbols)
    (values : OrderedDict String PyVal) (adsSubCommands : Nat) (structureDefs : StructureDefs) :
    perform handler (.writeListByName values adsSubCommands structureDefs) =
      ((PyAds.writeListByName handler.adsGetSymbolInfo AdvancedHandler.device handler symbolInfoCache values false
        adsSubCommands structureDefs).1.map .entries,
        (PyAds.writeListByName handler.adsGetSymbolInfo AdvancedHandler.device handler symbolInfoCache values false
          adsSubCommands structureDefs).2) := by
  rw [perform, whole, program, ClientProgram.exec_writeListByName, ClientProgram.exec_orRaise]
  rcases PyAds.writeListByName handler.adsGetSymbolInfo AdvancedHandler.device handler symbolInfoCache values false
    adsSubCommands structureDefs with ⟨e | result, later⟩ <;> rfl

end ListCall

/-! ## One effect for each list of one slice -/

/-- A list is one slice at most, and what is written keeps the sizes. -/
def ListCall.Keeps (handler : AdvancedHandler) (call : ListCall) : Prop :=
  (match call with
    | request _ => True
    | readListByName dataNames adsSubCommands _ => dataNames.length ≤ adsSubCommands
    | writeListByName values adsSubCommands _ => values.entries.length ≤ adsSubCommands) ∧
  ∀ later, handler.SameSizes later → handler.SameSizes (call.perform later).2

namespace ClientProgram
variable {handler : AdvancedHandler}

theorem once_resolve {next : List SAdsSymbolEntry → ClientProgram} (dataNames : List String)
    (after : ∀ infos, dataNames.mapM handler.adsGetSymbolInfo = .ok infos →
      Once handler.SameSizes (next infos)) :
    Once handler.SameSizes (resolve dataNames next) := by
  induction dataNames generalizing next with
  | nil => exact after [] rfl
  | cons dataName dataNames ih =>
    have rest : Once handler.SameSizes (orRaise (handler.adsGetSymbolInfo dataName) fun info =>
        resolve dataNames fun infos => next (info :: infos)) := by
      refine once_orRaise fun info here => ih fun infos others => after (info :: infos) ?_
      rw [List.mapM_cons, here, others]
      rfl
    refine .ask ?_ rest
    intro later same
    refine ⟨rfl, ?_⟩
    rw [← same.adsGetSymbolInfo]
    rfl

end ClientProgram

/-- The only request with an effect is the sum command. -/
theorem ListCall.Keeps.once {handler : AdvancedHandler} {call : ListCall} (keeps : call.Keeps handler) :
    ClientProgram.Once handler.SameSizes call.program := by
  obtain ⟨few, kept⟩ := keeps
  cases call with
  | request asked => exact .effect kept fun _ => ⟨_, .done _⟩
  | readListByName dataNames adsSubCommands structureDefs =>
    refine ClientProgram.once_resolve dataNames fun infos _ => ?_
    dsimp only at few ⊢
    rw [if_pos few]
    exact ClientProgram.once_orRaise fun symbols _ =>
      .effect (fun _ same => same) fun _ => ClientProgram.over_orRaise fun _ => ⟨_, .done _⟩
  | writeListByName values adsSubCommands structureDefs =>
    refine ClientProgram.once_resolve values.keys fun infos found => ?_
    refine ClientProgram.once_orRaise fun sent encoded => ?_
    have length : sent.entries.length ≤ adsSubCommands := by
      have keys := congrArg List.length (keys_encodeStructures encoded)
      rw [OrderedDict.keys, OrderedDict.keys, List.length_map, List.length_map] at keys
      exact keys.trans_le few
    rw [if_pos length]
    refine ClientProgram.once_orRaise fun buf packed =>
      .effect ?_ fun _ => ClientProgram.over_orRaise fun _ => ⟨_, .done _⟩
    intro later same
    have here := kept later same
    rw [ListCall.perform_writeListByName later OrderedDict.empty] at here
    have resolved : resolveSymbols later.adsGetSymbolInfo false OrderedDict.empty values.keys =
        .ok (OrderedDict.empty.setAll (values.keys.zip infos), OrderedDict.empty) := by
      rw [same.adsGetSymbolInfo, resolveSymbols, dictOf]
      simp only [Bool.false_eq_true, ↓reduceIte, found, bind, Except.bind, pure, Except.pure]
    rw [PyAds.writeListByName, resolved] at here
    simp only [encoded, writeList, length, ↓reduceIte, PyAds.sumWrite, packed] at here
    exact here

/-! ## Any order of requests -/

/-- Whatever requests come in between, lists of one slice are read and written
as if nobody interrupted them. -/
theorem list_calls_linearizable {handler : AdvancedHandler} {events : List (Event ListCall)}
    (keeps : ∀ call ∈ started events, call.Keeps handler) :
    ∃ order, Linearizes ListCall.perform handler (fun i => (started events)[i]?)
        (Precedes AdvancedHandler.answer ListCall.program handler events)
        (fun i result => (reached AdvancedHandler.answer ListCall.program handler events).returned i = some result)
        order ∧
      ∃ calls, List.Forall₂ (fun i call => (started events)[i]? = some call) order calls ∧
        (run ListCall.perform handler calls).2 =
          (reached AdvancedHandler.answer ListCall.program handler events).object := by
  have start : handler.SameSizes handler := .refl handler
  exact exists_linearization start fun call called => (keeps call called).once

def levelValues : OrderedDict String PyVal := ⟨[("MAIN.level", .int 7)], by decide⟩

/-- A level is written between the questions of a read. -/
def tankLists : List (Event ListCall) :=
  [.start (.readListByName ["MAIN.level", "MAIN.name"] 2 OrderedDict.empty), .step 0,
   .start (.writeListByName levelValues 1 OrderedDict.empty), .step 1, .step 1,
   .step 0, .step 0]

/-- The list write of a level changes its variable only. -/
theorem level_written {later : AdvancedHandler} (same : tankClient.handler.SameSizes later) :
    tankClient.handler.SameSizes
      (ListCall.perform later (.writeListByName levelValues 1 OrderedDict.empty)).2 := by
  let buf : Bytes := [0x20, 0x40, 0, 0, 0, 0, 0, 0, 2, 0, 0, 0, 7, 0]
  obtain ⟨dataSymbols, resolved, packed⟩ : ∃ dataSymbols,
      resolveSymbols tankClient.handler.adsGetSymbolInfo false OrderedDict.empty levelValues.keys =
        .ok (dataSymbols, OrderedDict.empty) ∧
      transmittedBuffer levelValues dataSymbols (OrderedDict.keys (OrderedDict.empty : StructureDefs)) = .ok buf :=
    ⟨_, by with_unfolding_all rfl, by with_unfolding_all rfl⟩
  have found : later.getVariableByIndices 0x4020 0 = .ok 0 :=
    (same.revalued.getVariableByIndices 0x4020 0).trans (by decide +kernel)
  have items : received 1 buf = [(⟨0x4020, 0, 2⟩, [7, 0])] := by decide +kernel
  have stored : AdvancedHandler.device later 1 buf = (.ok [0, 0, 0, 0], later.setValue 0 [7, 0]) := by
    rw [AdvancedHandler.device_eq, AdvancedHandler.sumupWrite, if_neg (by decide), items]
    simp only [AdvancedHandler.storeItems, found, AdvancedHandler.writeFound]
    rfl
  have encoded : encodeStructures (OrderedDict.empty : StructureDefs).entries levelValues = .ok levelValues := rfl
  have few : levelValues.entries.length ≤ 1 := le_rfl
  rw [ListCall.perform_writeListByName later OrderedDict.empty, PyAds.writeListByName, same.adsGetSymbolInfo, resolved]
  simp only [encoded, writeList, few, ↓reduceIte, PyAds.sumWrite, packed]
  change tankClient.handler.SameSizes (AdvancedHandler.device later 1 buf).2
  rw [stored]
  exact same.setValue rfl

set_option maxRecDepth 4000 in
theorem tank_lists_linearizable : (∃ order, Linearizes ListCall.perform tankClient.handler
      (fun i => (started tankLists)[i]?)
      (Precedes AdvancedHandler.answer ListCall.program tankClient.handler tankLists)
      (fun i result =>
        (reached AdvancedHandler.answer ListCall.program tankClient.handler tankLists).returned i = some result)
      order ∧
    ∃ calls, List.Forall₂ (fun i call => (started tankLists)[i]? = some call) order calls ∧
      (run ListCall.perform tankClient.handler calls).2 =
        (reached AdvancedHandler.answer ListCall.program tankClient.handler tankLists).object) ∧
    ∃ result, (reached AdvancedHandler.answer ListCall.program tankClient.handler tankLists).returned 0 =
      some (.ok (.entries result)) ∧ result.get? "MAIN.level" = some (.int 7) := by
  refine ⟨list_calls_linearizable ?_, ?_⟩
  · simp only [tankLists, started, List.filterMap_cons, Event.started?, List.filterMap_nil, List.forall_mem_cons]
    refine ⟨⟨le_rfl, fun later same => ?_⟩, ⟨le_rfl, fun later same => ?_⟩, by simp⟩
    · rw [ListCall.perform_readListByName later OrderedDict.empty]
      exact same
    · exact level_written same
  · exact ⟨_, by with_unfolding_all rfl, by with_unfolding_all rfl⟩

/-! ## Lists of two slices -/

def tankValues : OrderedDict String PyVal :=
  ⟨[("MAIN.level", .int 7), ("MAIN.name", .str (Text.ofChars "tanks".toList))], by decide⟩

def slicedRead : ListCall := .readListByName ["MAIN.level", "MAIN.name"] 1 OrderedDict.empty

def tankWrite : ListCall := .writeListByName tankValues 2 OrderedDict.empty

/-- Both values are written between the two slices of a read. -/
def slicedLists : List (Event ListCall) :=
  [.start slicedRead, .step 0, .step 0, .step 0, .start tankWrite, .step 1, .step 1, .step 1, .step 0]

/-- What a read returns of the level and the name. -/
def levelAndName : Result CallResult → Option PyVal × Option PyVal
  | .ok (.entries result) => (result.get? "MAIN.level", result.get? "MAIN.name")
  | _ => (none, none)

set_option maxRecDepth 8000 in
theorem sliced_values :
    levelAndName (slicedRead.perform tankClient.handler).1 =
      (some (.int 5), some (.str (Text.ofChars "hello".toList))) ∧
    levelAndName (slicedRead.perform (tankWrite.perform tankClient.handler).2).1 =
      (some (.int 7), some (.str (Text.ofChars "tanks".toList))) ∧
    ((reached AdvancedHandler.answer ListCall.program tankClient.handler slicedLists).returned 0).map levelAndName =
      some (some (.int 5), some (.str (Text.ofChars "tanks".toList))) := by
  refine ⟨?_, ?_, ?_⟩
  · with_unfolding_all rfl
  · with_unfolding_all rfl
  · with_unfolding_all rfl

/-- No order of the two calls explains what the read returns. -/
theorem sliced_read_torn : ¬ ∃ order, Linearizes ListCall.perform tankClient.handler
    (fun i => (started slicedLists)[i]?)
    (Precedes AdvancedHandler.answer ListCall.program tankClient.handler slicedLists)
    (fun i result =>
      (reached AdvancedHandler.answer ListCall.program tankClient.handler slicedLists).returned i = some result)
    order := by
  obtain ⟨before, behind, observed⟩ := sliced_values
  rintro ⟨order, once, ⟨calls, called, explained⟩, -⟩
  have known : started slicedLists = [slicedRead, tankWrite] := rfl
  obtain ⟨result, returned, torn⟩ := Option.map_eq_some_iff.mp observed
  obtain ⟨k, here, answered⟩ := explained 0 result returned
  rw [known] at called
  rw [getElem?_run] at answered
  obtain ⟨op, found, rfl⟩ := Option.map_eq_some_iff.mp answered
  have read : op = slicedRead := by
    obtain ⟨inside, same⟩ := List.getElem?_eq_some_iff.mp here
    obtain ⟨bound, own⟩ := List.getElem?_eq_some_iff.mp found
    have call := called.get inside bound
    rw [List.get_eq_getElem, List.get_eq_getElem, same, own] at call
    exact (Option.some.inj call).symm
  subst read
  have front := List.forall₂_take k called
  have nodup : (order.take k).Nodup := once.sublist (List.take_sublist k order)
  have ones : ∀ i ∈ order.take k, i = 1 := by
    intro i member
    obtain ⟨op, -, there⟩ := exists_of_mem_right front.flip member
    have small : i < 2 := (List.getElem?_eq_some_iff.mp there).1
    have behindIt : 0 ∈ order.drop k := by
      refine List.mem_of_getElem? (i := 0) ?_
      rw [List.getElem?_drop]
      exact here
    have apart : i ≠ 0 := by
      rintro rfl
      exact List.disjoint_take_drop once le_rfl member behindIt
    omega
  -- what comes before the read is the write, once at most
  have first : calls.take k = [] ∨ calls.take k = [tankWrite] := by
    generalize order.take k = before at front nodup ones
    generalize calls.take k = earlier at front ⊢
    cases front with
    | nil => exact .inl rfl
    | @cons i op before earlier own others =>
      cases ones i List.mem_cons_self
      cases others with
      | nil =>
        cases own
        exact .inr rfl
      | @cons j other before earlier own others =>
        cases ones j (List.mem_cons_of_mem _ List.mem_cons_self)
        exact absurd List.mem_cons_self (List.nodup_cons.mp nodup).1
  rcases first with none_ | one
  · rw [none_, run_nil, before] at torn
    have names := Option.some.inj (Prod.mk.inj torn).2
    exact absurd (PyVal.str.inj names) (by decide)
  · have alone (x : AdvancedHandler) (op : ListCall) : (run ListCall.perform x [op]).2 = (op.perform x).2 := rfl
    rw [one, alone, behind] at torn
    have levels := Option.some.inj (Prod.mk.inj torn).1
    exact absurd (PyVal.int.inj levels) (by decide)

end PyAds
