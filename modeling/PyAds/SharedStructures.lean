import PyAds.InterleavedCalls
import PyAds.StructureRoundTrip

/-! Structures that several clients read and write by name. The requests of a
call come between those of others, and a read still returns one array of
structures that was written as a whole. -/
namespace PyAds
open Interleaving SequentialObject

/-! ## Structures in variables -/

/-- The values of a variable, as an array of structures. -/
structure StoresStructures (order : KeyOrder) (structureDef : StructureDef) (arraySize : Nat) (data : Bytes)
    (values : List PyVal) : Prop where
  size : ∃ size, sizeOfStructure structureDef = .ok size ∧ data.length = arraySize * size
  decoded : ∃ back, dictFromBytes (.bytes data) structureDef arraySize = .ok (unwrapSingle arraySize back) ∧
    List.Forall₂ (PyVal.Same order) back values

/-- The handler answers the name of a variable with its handle, and finds the
variable under it. -/
structure AdvancedHandler.Names (handler : AdvancedHandler) (id : Nat) : Prop where
  named : handler.getVariableNamed (requestedName (handler.objects id).name) = .ok id
  handle : (handler.objects id).handle < 2 ^ 32
  found : handler.getVariableByHandle (handler.objects id).handle = .ok id

/-- The variables of a handler that hold arrays of structures. -/
structure SharedStructures where
  order : KeyOrder
  ids : Nat → Prop
  structureDef : Nat → StructureDef
  arraySize : Nat → Nat

namespace SharedStructures

/-- Variables that have a name and a handle, with definitions that can be encoded
and decoded, so without single nested structures, and arrays whose lengths have
four bytes. -/
structure Offered (shared : SharedStructures) (handler : AdvancedHandler) (id : Nat) : Prop extends
    handler.Names id where
  known : (shared.structureDef id).TypesIn (· ≠ .unknown)
  distinct : (shared.structureDef id).DistinctNames
  plural : (shared.structureDef id).NoSingleNested
  small : ∀ size, sizeOfStructure (shared.structureDef id) = .ok size → shared.arraySize id * size < 2 ^ 32

/-- Reads and writes of all structures of a variable, reads of any value, and
writes of values to other variables. -/
inductive Call (shared : SharedStructures) (handler : AdvancedHandler) : NameCall → Prop
  | read {id : Nat} (own : shared.ids id) :
    Call shared handler (.readStructureByName (handler.objects id).name (shared.structureDef id) (shared.arraySize id)
      none none)
  | write {id : Nat} {values : List PyVal} (own : shared.ids id) (count : values.length = shared.arraySize id)
      (conforms : ∀ value ∈ values, Conforms shared.order (shared.structureDef id) value) :
    Call shared handler (.writeStructureByName (handler.objects id).name (.list values) (shared.structureDef id)
      (shared.arraySize id) none none)
  | readValue (dataName : String) (plcDatatype : Option PlcDataType) :
    Call shared handler (.readByName dataName plcDatatype none)
  | writeValue {id : Nat} {value : PyVal} {plcDatatype : Option PlcDataType} (names : handler.Names id)
      (other : ¬ shared.ids id)
      (fits : (NameCall.writeByName (handler.objects id).name value plcDatatype none).Fits handler) :
    Call shared handler (.writeByName (handler.objects id).name value plcDatatype none)

/-- A store of structures: a write replaces all structures of a variable, a read
returns them, and calls for other values do not touch them. -/
inductive Allows (shared : SharedStructures) (handler : AdvancedHandler) :
    (Nat → List PyVal) → NameCall → Result CallResult → (Nat → List PyVal) → Prop
  | read {id : Nat} {back : List PyVal} (own : shared.ids id)
      (same : List.Forall₂ (PyVal.Same shared.order) back (store id)) :
    Allows shared handler store (.readStructureByName (handler.objects id).name (shared.structureDef id)
      (shared.arraySize id) none none) (.ok (.structures (unwrapSingle (shared.arraySize id) back))) store
  | write {id : Nat} {values : List PyVal} (own : shared.ids id) :
    Allows shared handler store (.writeStructureByName (handler.objects id).name (.list values)
      (shared.structureDef id) (shared.arraySize id) none none) (.ok .nothing) (Function.update store id values)
  | readValue : Allows shared handler store (.readByName dataName plcDatatype handle) result store
  | writeValue : Allows shared handler store (.writeByName dataName value plcDatatype handle) result store

/-- The variables hold the structures of the store. -/
structure Holds (shared : SharedStructures) (handler later : AdvancedHandler) (store : Nat → List PyVal) : Prop where
  revalued : AdvancedHandler.Revalued handler later
  stores : ∀ id, shared.ids id → StoresStructures shared.order (shared.structureDef id) (shared.arraySize id)
    (later.objects id).value (store id)

end SharedStructures

/-! ## One call -/

namespace AdvancedHandler.Names
variable {handler later : AdvancedHandler} {id : Nat} {data : Bytes}

theorem revalued (names : handler.Names id) (revalued : Revalued handler later) : later.Names id := by
  obtain ⟨named, handle, found⟩ := names
  refine ⟨?_, ?_, ?_⟩
  · rw [revalued.name, getVariableNamed]
    simpa only [getVariableNamed, revalued.getVariableByName] using named
  · rwa [revalued.handle]
  · rwa [revalued.handle, revalued.getVariableByHandle]

theorem adsGetHandle (names : handler.Names id) :
    handler.adsGetHandle (handler.objects id).name = .ok (.ofNat (handler.objects id).handle) :=
  adsGetHandle_named names.named names.handle

theorem found_ofNat (names : handler.Names id) :
    handler.getVariableByHandle (UInt32.ofNat (handler.objects id).handle).toNat = .ok id := by
  rw [UInt32.toNat_ofNat', Nat.mod_eq_of_lt names.handle, names.found]

theorem adsSyncWriteByNameEx (names : handler.Names id) (sent : requestData dataType value = .ok data) :
    handler.adsSyncWriteByNameEx (handler.objects id).name value dataType none =
      (.ok (), handler.setValue id data) := by
  simp only [AdvancedHandler.adsSyncWriteByNameEx, handleFor, names.adsGetHandle,
    adsSyncWriteReqEx_handle names.found_ofNat sent, ↓reduceIte, adsReleaseHandle_eq]

/-- A write by name changes the value of its variable at most. -/
theorem adsSyncWriteByNameEx_object (names : handler.Names id) (value : PyVal) (dataType : Option PlcDataType) :
    (handler.adsSyncWriteByNameEx (handler.objects id).name value dataType none).2 = handler ∨
      ∃ data, (handler.adsSyncWriteByNameEx (handler.objects id).name value dataType none).2 =
        handler.setValue id data := by
  cases sent : requestData dataType value with
  | error e =>
    left
    simp only [AdvancedHandler.adsSyncWriteByNameEx, handleFor, names.adsGetHandle, adsSyncWriteReqEx, sent]
  | ok data => exact .inr ⟨data, by rw [names.adsSyncWriteByNameEx sent]⟩

/-- A read of structures decodes the value of their variable. -/
theorem readStructureByName (names : handler.Names id)
    (size : sizeOfStructure (structureDef.times arraySize) = .ok (handler.objects id).value.length) :
    handler.plc.readStructureByName (handler.objects id).name structureDef arraySize =
      dictFromBytes (.bytes (handler.objects id).value) structureDef arraySize := by
  have read : handler.plc.adsSyncRead (.ofNat (handler.objects id).handle) (handler.objects id).value.length =
      .ok (handler.objects id).value := by
    simp only [plc, handleRead, ↓reduceIte, names.found_ofNat, bind, Except.bind, pure, Except.pure]
  exact readStructureByName_block size names.adsGetHandle read rfl

end AdvancedHandler.Names

namespace NameCall
variable {handler : AdvancedHandler} {id : Nat}

theorem perform_readByName_object (handler : AdvancedHandler) (dataName : String) (plcDatatype : Option PlcDataType) :
    (perform handler (.readByName dataName plcDatatype none)).2 = handler := by
  rw [perform, whole, program, ClientProgram.exec_datatypeFor, ClientProgram.exec_orRaise]
  cases handler.datatypeFor dataName plcDatatype with
  | error e => rfl
  | ok dataType =>
    dsimp only
    rw [ClientProgram.exec_adsSyncReadByNameEx, ClientProgram.exec_orRaise]
    cases adsSyncReadByNameEx handler.plc dataName dataType <;> rfl

theorem perform_writeByName_object (names : handler.Names id) (value : PyVal) (plcDatatype : Option PlcDataType) :
    (perform handler (.writeByName (handler.objects id).name value plcDatatype none)).2 = handler ∨
      ∃ data, (perform handler (.writeByName (handler.objects id).name value plcDatatype none)).2 =
        handler.setValue id data := by
  rw [perform, whole, program, ClientProgram.exec_datatypeFor, ClientProgram.exec_orRaise]
  cases handler.datatypeFor (handler.objects id).name plcDatatype with
  | error e => exact .inl rfl
  | ok dataType =>
    dsimp only
    rw [ClientProgram.exec_adsSyncWriteByNameEx, ClientProgram.exec_orRaise]
    have changed := names.adsSyncWriteByNameEx_object value dataType
    revert changed
    rcases handler.adsSyncWriteByNameEx (handler.objects id).name value dataType none with ⟨e | written, later⟩
    · exact fun changed => changed
    · exact fun changed => changed

end NameCall

namespace SharedStructures
variable {shared : SharedStructures} {handler later : AdvancedHandler} {id : Nat} {call : NameCall}
  {store : Nat → List PyVal} {data : Bytes}

/-- The bytes that a write sends are those of its structures. -/
theorem Offered.written (offered : shared.Offered handler id) (count : values.length = shared.arraySize id)
    (conforms : ∀ value ∈ values, Conforms shared.order (shared.structureDef id) value) :
    ∃ data plcDatatype, structureArray (.list values) (shared.structureDef id) (shared.arraySize id) none =
        .ok (data, plcDatatype) ∧ requestData (some plcDatatype) (.ofBytes data) = .ok data ∧ data.length < 2 ^ 32 ∧
      StoresStructures shared.order (shared.structureDef id) (shared.arraySize id) data values := by
  obtain ⟨size, data, back, sized, encoded, length, decoded, same⟩ :=
    dict_from_bytes_bytes_from_dict shared.order offered.known offered.distinct offered.plural conforms
  rw [count] at length decoded
  have small := offered.small size sized
  have times := times_ubyte (shared.arraySize id * size)
  rw [if_pos (by omega)] at times
  refine ⟨data, .ctypes (.array (.simple .ubyte) (shared.arraySize id * size)), ?_, ?_, by omega,
    ⟨size, sized, length⟩, back, decoded, same⟩
  · simp only [structureArray, encoded, Option.elim_none, sizeOfStructure_times sized, times, bind, Except.bind, pure,
      Except.pure]
  · rw [requestData_ofBytes, ← length, if_neg (Nat.lt_irrefl _), Nat.sub_self, List.replicate_zero, List.append_nil]

theorem Call.fits (own : shared.Call handler call) (offered : ∀ id, shared.ids id → shared.Offered handler id) :
    call.Fits handler := by
  cases own with
  | read own => trivial
  | write own count conforms =>
    intro byteValues plcDatatype sent packed requested
    obtain ⟨data, type, array, request, small, -⟩ := (offered _ own).written count conforms
    cases packed.symm.trans array
    cases requested.symm.trans request
    exact small
  | readValue dataName plcDatatype => trivial
  | writeValue names other fits => exact fits

theorem Holds.setValue_other (holds : shared.Holds handler later store) (other : ¬ shared.ids id) (data : Bytes) :
    shared.Holds handler (later.setValue id data) store := by
  refine ⟨holds.revalued.trans (.setValue id data later), ?_⟩
  intro id' own
  have apart : id' ≠ id := by
    rintro rfl
    exact other own
  simpa [AdvancedHandler.setValue, AdvancedHandler.setObject, apart] using holds.stores id' own

theorem Holds.setValue_own (holds : shared.Holds handler later store)
    (written : StoresStructures shared.order (shared.structureDef id) (shared.arraySize id) data values) :
    shared.Holds handler (later.setValue id data) (Function.update store id values) := by
  refine ⟨holds.revalued.trans (.setValue id data later), ?_⟩
  intro other own
  by_cases same : other = id
  · subst same
    simpa [AdvancedHandler.setValue, AdvancedHandler.setObject] using written
  · simpa [AdvancedHandler.setValue, AdvancedHandler.setObject, same] using holds.stores other own

/-- A call does to the variables what it does to the store. -/
theorem Call.perform (own : shared.Call handler call) (offered : ∀ id, shared.ids id → shared.Offered handler id)
    (holds : shared.Holds handler later store) :
    ∃ next, shared.Allows handler store call (NameCall.perform later call).1 next ∧
      shared.Holds handler (NameCall.perform later call).2 next := by
  have revalued := holds.revalued
  cases own with
  | @read id own =>
    obtain ⟨⟨size, sized, length⟩, back, decoded, same⟩ := holds.stores id own
    have small := (offered id own).small size sized
    have whole : sizeOfStructure ((shared.structureDef id).times (shared.arraySize id)) =
        .ok (later.objects id).value.length := length ▸ sizeOfStructure_times sized _
    have performed := NameCall.perform_readStructureByName later (handler.objects id).name (shared.structureDef id)
      (shared.arraySize id) fun other same => by
        cases same.symm.trans whole
        omega
    rw [← revalued.name, ((offered id own).revalued revalued).readStructureByName whole, decoded,
      revalued.name] at performed
    rw [performed]
    exact ⟨store, .read own same, holds⟩
  | @write id values own count conforms =>
    obtain ⟨data, type, array, request, -, written⟩ := (offered id own).written count conforms
    have performed : NameCall.perform later (.writeStructureByName (handler.objects id).name (.list values)
        (shared.structureDef id) (shared.arraySize id) none none) = (.ok .nothing, later.setValue id data) := by
      rw [NameCall.perform, whole, NameCall.program, ClientProgram.exec_orRaise, array]
      dsimp only
      rw [ClientProgram.exec_adsSyncWriteByNameEx, ClientProgram.exec_orRaise, ← revalued.name,
        ((offered id own).revalued revalued).adsSyncWriteByNameEx request]
      rfl
    rw [performed]
    exact ⟨Function.update store id values, .write own, holds.setValue_own written⟩
  | readValue dataName plcDatatype =>
    refine ⟨store, .readValue, ?_⟩
    rwa [NameCall.perform_readByName_object]
  | @writeValue id value plcDatatype names other fits =>
    refine ⟨store, .writeValue, ?_⟩
    rw [← revalued.name]
    rcases NameCall.perform_writeByName_object (names.revalued revalued) value plcDatatype with same | ⟨data, same⟩
    · rwa [same]
    · rw [same]
      exact holds.setValue_other other data

/-! ## Any order of requests -/

/-- One order of the calls explains all that they return, and the structures
that are left. -/
def Consistent (shared : SharedStructures) (handler : AdvancedHandler) (store : Nat → List PyVal)
    (events : List (Event NameCall)) : Prop :=
  ∃ order calls last, Linearizes NameCall.perform handler (fun i => (started events)[i]?)
      (Precedes AdvancedHandler.answer NameCall.program handler events)
      (fun i result => (reached AdvancedHandler.answer NameCall.program handler events).returned i = some result)
      order ∧
    List.Forall₂ (fun i call => (started events)[i]? = some call) order calls ∧
    Explained (shared.Allows handler) store calls (run NameCall.perform handler calls).1 last ∧
    shared.Holds handler (reached AdvancedHandler.answer NameCall.program handler events).object last

/-- Whatever requests come in between, each read returns structures that one
write has left, and the variables hold those of the last one. -/
theorem structures_not_torn {events : List (Event NameCall)} (small : ∀ id, (handler.objects id).value.length < 2 ^ 32)
    (offered : ∀ id, shared.ids id → shared.Offered handler id) (start : shared.Holds handler handler store)
    (own : ∀ call ∈ started events, shared.Call handler call) : shared.Consistent handler store events := by
  have bounded : AdvancedHandler.Bounded handler handler := ⟨.refl handler, small⟩
  obtain ⟨order, linearizes, calls, found, object⟩ := exists_linearization bounded fun call called =>
    NameCall.once small ((own call called).fits offered)
  have lawful : ∀ call ∈ calls, shared.Call handler call := by
    intro call member
    obtain ⟨i, -, here⟩ := Fallible.exists_of_mem_right found member
    exact own call (List.mem_of_getElem? here)
  have simulated (later : AdvancedHandler) (store : Nat → List PyVal) (call : NameCall)
      (holds : shared.Holds handler later store) (own : shared.Call handler call) := own.perform offered holds
  obtain ⟨last, explained, holds⟩ := run_explained simulated start lawful
  exact ⟨order, calls, last, linearizes, found, explained, object ▸ holds⟩

/-- Two points beside a level. -/
def pointVariables : Nat → PLCVariable
  | 0 => ⟨"MAIN.points", [3, 0, 4, 0], 65, "ST_Points", 10000, 0x4020, 0, "", [], none⟩
  | _ => ⟨"MAIN.level", [5, 0], 2, "INT", 10001, 0x4020, 4, "", [], none⟩

def pointHandler : AdvancedHandler :=
  AdvancedHandler.addVariable 1 (AdvancedHandler.addVariable 0 ⟨pointVariables, OrderedDict.empty⟩)

def points : SharedStructures := ⟨.ordered, (· = 0), fun _ => pointDef, fun _ => 2⟩

def point (x : Int) : PyVal := .dict [("x", .int x)]

/-- A write of points begins before a read and ends behind it. -/
def pointEvents : List (Event NameCall) :=
  [.start (.writeStructureByName "MAIN.points" (.list [point 7, point 8]) pointDef 2 none none), .step 0,
   .start (.readStructureByName "MAIN.points" pointDef 2 none none), .step 1,
   .start (.writeByName "MAIN.level" (.int 6) none none), .step 2, .step 2,
   .step 1, .step 0, .step 2, .step 1, .step 0, .step 2]

set_option maxRecDepth 2000 in
theorem points_not_torn : points.Consistent pointHandler (fun _ => [point 3, point 4]) pointEvents ∧
    (reached AdvancedHandler.answer NameCall.program pointHandler pointEvents).returned 1 =
      some (.ok (.structures (.list [point 3, point 4]))) := by
  have named : pointHandler.Names 0 := ⟨by decide +kernel, by decide, by decide +kernel⟩
  have level : pointHandler.Names 1 := ⟨by decide +kernel, by decide, by decide +kernel⟩
  have sized : sizeOfStructure pointDef = .ok 2 := rfl
  refine ⟨structures_not_torn ?_ ?_ ?_ ?_, ?_⟩
  · rintro (_ | id)
    · decide
    · exact Nat.lt_of_lt_of_le (show 2 < 2 ^ 32 by decide) le_rfl
  · rintro id rfl
    refine ⟨named, ?_, ?_, ?_, ?_⟩
    · simp [points, pointDef, StructureDef.TypesIn]
    · simp [points, pointDef, StructureDef.DistinctNames, StructureDef.names]
    · simp [points, pointDef, StructureDef.NoSingleNested]
    · rintro size same
      cases same.symm.trans sized
      decide
  · refine ⟨.refl _, ?_⟩
    rintro id rfl
    exact ⟨⟨2, sized, rfl⟩, [point 3, point 4], rfl, .cons (.refl _) (.cons (.refl _) .nil)⟩
  · have conforms (x : Int) (fits : IntFits 2 true x) : Conforms .ordered pointDef (point x) := by
      refine ⟨_, rfl, rfl, ⟨.int x, rfl, ?_⟩, trivial⟩
      simpa [ConformsArray, ConformsElement, StructureDef.slotOf, Representable, CType.format, StructFormat.size]
        using fits
    have own : points.ids 0 := rfl
    have both : ∀ value ∈ [point 7, point 8], Conforms .ordered pointDef value := by
      simp only [List.forall_mem_cons]
      exact ⟨conforms 7 (by decide), conforms 8 (by decide), by simp⟩
    have asked : pointHandler.queryPlcDatatype "MAIN.level" = .ok (some (.ctypes (.simple .int16))) := by
      decide +kernel
    have fits : (NameCall.writeByName "MAIN.level" (.int 6) none none).Fits pointHandler := by
      rintro dataType data called sent
      cases called.symm.trans asked
      cases sent
      decide
    simp only [pointEvents, started, List.filterMap_cons, Event.started?, List.filterMap_nil, List.forall_mem_cons]
    exact ⟨.write own rfl both, .read own, .writeValue level Nat.one_ne_zero fits, by simp⟩
  · with_unfolding_all rfl

end SharedStructures

end PyAds
