import PyAds.Base.Interleaving
import PyAds.StoredAgreement
import PyAds.StatusStructure

/-! Calls by name, request by request. A read or a write by name asks for a
handle, uses it and releases it, and the requests of other clients come in
between. The calls can still be taken for calls without interruption. -/
namespace PyAds
open Interleaving SequentialObject SlotSequence

/-! ## Requests and calls -/

/-- A request of `adsSyncReadReqEx2`, `adsSyncWriteReqEx` or
`adsSyncReadWriteReqEx2`. -/
inductive ClientRequest where
  | read (indexGroup indexOffset : UInt32) (length : Nat)
  | write (indexGroup indexOffset : UInt32) (data : Bytes)
  | readWrite (indexGroup : UInt32) (indexOffset readLength : Nat) (writeData : Bytes)

/-- The data that the handler answers. -/
def AdvancedHandler.answer (handler : AdvancedHandler) : ClientRequest → Result Bytes × AdvancedHandler
  | .read indexGroup indexOffset length => (handler.handleRead indexGroup indexOffset length, handler)
  | .write indexGroup indexOffset data =>
    let (written, handler) := handler.handleWrite indexGroup indexOffset data
    (written.map fun _ => [], handler)
  | .readWrite indexGroup indexOffset readLength writeData =>
    handler.handleReadWrite indexGroup indexOffset readLength writeData

/-- What a call returns. -/
inductive CallResult where
  | nothing
  | data (data : Bytes)
  | value (value : PlainValue)
  | structures (value : PyVal)
  | entries (values : OrderedDict String PyVal)

/-- The requests of a call, in the order of the source. -/
abbrev ClientProgram := Program ClientRequest (Result Bytes) (Result CallResult)

namespace ClientProgram

/-- An exception ends the call. -/
def orRaise (result : Result α) (next : α → ClientProgram) : ClientProgram :=
  match result with
  | .error e => .done (.error e)
  | .ok a => next a

@[simp] theorem orRaise_ok (a : α) (next : α → ClientProgram) : orRaise (.ok a) next = next a := rfl

@[simp] theorem orRaise_error (e : PyError) (next : α → ClientProgram) :
    orRaise (.error e) next = .done (.error e) := rfl

/-- `adsSyncReadReqEx2` -/
def adsSyncReadReqEx2 (indexGroup indexOffset : UInt32) (dataType : PlcDataType) (next : PlainValue → ClientProgram) :
    ClientProgram :=
  orRaise (bufferSize dataType) fun dataLength =>
    .ask (.read indexGroup indexOffset dataLength) fun reply =>
      orRaise (PyAds.adsSyncReadReqEx2 (fun _ => reply) dataType) next

/-- `adsSyncWriteReqEx` -/
def adsSyncWriteReqEx (indexGroup indexOffset : UInt32) (value : PyVal) (plcDataType : Option PlcDataType)
    (next : Unit → ClientProgram) : ClientProgram :=
  orRaise (requestData plcDataType value) fun data =>
    .ask (.write indexGroup indexOffset data) fun reply => orRaise (reply.map fun _ => ()) next

/-- `adsGetHandle` -/
def adsGetHandle (dataName : String) (next : UInt32 → ClientProgram) : ClientProgram :=
  .ask (.readWrite ADSIGRP_SYM_HNDBYNAME 0 4 (requestedName dataName)) fun reply =>
    orRaise (do
      let data ← reply
      checkLength 4 data.length
      return .ofNat (LittleEndian.toNat data)) next

/-- `adsReleaseHandle` -/
def adsReleaseHandle (handle : UInt32) (next : Unit → ClientProgram) : ClientProgram :=
  adsSyncWriteReqEx ADSIGRP_SYM_RELEASEHND 0 (.int handle.toNat) (some (.ctypes (.simple .uint32))) next

/-- `adsGetSymbolInfo` -/
def adsGetSymbolInfo (dataName : String) (next : SAdsSymbolEntry → ClientProgram) : ClientProgram :=
  .ask (.readWrite ADSIGRP_SYM_INFOBYNAMEEX 0 sizeofSymbolEntry (requestedName dataName)) fun reply =>
    orRaise (do
      let data ← reply
      let readData := responseBuffer sizeofSymbolEntry data
      checkLength (fieldAt 4 0 readData) data.length
      symbolEntryOf readData) next

/-- The data type that is given, or that `_query_plc_datatype_from_name` asks
for; a type that is in the cache counts as given. -/
def datatypeFor (dataName : String) (plcDatatype : Option PlcDataType) (next : Option PlcDataType → ClientProgram) :
    ClientProgram :=
  match plcDatatype with
  | some plcDatatype => next (some plcDatatype)
  | none => adsGetSymbolInfo dataName fun info => orRaise (getTypeFromStr info.symbolType) next

/-- A handle is used that is given, or one that is released afterwards. -/
def withHandle (dataName : String) (handle : Option UInt32) (use : UInt32 → (α → ClientProgram) → ClientProgram)
    (next : α → ClientProgram) : ClientProgram :=
  match handle with
  | some known => use known next
  | none => adsGetHandle dataName fun found => use found fun a => adsReleaseHandle found fun _ => next a

/-- `adsSyncReadByNameEx` -/
def adsSyncReadByNameEx (dataName : String) (dataType : Option PlcDataType) (handle : Option UInt32)
    (next : PlainValue → ClientProgram) : ClientProgram :=
  withHandle dataName handle (fun found after =>
    match dataType with
    | none => .done (.error .typeError)
    | some dataType => adsSyncReadReqEx2 ADSIGRP_SYM_VALBYHND found dataType after) next

/-- `adsSyncWriteByNameEx` -/
def adsSyncWriteByNameEx (dataName : String) (value : PyVal) (dataType : Option PlcDataType) (handle : Option UInt32)
    (next : Unit → ClientProgram) : ClientProgram :=
  withHandle dataName handle (fun found => adsSyncWriteReqEx ADSIGRP_SYM_VALBYHND found value dataType) next

end ClientProgram

/-- The structures that `dict_from_bytes` makes of a value. -/
def structuresOf (structureDef : StructureDef) (arraySize : Nat) : PlainValue → Result PyVal
  | .value values => do
    let byteList ← byteSource values
    dictFromBytes byteList structureDef arraySize
  | .rows .. => .error .typeError

/-- Calls by name, and single reads, writes and combined read-writes, on an open
port. -/
inductive NameCall where
  | request (request : ClientRequest)
  | readByName (dataName : String) (plcDatatype : Option PlcDataType) (handle : Option UInt32)
  | writeByName (dataName : String) (value : PyVal) (plcDatatype : Option PlcDataType) (handle : Option UInt32)
  | readStructureByName (dataName : String) (structureDef : StructureDef) (arraySize : Nat)
    (structureSize : Option Nat) (handle : Option UInt32)
  | writeStructureByName (dataName : String) (value : PyVal) (structureDef : StructureDef) (arraySize : Nat)
    (structureSize : Option Nat) (handle : Option UInt32)

/-- The requests of a call. -/
def NameCall.program : NameCall → ClientProgram
  | request asked => .ask asked fun reply => .done (reply.map .data)
  | readByName dataName plcDatatype handle =>
    ClientProgram.datatypeFor dataName plcDatatype fun dataType =>
      ClientProgram.adsSyncReadByNameEx dataName dataType handle fun value => .done (.ok (.value value))
  | writeByName dataName value plcDatatype handle =>
    ClientProgram.datatypeFor dataName plcDatatype fun dataType =>
      ClientProgram.adsSyncWriteByNameEx dataName value dataType handle fun _ => .done (.ok .nothing)
  | readStructureByName dataName structureDef arraySize structureSize handle =>
    ClientProgram.orRaise (structureSize.elim (sizeOfStructure (structureDef.times arraySize)) .ok) fun structureSize =>
      ClientProgram.orRaise ((PlcDataType.ctypes (.simple .ubyte)).times structureSize) fun plcDatatype =>
        ClientProgram.adsSyncReadByNameEx dataName (some plcDatatype) handle fun values =>
          .done ((structuresOf structureDef arraySize values).map .structures)
  | writeStructureByName dataName value structureDef arraySize structureSize handle =>
    ClientProgram.orRaise (structureArray value structureDef arraySize structureSize) fun (byteValues, plcDatatype) =>
      ClientProgram.adsSyncWriteByNameEx dataName (.ofBytes byteValues) (some plcDatatype) handle fun _ =>
        .done (.ok .nothing)

/-- A call that nobody interrupts. -/
def NameCall.perform (handler : AdvancedHandler) (call : NameCall) : Result CallResult × AdvancedHandler :=
  whole AdvancedHandler.answer program handler call

/-! ## Data types that are asked for -/

/-- A number between others, packed. -/
theorem packNumbers_between (first rest : List (Nat × Nat)) (fits : n < 256 ^ width) :
    packNumbers (first ++ (width, n) :: rest) = (packNumbers first).bind fun front =>
      (packNumbers rest).map fun back => front ++ (LittleEndian.ofNat width n ++ back) := by
  have packed : packInt width false (.int n) = .ok (LittleEndian.ofNat width n) := packInt_natCast fits
  rw [packNumbers, concatM_append, concatM_cons]
  simp only [packed, packNumbers, bind, Except.bind]
  cases concatM (fun field : Nat × Nat => packInt field.1 false (.int field.2)) first with
  | error e => rfl
  | ok front => cases concatM (fun field : Nat × Nat => packInt field.1 false (.int field.2)) rest <;> rfl

/-- The packed information of a variable has the length of the value behind the
first three numbers, and depends on the value nowhere else. -/
theorem PLCVariable.getPackedInfo_value (var : PLCVariable) : (∃ e, ∀ value : Bytes, value.length < 256 ^ 4 →
      { var with value := value }.getPackedInfo = .error e) ∨
    ∃ front back, front.length = 12 ∧ ∀ value : Bytes, value.length < 256 ^ 4 →
      { var with value := value }.getPackedInfo = .ok (front ++ (LittleEndian.ofNat 4 value.length ++ back)) := by
  let nameBytes := Text.Utf8.encode var.name.toList
  let symbolTypeBytes := Text.Utf8.encode var.symbolType.toList
  let commentBytes := Text.Utf8.encode var.comment.toList
  obtain ⟨first, rest, texts, widths, info⟩ : ∃ first rest texts, first.map Prod.fst = [4, 4, 4] ∧
      ∀ value : Bytes, { var with value := value }.getPackedInfo =
        (packNumbers (first ++ (4, value.length) :: rest)).map (· ++ texts) := by
    refine ⟨[(4, 6 * 4 + 3 * 2 + nameBytes.length + 1 + symbolTypeBytes.length + 1 + commentBytes.length),
      (4, var.indexGroup.toNat), (4, var.indexOffset.toNat)], [(4, var.adsType.toNat), (4, 0), (2, nameBytes.length),
      (2, symbolTypeBytes.length), (2, commentBytes.length)],
      nameBytes ++ 0x20 :: (symbolTypeBytes ++ 0x20 :: commentBytes), rfl, fun value => ?_⟩
    have mapped (x : Result Bytes) (texts : Bytes) :
        (do let header ← x; return header ++ texts) = x.map (· ++ texts) := by
      cases x <;> rfl
    rw [← mapped, List.cons_append, List.cons_append, List.cons_append, List.nil_append]
    rfl
  cases packedFirst : packNumbers first with
  | error e =>
    refine .inl ⟨e, fun value fits => ?_⟩
    rw [info, packNumbers_between first rest fits, packedFirst]
    rfl
  | ok front =>
    cases packedRest : packNumbers rest with
    | error e =>
      refine .inl ⟨e, fun value fits => ?_⟩
      rw [info, packNumbers_between first rest fits, packedFirst, packedRest]
      rfl
    | ok back =>
      refine .inr ⟨front, back ++ texts, ?_, fun value fits => ?_⟩
      · obtain ⟨packed, same, length, -⟩ := packNumbers_spec first fun field member =>
          bounds_of_packNumbers packedFirst member
        cases packedFirst.symm.trans same
        rw [length, widths]
        rfl
      · rw [info, packNumbers_between first rest fits, packedFirst, packedRest]
        simp only [Except.bind, Except.map, List.append_assoc]

/-- What a client takes of a symbol's information for its data type. -/
def symbolTypeOf (reply : Bytes) : Result (List Char) := do
  let readData := responseBuffer sizeofSymbolEntry reply
  checkLength (fieldAt 4 0 readData) reply.length
  let info ← symbolEntryOf readData
  return info.symbolType

theorem symbolType_symbolEntryOf (readData : Bytes) : (do let info ← symbolEntryOf readData; return info.symbolType) =
    decodeWindows1252 (((readData.drop 30).drop (fieldAt 2 24 readData + 1)).take (fieldAt 2 26 readData)) := by
  simp only [symbolEntryOf, bind, Except.bind, pure, Except.pure]
  cases decodeWindows1252 (((readData.drop 30).drop (fieldAt 2 24 readData + 1)).take (fieldAt 2 26 readData)) <;> rfl

/-- The type of a symbol lies behind the field of its size. -/
theorem symbolTypeOf_resized {front : Bytes} (twelve : front.length = 12) (back : Bytes) (size other : Nat) :
    symbolTypeOf (front ++ (LittleEndian.ofNat 4 size ++ back)) =
      symbolTypeOf (front ++ (LittleEndian.ofNat 4 other ++ back)) := by
  let readBack := (back ++ List.replicate sizeofSymbolEntry 0).take (sizeofSymbolEntry - 16)
  have buffer (size : Nat) : responseBuffer sizeofSymbolEntry (front ++ (LittleEndian.ofNat 4 size ++ back)) =
      front ++ (LittleEndian.ofNat 4 size ++ readBack) := by
    have width : (LittleEndian.ofNat 4 size).length = 4 := LittleEndian.length_ofNat ..
    rw [responseBuffer, List.append_assoc, List.append_assoc, List.take_append, List.take_append, twelve, width,
      List.take_of_length_le (by rw [twelve]; decide), List.take_of_length_le (by rw [width]; decide)]
    rfl
  have first (size : Nat) : fieldAt 4 0 (front ++ (LittleEndian.ofNat 4 size ++ readBack)) =
      LittleEndian.toNat (front.take 4) := by
    rw [fieldAt, List.drop_zero, List.take_append_of_le_length (by omega)]
  have behind (size k : Nat) : (front ++ (LittleEndian.ofNat 4 size ++ readBack)).drop (16 + k) = readBack.drop k := by
    have width : (LittleEndian.ofNat 4 size).length = 4 := LittleEndian.length_ofNat ..
    rw [← List.drop_drop, ← List.append_assoc, List.drop_left' (by rw [List.length_append, twelve, width])]
  have length (size : Nat) : (front ++ (LittleEndian.ofNat 4 size ++ back)).length = 16 + back.length := by
    simp only [List.length_append, LittleEndian.length_ofNat, twelve]
    omega
  have decoded (size : Nat) : symbolTypeOf (front ++ (LittleEndian.ofNat 4 size ++ back)) = (do
      checkLength (LittleEndian.toNat (front.take 4)) (16 + back.length)
      decodeWindows1252 (((readBack.drop 14).drop (LittleEndian.toNat ((readBack.drop 8).take 2) + 1)).take
        (LittleEndian.toNat ((readBack.drop 10).take 2)))) := by
    have nameLength : fieldAt 2 24 (front ++ (LittleEndian.ofNat 4 size ++ readBack)) =
        LittleEndian.toNat ((readBack.drop 8).take 2) := by rw [fieldAt, behind size 8]
    have typeLength : fieldAt 2 26 (front ++ (LittleEndian.ofNat 4 size ++ readBack)) =
        LittleEndian.toNat ((readBack.drop 10).take 2) := by rw [fieldAt, behind size 10]
    have texts : (front ++ (LittleEndian.ofNat 4 size ++ readBack)).drop 30 = readBack.drop 14 := behind size 14
    unfold symbolTypeOf
    rw [buffer]
    dsimp only
    rw [first, length, symbolType_symbolEntryOf, nameLength, typeLength, texts]
  rw [decoded, decoded]

/-! ## Effects -/

/-- The data of a request have a length of four bytes. -/
def ClientRequest.Fits : ClientRequest → Prop
  | .read .. => True
  | .write _ _ data => data.length < 2 ^ 32
  | .readWrite _ _ _ writeData => writeData.length < 2 ^ 32

namespace AdvancedHandler
variable {handler later : AdvancedHandler}

/-- The same variables, and values whose lengths have four bytes. -/
structure Bounded (handler later : AdvancedHandler) : Prop where
  revalued : Revalued handler later
  fits : ∀ id, (later.objects id).value.length < 2 ^ 32

theorem Bounded.setValue (bounded : Bounded handler later) (fits : value.length < 2 ^ 32) (id : Nat) :
    Bounded handler (later.setValue id value) := by
  refine ⟨bounded.revalued.trans (.setValue id value later), fun other => ?_⟩
  by_cases same : other = id
  · subst same
    simpa [AdvancedHandler.setValue, setObject] using fits
  · simpa [AdvancedHandler.setValue, setObject, same] using bounded.fits other

theorem Bounded.writeFound (bounded : Bounded handler later) (fits : value.length < 2 ^ 32) (found : Result Nat) :
    Bounded handler (later.writeFound found value).2 := by
  cases found with
  | error e => exact bounded
  | ok id => exact bounded.setValue fits id

theorem Bounded.storeItems {items : List (SumRequest × Bytes)} (bounded : Bounded handler later)
    (fits : ∀ item ∈ items, item.2.length < 2 ^ 32) : Bounded handler (AdvancedHandler.storeItems items later).2 := by
  induction items generalizing later with
  | nil => exact bounded
  | cons item items ih =>
    obtain ⟨here, others⟩ := List.forall_mem_cons.mp fits
    rw [AdvancedHandler.storeItems]
    cases found : later.getVariableByIndices item.1.iGroup item.1.iOffset with
    | error e => exact bounded
    | ok id => exact ih (bounded.setValue here id) others

theorem Bounded.sumupWrite (bounded : Bounded handler later) (numRequests : Nat) (writeData : Bytes) :
    Bounded handler (later.sumupWrite numRequests writeData).2 := by
  have stored : Bounded handler (AdvancedHandler.storeItems (received numRequests writeData) later).2 :=
    bounded.storeItems fun item member => (length_le_of_mem_cut member).trans_lt (UInt32.toNat_lt _)
  unfold AdvancedHandler.sumupWrite
  split
  · exact bounded
  · split
    · rename_i last same
      rwa [same] at stored
    · rename_i last same
      rwa [same] at stored

/-- A request changes values alone. -/
theorem Bounded.answer {request : ClientRequest} (bounded : Bounded handler later) (fits : request.Fits) :
    Bounded handler (later.answer request).2 := by
  cases request with
  | read indexGroup indexOffset length => exact bounded
  | write indexGroup indexOffset data =>
    simp only [AdvancedHandler.answer, handleWrite]
    split
    · exact bounded
    · split
      · exact bounded.writeFound fits _
      · exact bounded.writeFound fits _
  | readWrite indexGroup indexOffset readLength writeData =>
    simp only [AdvancedHandler.answer, handleReadWrite]
    split
    · exact bounded
    · split
      · exact bounded
      · split
        · exact bounded.sumupWrite indexOffset writeData
        · split
          · exact bounded
          · split
            · exact bounded
            · exact bounded.setValue fits _

/-- `_query_plc_datatype_from_name` without a cache. -/
def queryPlcDatatype (handler : AdvancedHandler) (dataName : String) : Result (Option PlcDataType) := do
  let info ← handler.adsGetSymbolInfo dataName
  getTypeFromStr info.symbolType

/-- The data type that is given, or asked for. -/
def datatypeFor (handler : AdvancedHandler) (dataName : String) : Option PlcDataType → Result (Option PlcDataType)
  | some plcDatatype => .ok (some plcDatatype)
  | none => handler.queryPlcDatatype dataName

theorem queryPlcDatatype_eq (handler : AdvancedHandler) (dataName : String) : handler.queryPlcDatatype dataName = (do
    let id ← handler.getVariableNamed (requestedName dataName)
    let reply ← (handler.objects id).getPackedInfo
    let symbolType ← symbolTypeOf reply
    getTypeFromStr symbolType) := by
  simp only [queryPlcDatatype, adsGetSymbolInfo, handleReadWrite_infoByNameEx, symbolTypeOf, bind_assoc, pure_bind]

/-- The data type of a name does not change with the values. -/
theorem Bounded.queryPlcDatatype (bounded : Bounded handler later)
    (fits : ∀ id, (handler.objects id).value.length < 2 ^ 32) (dataName : String) :
    later.queryPlcDatatype dataName = handler.queryPlcDatatype dataName := by
  have named : later.getVariableNamed (requestedName dataName) = handler.getVariableNamed (requestedName dataName) := by
    simp only [getVariableNamed, bounded.revalued.getVariableByName]
  have symbolType (id : Nat) : ((later.objects id).getPackedInfo >>= symbolTypeOf) =
      ((handler.objects id).getPackedInfo >>= symbolTypeOf) := by
    obtain ⟨value, same⟩ := bounded.revalued.objects id
    have small := (bounded.fits id).trans_eq (show 2 ^ 32 = 256 ^ 4 by norm_num)
    have own := (fits id).trans_eq (show 2 ^ 32 = 256 ^ 4 by norm_num)
    rw [same] at small ⊢
    rcases (handler.objects id).getPackedInfo_value with ⟨e, failed⟩ | ⟨front, back, twelve, packed⟩
    · rw [failed value small, failed (handler.objects id).value own]
    · rw [packed value small, packed (handler.objects id).value own]
      exact symbolTypeOf_resized twelve back value.length (handler.objects id).value.length
  rw [queryPlcDatatype_eq, queryPlcDatatype_eq, named]
  refine congrArg (handler.getVariableNamed (requestedName dataName) >>= ·) (funext fun id => ?_)
  rw [← bind_assoc, symbolType, bind_assoc]

theorem Bounded.adsGetHandle (bounded : Bounded handler later) (dataName : String) :
    later.adsGetHandle dataName = handler.adsGetHandle dataName := by
  have named : later.getVariableNamed (requestedName dataName) = handler.getVariableNamed (requestedName dataName) := by
    simp only [getVariableNamed, bounded.revalued.getVariableByName]
  simp only [AdvancedHandler.adsGetHandle, handleReadWrite_hndByName, named, bounded.revalued.handle]

end AdvancedHandler

/-! ## One effect for each call -/

namespace ClientProgram
open AdvancedHandler
variable {inv : AdvancedHandler → Prop} {handler : AdvancedHandler} {dataName : String} {next : α → ClientProgram}

/-- What is left has no effect any more. -/
abbrev Over (inv : AdvancedHandler → Prop) (left : ClientProgram) : Prop :=
  ∃ result, Quiet AdvancedHandler.answer inv left result

/-- What is left has one effect at most. -/
abbrev Once (inv : AdvancedHandler → Prop) (left : ClientProgram) : Prop := Single AdvancedHandler.answer inv left

theorem over_orRaise {result : Result α} (after : ∀ a, Over inv (next a)) : Over inv (orRaise result next) := by
  cases result with
  | error e => exact ⟨_, .done _⟩
  | ok a => exact after a

theorem once_orRaise {result : Result α} (after : ∀ a, result = .ok a → Once inv (next a)) :
    Once inv (orRaise result next) := by
  cases result with
  | error e => exact .done _
  | ok a => exact after a rfl

theorem orRaise_bind (result : Result β) (f : β → Result α) :
    orRaise result (fun b => orRaise (f b) next) = orRaise (result >>= f) next := by
  cases result <;> rfl

/-- The answer to `adsGetHandle` is always the same. -/
theorem once_adsGetHandle {next : UInt32 → ClientProgram} (after : ∀ found, Once (Bounded handler) (next found)) :
    Once (Bounded handler) (adsGetHandle dataName next) := by
  have rest : Once (Bounded handler) (orRaise (handler.adsGetHandle dataName) next) :=
    once_orRaise fun found _ => after found
  refine .ask ?_ rest
  intro later bounded
  refine ⟨rfl, ?_⟩
  rw [← bounded.adsGetHandle dataName]
  rfl

/-- A handle is released without a change. -/
theorem over_adsReleaseHandle {next : Unit → ClientProgram} (handle : UInt32)
    (after : Over (Bounded handler) (next ())) :
    Over (Bounded handler) (adsReleaseHandle handle next) := by
  obtain ⟨result, quiet⟩ := after
  refine ⟨result, .ask ?_ quiet⟩
  exact fun _ _ => ⟨rfl, rfl⟩

theorem once_adsSyncReadReqEx2 {next : PlainValue → ClientProgram} (indexGroup indexOffset : UInt32)
    (dataType : PlcDataType) (after : ∀ value, Over (Bounded handler) (next value)) :
    Once (Bounded handler) (adsSyncReadReqEx2 indexGroup indexOffset dataType next) :=
  once_orRaise fun _ _ => .effect (fun _ bounded => bounded) fun _ => over_orRaise after

theorem once_adsSyncWriteReqEx {next : Unit → ClientProgram} {value : PyVal} {plcDataType : Option PlcDataType}
    (indexGroup indexOffset : UInt32)
    (fits : ∀ data, requestData plcDataType value = .ok data → data.length < 2 ^ 32)
    (after : Over (Bounded handler) (next ())) :
    Once (Bounded handler) (adsSyncWriteReqEx indexGroup indexOffset value plcDataType next) := by
  refine once_orRaise fun data sent => ?_
  have kept (later : AdvancedHandler) (bounded : Bounded handler later) :
      Bounded handler (later.answer (.write indexGroup indexOffset data)).2 := bounded.answer (fits data sent)
  exact .effect kept fun _ => over_orRaise fun _ => after

/-- A handle is asked for and released without an effect. -/
theorem once_withHandle {use : UInt32 → (α → ClientProgram) → ClientProgram} (handle : Option UInt32)
    (used : ∀ found next, (∀ a, Over (Bounded handler) (next a)) → Once (Bounded handler) (use found next))
    (after : ∀ a, Over (Bounded handler) (next a)) : Once (Bounded handler) (withHandle dataName handle use next) := by
  cases handle with
  | some known => exact used known next after
  | none => exact once_adsGetHandle fun found => used found _ fun a => over_adsReleaseHandle found (after a)

theorem once_adsSyncReadByNameEx {next : PlainValue → ClientProgram} (dataType : Option PlcDataType)
    (handle : Option UInt32) (after : ∀ value, Over (Bounded handler) (next value)) :
    Once (Bounded handler) (adsSyncReadByNameEx dataName dataType handle next) := by
  refine once_withHandle handle (fun found next after => ?_) after
  cases dataType with
  | none => exact .done _
  | some dataType => exact once_adsSyncReadReqEx2 _ found dataType after

theorem once_adsSyncWriteByNameEx {next : Unit → ClientProgram} {value : PyVal} {dataType : Option PlcDataType}
    (handle : Option UInt32) (fits : ∀ data, requestData dataType value = .ok data → data.length < 2 ^ 32)
    (after : Over (Bounded handler) (next ())) :
    Once (Bounded handler) (adsSyncWriteByNameEx dataName value dataType handle next) :=
  once_withHandle handle (fun found _ after => once_adsSyncWriteReqEx _ found fits (after ())) fun _ => after

/-- The data type of a name is always the same, too. -/
theorem once_datatypeFor {next : Option PlcDataType → ClientProgram} {plcDatatype : Option PlcDataType}
    (small : ∀ id, (handler.objects id).value.length < 2 ^ 32)
    (after : ∀ dataType, handler.datatypeFor dataName plcDatatype = .ok dataType →
      Once (Bounded handler) (next dataType)) :
    Once (Bounded handler) (datatypeFor dataName plcDatatype next) := by
  cases plcDatatype with
  | some plcDatatype => exact after _ rfl
  | none =>
    have rest : Once (Bounded handler) (orRaise (handler.queryPlcDatatype dataName) next) := once_orRaise after
    refine .ask ?_ rest
    intro later bounded
    refine ⟨rfl, ?_⟩
    rw [← bounded.queryPlcDatatype small dataName, AdvancedHandler.queryPlcDatatype, ← orRaise_bind]
    rfl

end ClientProgram

/-- The data that a call sends have a length of four bytes. -/
def NameCall.Fits (handler : AdvancedHandler) : NameCall → Prop
  | request asked => asked.Fits
  | writeByName dataName value plcDatatype _ => ∀ dataType data,
    handler.datatypeFor dataName plcDatatype = .ok dataType → requestData dataType value = .ok data →
      data.length < 2 ^ 32
  | writeStructureByName _ value structureDef arraySize structureSize _ => ∀ byteValues plcDatatype data,
    structureArray value structureDef arraySize structureSize = .ok (byteValues, plcDatatype) →
      requestData (some plcDatatype) (.ofBytes byteValues) = .ok data → data.length < 2 ^ 32
  | _ => True

/-- Each call has one effect at most. -/
theorem NameCall.once {handler : AdvancedHandler} {call : NameCall}
    (small : ∀ id, (handler.objects id).value.length < 2 ^ 32) (fits : call.Fits handler) :
    ClientProgram.Once (AdvancedHandler.Bounded handler) call.program := by
  cases call with
  | request asked => exact .effect (fun _ bounded => bounded.answer fits) fun _ => ⟨_, .done _⟩
  | readByName dataName plcDatatype handle =>
    unfold NameCall.program
    exact ClientProgram.once_datatypeFor small fun dataType _ =>
      ClientProgram.once_adsSyncReadByNameEx dataType handle fun value => ⟨Except.ok (.value value), .done _⟩
  | writeByName dataName value plcDatatype handle =>
    exact ClientProgram.once_datatypeFor small fun dataType named =>
      ClientProgram.once_adsSyncWriteByNameEx handle (fits dataType · named) ⟨_, .done _⟩
  | readStructureByName dataName structureDef arraySize structureSize handle =>
    exact ClientProgram.once_orRaise fun _ _ => ClientProgram.once_orRaise fun plcDatatype _ =>
      ClientProgram.once_adsSyncReadByNameEx (some plcDatatype) handle fun _ => ⟨_, .done _⟩
  | writeStructureByName dataName value structureDef arraySize structureSize handle =>
    exact ClientProgram.once_orRaise fun (byteValues, plcDatatype) packed =>
      ClientProgram.once_adsSyncWriteByNameEx handle (fits byteValues plcDatatype · packed) ⟨_, .done _⟩

/-! ## Calls without interruption -/

namespace ClientProgram
variable {handler : AdvancedHandler} {dataName : String}

theorem exec_orRaise (result : Result α) (next : α → ClientProgram) :
    (orRaise result next).exec AdvancedHandler.answer handler =
      match result with
      | .error e => (.error e, handler)
      | .ok a => (next a).exec AdvancedHandler.answer handler := by
  cases result <;> rfl

theorem exec_adsSyncReadReqEx2 (indexGroup indexOffset : UInt32) (dataType : PlcDataType)
    (next : PlainValue → ClientProgram) :
    (adsSyncReadReqEx2 indexGroup indexOffset dataType next).exec AdvancedHandler.answer handler =
      (orRaise (PyAds.adsSyncReadReqEx2 (handler.handleRead indexGroup indexOffset ·) dataType) next).exec
        AdvancedHandler.answer handler := by
  cases size : bufferSize dataType with
  | error e => simp [adsSyncReadReqEx2, PyAds.adsSyncReadReqEx2, size, bind, Except.bind]
  | ok dataLength =>
    have same : PyAds.adsSyncReadReqEx2 (handler.handleRead indexGroup indexOffset ·) dataType =
        PyAds.adsSyncReadReqEx2 (fun _ => handler.handleRead indexGroup indexOffset dataLength) dataType := by
      simp only [PyAds.adsSyncReadReqEx2, size, bind, Except.bind]
    rw [same, adsSyncReadReqEx2, size]
    rfl

theorem exec_adsSyncReadByNameEx (dataType : Option PlcDataType) (next : PlainValue → ClientProgram) :
    (adsSyncReadByNameEx dataName dataType none next).exec AdvancedHandler.answer handler =
      (orRaise (PyAds.adsSyncReadByNameEx handler.plc dataName dataType) next).exec AdvancedHandler.answer handler := by
  have asked : handler.plc.adsGetHandle dataName = handler.adsGetHandle dataName := rfl
  rw [PyAds.adsSyncReadByNameEx, asked, ← orRaise_bind, exec_orRaise]
  change (orRaise (handler.adsGetHandle dataName) _).exec AdvancedHandler.answer handler = _
  rw [exec_orRaise]
  cases handler.adsGetHandle dataName with
  | error e => rfl
  | ok found =>
    cases dataType with
    | none => rfl
    | some dataType =>
      dsimp only
      rw [← orRaise_bind, exec_adsSyncReadReqEx2, exec_orRaise, exec_orRaise]
      rfl

theorem exec_adsSyncWriteReqEx (indexGroup indexOffset : UInt32) (value : PyVal) (plcDataType : Option PlcDataType)
    (next : Unit → ClientProgram) :
    (adsSyncWriteReqEx indexGroup indexOffset value plcDataType next).exec AdvancedHandler.answer handler =
      (orRaise (handler.adsSyncWriteReqEx indexGroup indexOffset value plcDataType).1 next).exec AdvancedHandler.answer
        (handler.adsSyncWriteReqEx indexGroup indexOffset value plcDataType).2 := by
  rw [adsSyncWriteReqEx, AdvancedHandler.adsSyncWriteReqEx]
  cases requestData plcDataType value with
  | error e => rfl
  | ok data =>
    simp only [orRaise_ok, Program.exec, AdvancedHandler.answer]
    cases (handler.handleWrite indexGroup indexOffset data).1 <;> rfl

theorem exec_adsSyncWriteByNameEx (value : PyVal) (dataType : Option PlcDataType) (handle : Option UInt32)
    (next : Unit → ClientProgram) :
    (adsSyncWriteByNameEx dataName value dataType handle next).exec AdvancedHandler.answer handler =
      (orRaise (handler.adsSyncWriteByNameEx dataName value dataType handle).1 next).exec AdvancedHandler.answer
        (handler.adsSyncWriteByNameEx dataName value dataType handle).2 := by
  cases handle with
  | some known =>
    simp only [adsSyncWriteByNameEx, withHandle, exec_adsSyncWriteReqEx, AdvancedHandler.adsSyncWriteByNameEx,
      AdvancedHandler.handleFor]
    rcases handler.adsSyncWriteReqEx ADSIGRP_SYM_VALBYHND known value dataType with ⟨result, later⟩
    cases result <;> rfl
  | none =>
    change (orRaise (handler.adsGetHandle dataName) _).exec AdvancedHandler.answer handler = _
    rw [exec_orRaise, AdvancedHandler.adsSyncWriteByNameEx, AdvancedHandler.handleFor]
    cases handler.adsGetHandle dataName with
    | error e => rfl
    | ok found =>
      dsimp only
      rw [exec_adsSyncWriteReqEx]
      rcases handler.adsSyncWriteReqEx ADSIGRP_SYM_VALBYHND found value dataType with ⟨result, later⟩
      cases result <;> rfl

theorem exec_datatypeFor (plcDatatype : Option PlcDataType) (next : Option PlcDataType → ClientProgram) :
    (datatypeFor dataName plcDatatype next).exec AdvancedHandler.answer handler =
      (orRaise (handler.datatypeFor dataName plcDatatype) next).exec AdvancedHandler.answer handler := by
  cases plcDatatype with
  | some plcDatatype => rfl
  | none =>
    rw [AdvancedHandler.datatypeFor, AdvancedHandler.queryPlcDatatype, ← orRaise_bind]
    rfl

end ClientProgram

/-- The handler as the PLC that writes of structures ask. -/
def AdvancedHandler.writePlc (handler : AdvancedHandler) : WritePlc where
  adsGetHandle := handler.adsGetHandle
  adsSyncWrite handle data := (handler.handleWrite ADSIGRP_SYM_VALBYHND handle data).1
  adsReleaseHandle handle := (handler.adsReleaseHandle handle).1

namespace NameCall

/-- Without interruption, a read by name is `read_by_name`. -/
theorem perform_readByName (handler : AdvancedHandler) (dataName : String) (symbolInfoCache : DataSymbols) :
    perform handler (.readByName dataName none none) =
      ((PyAds.readByName handler.plc symbolInfoCache dataName false).1.map .value, handler) := by
  have asked : handler.plc.adsGetSymbolInfo dataName = handler.adsGetSymbolInfo dataName := rfl
  rw [perform, whole, program, ClientProgram.exec_datatypeFor, ClientProgram.exec_orRaise]
  simp only [AdvancedHandler.datatypeFor, AdvancedHandler.queryPlcDatatype, PyAds.readByName, symbolInfo, asked,
    Bool.false_eq_true, ↓reduceIte]
  cases handler.adsGetSymbolInfo dataName with
  | error e => rfl
  | ok info =>
    simp only [bind, Except.bind, pure, Except.pure]
    cases getTypeFromStr info.symbolType with
    | error e => rfl
    | ok dataType =>
      dsimp only
      rw [ClientProgram.exec_adsSyncReadByNameEx, ClientProgram.exec_orRaise]
      cases adsSyncReadByNameEx handler.plc dataName dataType <;> rfl

/-- Without interruption, a write by name is `write_by_name`. -/
theorem perform_writeByName (client : HandlerClient) (dataName : String) (value : PyVal)
    (plcDatatype : Option PlcDataType) (handle : Option UInt32) :
    perform client.handler (.writeByName dataName value plcDatatype handle) =
      ((client.writeByName dataName value plcDatatype handle false).1.map fun _ => .nothing,
        (client.writeByName dataName value plcDatatype handle false).2.handler) := by
  have asked : (client.datatypeFor dataName false plcDatatype).1 = client.handler.datatypeFor dataName plcDatatype := by
    cases plcDatatype with
    | some plcDatatype => rfl
    | none =>
      simp only [HandlerClient.datatypeFor, HandlerClient.queryPlcDatatype, symbolInfo, AdvancedHandler.datatypeFor,
        AdvancedHandler.queryPlcDatatype, AdvancedHandler.plc]
      cases client.handler.adsGetSymbolInfo dataName <;> rfl
  rw [perform, whole, program, ClientProgram.exec_datatypeFor, ClientProgram.exec_orRaise, HandlerClient.writeByName,
    ← asked]
  rcases client.datatypeFor dataName false plcDatatype with ⟨e | dataType, symbolInfoCache⟩
  · rfl
  · dsimp only
    rw [ClientProgram.exec_adsSyncWriteByNameEx, ClientProgram.exec_orRaise]
    rcases client.handler.adsSyncWriteByNameEx dataName value dataType handle with ⟨e | written, later⟩ <;> rfl

/-- Without interruption, a read of structures is `read_structure_by_name`. -/
theorem perform_readStructureByName (handler : AdvancedHandler) (dataName : String) (structureDef : StructureDef)
    (arraySize : Nat) (fits : ∀ size, sizeOfStructure (structureDef.times arraySize) = .ok size → size < 2 ^ 63) :
    perform handler (.readStructureByName dataName structureDef arraySize none none) =
      ((handler.plc.readStructureByName dataName structureDef arraySize).map .structures, handler) := by
  rw [perform, whole, program, Option.elim_none, ClientProgram.exec_orRaise, NamePlc.readStructureByName]
  cases size : sizeOfStructure (structureDef.times arraySize) with
  | error e => rfl
  | ok structureSize =>
    have small := fits structureSize size
    have array := (times_ubyte structureSize).trans (if_pos small)
    simp only [array, ClientProgram.orRaise_ok, bind, Except.bind]
    rw [ClientProgram.exec_adsSyncReadByNameEx, ClientProgram.exec_orRaise]
    rcases adsSyncReadByNameEx handler.plc dataName (some (.ctypes (.array (.simple .ubyte) structureSize))) with
      e | (values | rows) <;> rfl

/-- Without interruption, a write of structures returns what
`write_structure_by_name` returns. -/
theorem perform_writeStructureByName (handler : AdvancedHandler) (dataName : String) (value : PyVal)
    (structureDef : StructureDef) (arraySize : Nat) (structureSize : Option Nat) (handle : Option UInt32) :
    (perform handler (.writeStructureByName dataName value structureDef arraySize structureSize handle)).1 =
      (PyAds.writeStructureByName true handler.writePlc dataName value structureDef arraySize structureSize
        handle).1.map fun _ => .nothing := by
  rw [perform, whole, program, ClientProgram.exec_orRaise, PyAds.writeStructureByName]
  rcases structureArray value structureDef arraySize structureSize with e | ⟨byteValues, plcDatatype⟩
  · rfl
  · dsimp only
    rw [ClientProgram.exec_adsSyncWriteByNameEx, ClientProgram.exec_orRaise, AdvancedHandler.adsSyncWriteByNameEx]
    have found : handler.handleFor dataName handle = handle.elim (handler.writePlc.adsGetHandle dataName) .ok := by
      cases handle <;> rfl
    rw [found]
    cases handle.elim (handler.writePlc.adsGetHandle dataName) .ok with
    | error e => rfl
    | ok found =>
      dsimp only
      rw [AdvancedHandler.adsSyncWriteReqEx]
      cases requestData (some plcDatatype) (.ofBytes byteValues) with
      | error e => rfl
      | ok data =>
        have sent : handler.writePlc.adsSyncWrite found data =
            (handler.handleWrite ADSIGRP_SYM_VALBYHND found data).1 := rfl
        dsimp only
        rw [sent]
        rcases handler.handleWrite ADSIGRP_SYM_VALBYHND found data with ⟨e | written, later⟩
        · rfl
        · cases handle <;> rfl

end NameCall

/-! ## Any order of requests -/

/-- Whatever requests come in between, the calls by name return what they return
without interruption in one order, which keeps a call that had returned before
another one was started in front of it, and they leave the same values. -/
theorem name_calls_linearizable {handler : AdvancedHandler} {events : List (Event NameCall)}
    (small : ∀ id, (handler.objects id).value.length < 2 ^ 32) (fits : ∀ call ∈ started events, call.Fits handler) :
    ∃ order, Linearizes NameCall.perform handler (fun i => (started events)[i]?)
        (Precedes AdvancedHandler.answer NameCall.program handler events)
        (fun i result => (reached AdvancedHandler.answer NameCall.program handler events).returned i = some result)
        order ∧
      ∃ calls, List.Forall₂ (fun i call => (started events)[i]? = some call) order calls ∧
        (run NameCall.perform handler calls).2 =
          (reached AdvancedHandler.answer NameCall.program handler events).object := by
  have start : AdvancedHandler.Bounded handler handler := ⟨.refl handler, small⟩
  exact exists_linearization start fun call called => NameCall.once small (fits call called)

/-- A read comes between the requests of a write. -/
def levelEvents : List (Event NameCall) :=
  [.start (.writeByName "MAIN.level" (.int 7) (some (.ctypes (.simple .int16))) none),
   .start (.readByName "MAIN.level" none none),
   -- the type and two handles
   .step 1, .step 0, .step 1,
   -- the value is read and then written
   .step 1, .step 0,
   .step 0, .step 1]

theorem level_calls_linearizable : (∃ order, Linearizes NameCall.perform tankClient.handler
      (fun i => (started levelEvents)[i]?)
      (Precedes AdvancedHandler.answer NameCall.program tankClient.handler levelEvents)
      (fun i result =>
        (reached AdvancedHandler.answer NameCall.program tankClient.handler levelEvents).returned i = some result)
      order ∧
    ∃ calls, List.Forall₂ (fun i call => (started levelEvents)[i]? = some call) order calls ∧
      (run NameCall.perform tankClient.handler calls).2 =
        (reached AdvancedHandler.answer NameCall.program tankClient.handler levelEvents).object) ∧
    (reached AdvancedHandler.answer NameCall.program tankClient.handler levelEvents).returned 0 = some (.ok .nothing) ∧
    (reached AdvancedHandler.answer NameCall.program tankClient.handler levelEvents).returned 1 =
      some (.ok (.value (.value (.int 5)))) := by
  refine ⟨name_calls_linearizable ?_ ?_, ?_, ?_⟩
  · rintro (_ | id)
    · decide
    · exact Nat.lt_of_lt_of_le (show 6 < 2 ^ 32 by decide) le_rfl
  · simp only [levelEvents, started, List.filterMap_cons, Event.started?, List.filterMap_nil, List.forall_mem_cons]
    refine ⟨?_, trivial, by simp⟩
    rintro dataType data named sent
    cases named
    cases sent
    decide
  · with_unfolding_all rfl
  · with_unfolding_all rfl

end PyAds
