import PyAds.HandlerNotifications
import PyAds.ListWrite
import PyAds.PlainRead

/-! Requests of a client to the advanced handler, and what the client makes of
the answers. Between them a request and its answer are passed on as they are. -/
namespace PyAds
open SlotSequence Fallible

def ADSIGRP_SYM_HNDBYNAME : UInt32 := 0xF003
def ADSIGRP_SYM_VALBYHND : UInt32 := 0xF005
def ADSIGRP_SYM_RELEASEHND : UInt32 := 0xF006
def ADSIGRP_SYM_INFOBYNAMEEX : UInt32 := 0xF009
def ADSIGRP_SYM_UPLOAD : UInt32 := 0xF00B
def ADSIGRP_SYM_UPLOADINFO2 : UInt32 := 0xF00F
def ADSIGRP_SUMUP_READ : UInt32 := 0xF080
def ADSIGRP_SUMUP_WRITE : UInt32 := 0xF081

/-! ## Fields of a structure -/

/-- `struct.pack` of unsigned numbers, each with the width of its format. -/
def packNumbers (fields : List (Nat × Nat)) : Result Bytes :=
  concatM (fun field => packInt field.1 false (.int field.2)) fields

/-- The number in a field of a packed structure. -/
def fieldAt (width offset : Nat) (data : Bytes) : Nat := LittleEndian.toNat ((data.drop offset).take width)

/-- Numbers that fit their fields are found in them. -/
theorem packNumbers_spec (fields : List (Nat × Nat)) (fits : ∀ field ∈ fields, field.2 < 256 ^ field.1) :
    ∃ packed, packNumbers fields = .ok packed ∧ packed.length = (fields.map Prod.fst).sum ∧
      ∀ (i : Nat) field, fields[i]? = some field → ∀ rest,
        fieldAt field.1 ((fields.take i).map Prod.fst).sum (packed ++ rest) = field.2 := by
  induction fields with
  | nil => exact ⟨[], rfl, rfl, nofun⟩
  | cons first fields ih =>
    obtain ⟨here, others⟩ := List.forall_mem_cons.mp fits
    obtain ⟨packed, written, length, found⟩ := ih others
    refine ⟨LittleEndian.ofNat first.1 first.2 ++ packed, concatM_cons_eq_ok.mpr
      ⟨_, _, packInt_natCast here, written, rfl⟩, by simp [length], ?_⟩
    intro i field held rest
    rw [List.append_assoc]
    cases i with
    | zero =>
      cases held
      have front : (LittleEndian.ofNat first.1 first.2 ++ (packed ++ rest)).take first.1 =
          LittleEndian.ofNat first.1 first.2 := List.take_left' (LittleEndian.length_ofNat ..)
      rw [List.take_zero, List.map_nil, List.sum_nil, fieldAt, List.drop_zero, front]
      exact LittleEndian.toNat_ofNat_of_lt here
    | succ i =>
      have behind := found i field held rest
      have skipped : (LittleEndian.ofNat first.1 first.2 ++ (packed ++ rest)).drop first.1 = packed ++ rest :=
        List.drop_left' (LittleEndian.length_ofNat ..)
      rw [List.take_succ_cons, List.map_cons, List.sum_cons, fieldAt, ← List.drop_drop, skipped]
      exact behind

/-- Numbers that fit are packed one behind the other. -/
theorem packNumbers_eq {fields : List (Nat × Nat)} (fits : ∀ field ∈ fields, field.2 < 256 ^ field.1) :
    packNumbers fields = .ok (fields.flatMap fun field => LittleEndian.ofNat field.1 field.2) := by
  rw [List.flatMap_def]
  exact concatM_of_forall₂ (List.forall₂_map_right_iff.mpr (List.forall₂_same.mpr fun field member =>
    packInt_natCast (fits field member)))

theorem packNumbers_single (bound : n < 256 ^ width) :
    packNumbers [(width, n)] = .ok (LittleEndian.ofNat width n) := by
  rw [packNumbers_eq (by simpa using bound), List.flatMap_singleton]

/-- A number that does not fit its field stops the packing. -/
theorem bounds_of_packNumbers {fields : List (Nat × Nat)} (packed : packNumbers fields = .ok bytes)
    (member : (width, n) ∈ fields) : n < 256 ^ width := by
  obtain ⟨part, written⟩ := concatM_ok_iff.mp ⟨bytes, packed⟩ _ member
  simp only [packInt, PyVal.asInt?] at written
  split at written
  · rename_i fits
    have bounds : 2 * (n : Int) < 2 * 256 ^ width := fits.2
    zify
    omega
  · cases written

/-! ## Variables -/

namespace PLCVariable

def size (var : PLCVariable) : Nat := var.value.length

/-- `get_packed_info` -/
def getPackedInfo (var : PLCVariable) : Result Bytes := do
  let nameBytes := Text.Utf8.encode var.name.toList
  let symbolTypeBytes := Text.Utf8.encode var.symbolType.toList
  let commentBytes := Text.Utf8.encode var.comment.toList
  let entryLength := 6 * 4 + 3 * 2 + nameBytes.length + 1 + symbolTypeBytes.length + 1 + commentBytes.length
  let header ← packNumbers [(4, entryLength), (4, var.indexGroup.toNat), (4, var.indexOffset.toNat), (4, var.size),
    (4, var.adsType.toNat), (4, 0), (2, nameBytes.length), (2, symbolTypeBytes.length), (2, commentBytes.length)]
  return header ++ (nameBytes ++ 0x20 :: (symbolTypeBytes ++ 0x20 :: commentBytes))

end PLCVariable

namespace AdvancedHandler

/-- What `PLCVariable.write` leaves in a variable, whichever callbacks it calls. -/
def setValue (id : Nat) (value : Bytes) (handler : AdvancedHandler) : AdvancedHandler :=
  handler.setObject id { handler.objects id with value := value }

theorem setObject_write (callbackStore : OrderedDict (α × UInt32) κ) (id : Nat) (value : Bytes)
    (handler : AdvancedHandler) :
    handler.setObject id ((handler.objects id).write callbackStore value).2 = handler.setValue id value := rfl

/-! ## Requests -/

/-- `handle_read`; an upload has 120 bytes for each variable. -/
def handleRead (indexGroup indexOffset : UInt32) (plcDatatype : Nat) (handler : AdvancedHandler) : Result Bytes :=
  if indexGroup = ADSIGRP_SYM_VALBYHND then do
    let id ← handler.getVariableByHandle indexOffset.toNat
    return (handler.objects id).value
  else if indexGroup = ADSIGRP_SYM_UPLOADINFO2 then
    packNumbers [(4, handler.data.entries.length), (4, 120 * handler.data.entries.length)]
  else if indexGroup = ADSIGRP_SYM_UPLOAD then
    concatM (fun (group, offset) => do
      let head ← packNumbers [(4, 120), (4, group.toNat), (4, offset.toNat)]
      return head ++ List.replicate 108 0) handler.data.keys
  else do
    let id ← handler.getVariableByIndices indexGroup indexOffset
    return (handler.objects id).value.take plcDatatype

/-- The value is written to the variable that the request has found. -/
def writeFound (found : Result Nat) (value : Bytes) (handler : AdvancedHandler) : Result Unit × AdvancedHandler :=
  match found with
  | .error e => (.error e, handler)
  | .ok id => (.ok (), handler.setValue id value)

/-- `handle_write` -/
def handleWrite (indexGroup indexOffset : UInt32) (value : Bytes) (handler : AdvancedHandler) :
    Result Unit × AdvancedHandler :=
  if indexGroup = ADSIGRP_SYM_RELEASEHND then (.ok (), handler)
  else if indexGroup = ADSIGRP_SYM_VALBYHND then
    handler.writeFound (handler.getVariableByHandle indexOffset.toNat) value
  else handler.writeFound (handler.getVariableByIndices indexGroup indexOffset) value

/-- The loop over the items of a sum write; a variable that is missing stops it. -/
def storeItems : List (SumRequest × Bytes) → AdvancedHandler → Result Unit × AdvancedHandler
  | [], handler => (.ok (), handler)
  | (request, value) :: items, handler =>
    match handler.writeFound (handler.getVariableByIndices request.iGroup request.iOffset) value with
    | (.error e, handler) => (.error e, handler)
    | (.ok _, handler) => storeItems items handler

/-- The branch `ADSIGRP_SUMUP_WRITE`. -/
def sumupWrite (numRequests : Nat) (writeData : Bytes) (handler : AdvancedHandler) :
    Result Bytes × AdvancedHandler :=
  if writeData.length < numRequests * 12 then (.error .structError, handler)
  else
    match storeItems (received numRequests writeData) handler with
    | (.error e, handler) => (.error e, handler)
    | (.ok _, handler) => (.ok (List.replicate (numRequests * 4) 0), handler)

/-- The branch `ADSIGRP_SUMUP_READ`; the requested sizes play no part. -/
def sumupRead (numRequests : Nat) (writeData : Bytes) (handler : AdvancedHandler) : Result Bytes :=
  if writeData.length < numRequests * 12 then .error .structError
  else do
    let values ← concatM (fun (request : SumRequest) => do
      let id ← handler.getVariableByIndices request.iGroup request.iOffset
      return (handler.objects id).value) ((List.range numRequests).map (receivedRequest writeData))
    return List.replicate (numRequests * 4) 0 ++ values

/-- The variable with the name in a request. -/
def getVariableNamed (writeData : Bytes) (handler : AdvancedHandler) : Result Nat :=
  match Text.Utf8.decode writeData with
  | none => .error .unicodeDecodeError
  | some varName => handler.getVariableByName (String.ofList varName)

/-- `handle_read_write` -/
def handleReadWrite (indexGroup : UInt32) (indexOffset readLength : Nat) (writeData : Bytes)
    (handler : AdvancedHandler) : Result Bytes × AdvancedHandler :=
  if indexGroup = ADSIGRP_SYM_HNDBYNAME then
    (do
      let id ← handler.getVariableNamed writeData
      packNumbers [(4, (handler.objects id).handle)], handler)
  else if indexGroup = ADSIGRP_SYM_INFOBYNAMEEX then
    (do
      let id ← handler.getVariableNamed writeData
      (handler.objects id).getPackedInfo, handler)
  else if indexGroup = ADSIGRP_SUMUP_WRITE then handler.sumupWrite indexOffset writeData
  else if indexGroup = ADSIGRP_SUMUP_READ then (handler.sumupRead indexOffset writeData, handler)
  else
    match handler.getVariableByIndices indexGroup (.ofNat indexOffset) with
    | .error e => (.error e, handler)
    | .ok id => (.ok ((handler.objects id).value.take readLength), handler.setValue id writeData)

/-! ## Requests of one group -/

section Groups
variable (handler : AdvancedHandler) (indexOffset readLength : Nat) (writeData : Bytes)

theorem handleReadWrite_hndByName :
    handler.handleReadWrite ADSIGRP_SYM_HNDBYNAME indexOffset readLength writeData =
      (do
        let id ← handler.getVariableNamed writeData
        packNumbers [(4, (handler.objects id).handle)], handler) := rfl

theorem handleReadWrite_infoByNameEx :
    handler.handleReadWrite ADSIGRP_SYM_INFOBYNAMEEX indexOffset readLength writeData =
      (do
        let id ← handler.getVariableNamed writeData
        (handler.objects id).getPackedInfo, handler) := rfl

theorem handleReadWrite_sumupWrite :
    handler.handleReadWrite ADSIGRP_SUMUP_WRITE indexOffset readLength writeData =
      handler.sumupWrite indexOffset writeData := rfl

theorem handleReadWrite_sumupRead :
    handler.handleReadWrite ADSIGRP_SUMUP_READ indexOffset readLength writeData =
      (handler.sumupRead indexOffset writeData, handler) := rfl

theorem handleWrite_valByHnd (handle : UInt32) (value : Bytes) :
    handler.handleWrite ADSIGRP_SYM_VALBYHND handle value =
      handler.writeFound (handler.getVariableByHandle handle.toNat) value := rfl

end Groups

end AdvancedHandler

end PyAds
