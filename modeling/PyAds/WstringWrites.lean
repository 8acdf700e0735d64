import PyAds.ElementaryTypes
import PyAds.HandlerConnection

/-! Writing a WSTRING variable. The request carries the code units of the text
and no terminator, so that the device keeps whatever stood behind them; a read
looks for the first zero unit in a buffer of fixed size. -/
namespace PyAds
open Fallible

/-! ## The variable -/

/-- A WSTRING variable of a device, in a memory area that is not one of the
services for handles. -/
structure WstringVariable where
  dataName : String
  indexGroup : UInt32
  indexOffset : UInt32
  handle : UInt32
  n : Nat
  content : Bytes
  size : content.length = 2 * (n + 1)
  memory : indexGroup ≠ ADSIGRP_SYM_VALBYHND ∧ indexGroup ≠ ADSIGRP_SYM_RELEASEHND

namespace WstringVariable

/-- Writing `k` bytes replaces the first `k`. -/
def overwrite (data : Bytes) (target : WstringVariable) : Result Unit × WstringVariable :=
  if fits : data.length ≤ target.content.length then
    (.ok (), { target with
      content := data ++ target.content.drop data.length
      size := by rw [List.length_append, List.length_drop, ← target.size]; omega })
  else (.error (.adsError 1797), target)

/-- The device's answer to a write request. -/
def handleWrite (indexGroup indexOffset : UInt32) (data : Bytes) (target : WstringVariable) :
    Result Unit × WstringVariable :=
  if indexGroup = ADSIGRP_SYM_RELEASEHND then (.ok (), target)
  else if (indexGroup = ADSIGRP_SYM_VALBYHND ∧ indexOffset = target.handle) ∨
      (indexGroup = target.indexGroup ∧ indexOffset = target.indexOffset) then target.overwrite data
  else (.error (.adsError 1795), target)

def adsGetHandle (target : WstringVariable) (dataName : String) : Result UInt32 :=
  if dataName = target.dataName then .ok target.handle else .error (.adsError 1808)

/-- What the device answers to `adsGetSymbolInfo`. -/
def symbolEntry (target : WstringVariable) : SAdsSymbolEntry :=
  ⟨target.indexGroup, target.indexOffset, .ofNat (2 * (target.n + 1)), .ofNat ADST_WSTRING,
    (ElementaryType.wstring target.n).name⟩

/-- The device as the PLC that reads ask. -/
def plc (target : WstringVariable) : NamePlc where
  adsGetSymbolInfo dataName := if dataName = target.dataName then .ok target.symbolEntry else .error (.adsError 1808)
  sumRead _ _ := .error (.adsError 1793)
  adsGetHandle := target.adsGetHandle
  adsSyncRead handle length :=
    if handle = target.handle then .ok (target.content.take length) else .error (.adsError 1809)
  adsReleaseHandle _ := .ok ()

/-! ## Calls -/

/-- `adsSyncWriteReqEx` -/
def adsSyncWriteReqEx (indexGroup indexOffset : UInt32) (value : PyVal) (plcDataType : Option PlcDataType)
    (target : WstringVariable) : Result Unit × WstringVariable :=
  match requestData plcDataType value with
  | .error e => (.error e, target)
  | .ok data => target.handleWrite indexGroup indexOffset data

/-- `adsSyncWriteByNameEx` -/
def adsSyncWriteByNameEx (dataName : String) (value : PyVal) (dataType : Option PlcDataType) (handle : Option UInt32)
    (target : WstringVariable) : Result Unit × WstringVariable :=
  match handle.elim (target.adsGetHandle dataName) .ok with
  | .error e => (.error e, target)
  | .ok found =>
    match target.adsSyncWriteReqEx ADSIGRP_SYM_VALBYHND found value dataType with
    | (.error e, target) => (.error e, target)
    | (.ok _, target) =>
      if handle = none then
        target.adsSyncWriteReqEx ADSIGRP_SYM_RELEASEHND 0 (.int found.toNat) (some (.ctypes (.simple .uint32)))
      else (.ok (), target)

/-- The data type that is given, or asked for. -/
def datatypeFor (target : WstringVariable) (dataName : String) : Option PlcDataType → Result (Option PlcDataType)
  | some plcDatatype => .ok (some plcDatatype)
  | none => do
    let info ← target.plc.adsGetSymbolInfo dataName
    getTypeFromStr info.symbolType

/-- `write_by_name` -/
def writeByName (dataName : String) (value : PyVal) (plcDatatype : Option PlcDataType) (handle : Option UInt32)
    (target : WstringVariable) : Result Unit × WstringVariable :=
  match target.datatypeFor dataName plcDatatype with
  | .error e => (.error e, target)
  | .ok dataType => target.adsSyncWriteByNameEx dataName value dataType handle

/-- `AdsSymbol.write` of a new value, by a symbol that has looked itself up. -/
def symbolWrite (value : PyVal) (target : WstringVariable) : Result Unit × WstringVariable :=
  let info := target.symbolEntry
  match getTypeFromStr info.symbolType with
  | .error e => (.error e, target)
  | .ok plcType => target.adsSyncWriteReqEx info.iGroup info.iOffs value plcType

/-- `read_by_name` -/
def readByName (target : WstringVariable) (dataName : String) (plcDatatype : Option PlcDataType) :
    Result PlainValue := do
  let dataType ← target.datatypeFor dataName plcDatatype
  adsSyncReadByNameEx target.plc dataName dataType

end WstringVariable

/-- The calls that write the variable: by its name, with or without its data
type and its handle, by its address, and through a symbol. -/
inductive WstringWrite where
  | writeByName (typed : Bool) (withHandle : Bool)
  | write
  | symbol

/-- The call on a variable. -/
def WstringWrite.perform (value : PyVal) (target : WstringVariable) : WstringWrite → Result Unit × WstringVariable
  | .writeByName typed withHandle =>
    target.writeByName target.dataName value (if typed then some .wstring else none)
      (if withHandle then some target.handle else none)
  | .write => target.adsSyncWriteReqEx target.indexGroup target.indexOffset value (some .wstring)
  | .symbol => target.symbolWrite value

/-! ## What a read finds -/

/-- The units of a text, as far as they fit into half as many places. -/
theorem take_flatMap_unitBytes (seq : List Nat) (count : Nat) :
    (seq.flatMap Text.Utf16.unitBytes).take (2 * count) = (seq.take count).flatMap Text.Utf16.unitBytes := by
  induction seq generalizing count with
  | nil => simp
  | cons unit seq ih =>
    cases count with
    | zero => rfl
    | succ count =>
      rw [List.flatMap_cons, List.take_succ_cons, List.flatMap_cons, ← ih, Nat.mul_succ]
      rfl

/-- Of a buffer that begins with a text, exactly the text is taken if the unit
behind it is zero. -/
theorem getValueFromCtypeData_text_iff (nulFree : '\x00' ∉ chars) (low high : UInt8) (rest : Bytes) :
    getValueFromCtypeData (Text.Utf16.encode chars ++ low :: high :: rest) .wstring =
      .ok (.value (.str (Text.ofChars chars))) ↔ low = 0 ∧ high = 0 := by
  have found := find_unitBytes (Text.Utf16.bounded_units chars) (zero_not_mem_units nulFree) (low :: high :: rest)
  rw [← Text.Utf16.encode, ← Text.Utf16.length_encode] at found
  have read : getValueFromCtypeData (Text.Utf16.encode chars ++ low :: high :: rest) .wstring = (do
      let nullIdx ← TextCoding.utf16.nullIdx (Text.Utf16.encode chars ++ low :: high :: rest)
      let text ← decodeUtf16 ((Text.Utf16.encode chars ++ low :: high :: rest).take nullIdx)
      return .value (.str text)) := rfl
  rw [read, TextCoding.nullIdx, found]
  by_cases zero : low = 0 ∧ high = 0
  · simp [findWstringNullTerminator, zero, bind, Except.bind, pure, Except.pure]
  · refine iff_of_false ?_ zero
    rw [findWstringNullTerminator, if_neg zero]
    intro same
    cases behind : findWstringNullTerminator rest with
    | none =>
      rw [behind] at same
      cases same
    | some index =>
      rw [behind] at same
      obtain ⟨nullIdx, position, same⟩ := bind_eq_ok.mp same
      cases position
      obtain ⟨text, decoded, last⟩ := bind_eq_ok.mp same
      cases last
      obtain ⟨others, equal, bytes⟩ := decodeUtf16_eq_ok_iff.mp decoded
      rw [← Text.ofChars_injective equal] at bytes
      have lengths := congrArg List.length bytes
      simp only [List.length_take, List.length_append, List.length_cons] at lengths
      omega

/-- A buffer filled by the units of a text has no terminator. -/
theorem getValueFromCtypeData_filled (nulFree : '\x00' ∉ chars) (count : Nat) :
    getValueFromCtypeData ((Text.Utf16.encode chars).take (2 * count)) .wstring =
      .error (.valueError "No null-terminator found in buffer") := by
  have bounded : ∀ unit ∈ (chars.flatMap Text.Utf16.units).take count, unit < 65536 :=
    fun unit member => Text.Utf16.bounded_units chars unit (List.mem_of_mem_take member)
  have nonzero : 0 ∉ (chars.flatMap Text.Utf16.units).take count :=
    fun member => zero_not_mem_units nulFree (List.mem_of_mem_take member)
  have found := find_unitBytes bounded nonzero []
  rw [List.append_nil, ← take_flatMap_unitBytes, ← Text.Utf16.encode] at found
  have read : getValueFromCtypeData ((Text.Utf16.encode chars).take (2 * count)) .wstring = (do
      let nullIdx ← TextCoding.utf16.nullIdx ((Text.Utf16.encode chars).take (2 * count))
      let text ← decodeUtf16 (((Text.Utf16.encode chars).take (2 * count)).take nullIdx)
      return .value (.str text)) := rfl
  rw [read, TextCoding.nullIdx, found]
  rfl

/-- What a read in a buffer of fixed size makes of a text with other bytes
behind it: the text, if a terminator follows it there. -/
theorem adsSyncReadReqEx2_text_iff (nulFree : '\x00' ∉ chars) (low high : UInt8) (rest : Bytes)
    (read : device STRING_BUFFER = .ok ((Text.Utf16.encode chars ++ low :: high :: rest).take STRING_BUFFER)) :
    adsSyncReadReqEx2 device .wstring = .ok (.value (.str (Text.ofChars chars))) ↔
      (Text.Utf16.encode chars).length + 2 ≤ STRING_BUFFER ∧ low = 0 ∧ high = 0 := by
  have converted : adsSyncReadReqEx2 device .wstring = getValueFromCtypeData (responseBuffer STRING_BUFFER
      ((Text.Utf16.encode chars ++ low :: high :: rest).take STRING_BUFFER)) .wstring := by
    have size : bufferSize .wstring = .ok STRING_BUFFER := rfl
    simp only [adsSyncReadReqEx2, size, bind, Except.bind, read]
    rfl
  rw [converted, responseBuffer]
  by_cases room : (Text.Utf16.encode chars).length + 2 ≤ STRING_BUFFER
  · obtain ⟨left, size⟩ := Nat.exists_eq_add_of_le room
    have buffer : (((Text.Utf16.encode chars ++ low :: high :: rest).take STRING_BUFFER) ++
        List.replicate STRING_BUFFER 0).take STRING_BUFFER =
          Text.Utf16.encode chars ++ low :: high :: (rest.take left ++ List.replicate STRING_BUFFER 0).take left := by
      have places : STRING_BUFFER = (Text.Utf16.encode chars).length + (left + 1 + 1) := by omega
      generalize List.replicate STRING_BUFFER 0 = zeros
      rw [places, List.take_length_add_append, List.take_succ_cons, List.take_succ_cons, List.append_assoc,
        List.take_length_add_append, List.cons_append, List.cons_append, List.take_succ_cons, List.take_succ_cons]
    rw [buffer, getValueFromCtypeData_text_iff nulFree, and_iff_right room]
  · refine iff_of_false ?_ fun both => room both.1
    have buffer : (((Text.Utf16.encode chars ++ low :: high :: rest).take STRING_BUFFER) ++
        List.replicate STRING_BUFFER 0).take STRING_BUFFER = (Text.Utf16.encode chars).take (2 * 512) := by
      have even := Text.Utf16.length_encode chars
      have value : STRING_BUFFER = 2 * 512 := rfl
      have filled : 2 * 512 ≤ (Text.Utf16.encode chars).length := by omega
      have cut : (Text.Utf16.encode chars ++ low :: high :: rest).take (2 * 512) =
          (Text.Utf16.encode chars).take (2 * 512) := List.take_append_of_le_length filled
      have length : ((Text.Utf16.encode chars).take (2 * 512)).length = 2 * 512 := by
        rw [List.length_take]
        omega
      rw [value, cut, List.take_append_of_le_length length.ge, List.take_take, Nat.min_self]
    rw [buffer, getValueFromCtypeData_filled nulFree]
    intro decoded
    cases decoded

/-! ## Writing and reading back -/

namespace WstringVariable

theorem getTypeFromStr_wstring (n : Nat) : getTypeFromStr (ElementaryType.wstring n).name = .ok (some .wstring) :=
  typeOfName_wide rfl

theorem datatypeFor_wstring (target : WstringVariable) (typed : Bool) :
    target.datatypeFor target.dataName (if typed then some .wstring else none) = .ok (some .wstring) := by
  cases typed with
  | true => rfl
  | false =>
    have found : target.plc.adsGetSymbolInfo target.dataName = .ok target.symbolEntry := if_pos rfl
    simp only [datatypeFor, Bool.false_eq_true, ↓reduceIte, found, bind, Except.bind]
    exact getTypeFromStr_wstring target.n

theorem adsSyncWriteReqEx_own (target : WstringVariable) (chars : List Char) :
    target.adsSyncWriteReqEx target.indexGroup target.indexOffset (.str (Text.ofChars chars)) (some .wstring) =
      target.overwrite (Text.Utf16.encode chars) := by
  have sent : requestData (some .wstring) (.str (Text.ofChars chars)) = .ok (Text.Utf16.encode chars) :=
    encodeUtf16_ofChars chars
  simp [adsSyncWriteReqEx, sent, handleWrite, target.memory.2]

theorem adsSyncWriteReqEx_handle (target : WstringVariable) (chars : List Char) :
    target.adsSyncWriteReqEx ADSIGRP_SYM_VALBYHND target.handle (.str (Text.ofChars chars)) (some .wstring) =
      target.overwrite (Text.Utf16.encode chars) := by
  have sent : requestData (some .wstring) (.str (Text.ofChars chars)) = .ok (Text.Utf16.encode chars) :=
    encodeUtf16_ofChars chars
  have other : ADSIGRP_SYM_VALBYHND ≠ ADSIGRP_SYM_RELEASEHND := by decide
  simp [adsSyncWriteReqEx, sent, handleWrite, other]

/-- However the variable is written, its first bytes are replaced by the units
of the text. -/
theorem perform_eq (target : WstringVariable) (fits : (Text.Utf16.encode chars).length ≤ target.content.length)
    (call : WstringWrite) :
    call.perform (.str (Text.ofChars chars)) target = target.overwrite (Text.Utf16.encode chars) := by
  have done : (target.overwrite (Text.Utf16.encode chars)).1 = .ok () := by rw [overwrite, dif_pos fits]
  cases call with
  | write => exact target.adsSyncWriteReqEx_own chars
  | symbol =>
    have typed : getTypeFromStr target.symbolEntry.symbolType = .ok (some .wstring) := getTypeFromStr_wstring target.n
    simp only [WstringWrite.perform, symbolWrite, typed]
    exact target.adsSyncWriteReqEx_own chars
  | writeByName typed withHandle =>
    simp only [WstringWrite.perform, writeByName, target.datatypeFor_wstring typed, adsSyncWriteByNameEx]
    have written := target.adsSyncWriteReqEx_handle chars
    cases overwritten : target.overwrite (Text.Utf16.encode chars) with
    | mk result after =>
      rw [overwritten] at written done
      cases done
      cases withHandle with
      | true => simp [written]
      | false =>
        have found : target.adsGetHandle target.dataName = .ok target.handle := if_pos rfl
        simp only [Bool.false_eq_true, ↓reduceIte, Option.elim_none, found, written]
        rfl

/-- A read by name reads the variable through its handle. -/
theorem readByName_eq (target : WstringVariable) (typed : Bool) :
    target.readByName target.dataName (if typed then some .wstring else none) =
      adsSyncReadReqEx2 (target.plc.adsSyncRead target.handle) .wstring := by
  have found : target.plc.adsGetHandle target.dataName = .ok target.handle := if_pos rfl
  rw [readByName, target.datatypeFor_wstring typed]
  simp only [bind, Except.bind, adsSyncReadByNameEx, found]
  cases adsSyncReadReqEx2 (target.plc.adsSyncRead target.handle) .wstring <;> rfl

end WstringVariable

/-- A text written to a WSTRING variable is read back by name exactly if the
unit behind it was zero before, and the text fits the buffer of a read together
with its terminator. -/
theorem wstring_readBack_iff (target : WstringVariable) (nulFree : '\x00' ∉ chars)
    (fits : (chars.flatMap Text.Utf16.units).length ≤ target.n) (call : WstringWrite) (typed : Bool) :
    (∃ later, call.perform (.str (Text.ofChars chars)) target = (.ok (), later) ∧
        later.readByName target.dataName (if typed then some .wstring else none) =
          .ok (.value (.str (Text.ofChars chars)))) ↔
      2 * (chars.flatMap Text.Utf16.units).length + 2 ≤ STRING_BUFFER ∧
        (target.content.drop (2 * (chars.flatMap Text.Utf16.units).length)).take 2 = [0, 0] := by
  have length := Text.Utf16.length_encode chars
  have room : (Text.Utf16.encode chars).length + 2 ≤ target.content.length := by
    rw [target.size]
    omega
  rw [← length, target.perform_eq (by omega) call, WstringVariable.overwrite, dif_pos (by omega)]
  simp only [Prod.mk.injEq, true_and, exists_eq_left']
  obtain ⟨low, high, rest, behind⟩ : ∃ low high rest,
      target.content.drop (Text.Utf16.encode chars).length = low :: high :: rest := by
    match found : target.content.drop (Text.Utf16.encode chars).length with
    | low :: high :: rest => exact ⟨low, high, rest, rfl⟩
    | [] | [_] =>
      have short := congrArg List.length found
      simp only [List.length_drop, List.length_cons, List.length_nil] at short
      omega
  have read (later : WstringVariable) (content : later.content = Text.Utf16.encode chars ++ low :: high :: rest) :
      later.readByName later.dataName (if typed then some .wstring else none) =
          .ok (.value (.str (Text.ofChars chars))) ↔
        (Text.Utf16.encode chars).length + 2 ≤ STRING_BUFFER ∧ low = 0 ∧ high = 0 := by
    rw [later.readByName_eq]
    apply adsSyncReadReqEx2_text_iff nulFree low high rest
    rw [← content]
    exact if_pos rfl
  simp only [behind]
  rw [read _ rfl]
  simp

/-- A WSTRING(3) variable with some content. -/
def captionText (content : Bytes) (size : content.length = 2 * (3 + 1)) : WstringVariable :=
  ⟨"MAIN.caption", 0x4040, 16, 7, 3, content, size, by decide⟩

theorem caption_readBack :
    ∃ later, WstringWrite.perform (.str (Text.ofChars ['o', 'k']))
        (captionText [65, 0, 66, 0, 0, 0, 67, 0] rfl) (.writeByName false false) = (.ok (), later) ∧
      later.readByName "MAIN.caption" none = .ok (.value (.str (Text.ofChars ['o', 'k']))) :=
  (wstring_readBack_iff (captionText [65, 0, 66, 0, 0, 0, 67, 0] rfl) (by decide) (by decide) (.writeByName false false)
    false).mpr ⟨by decide, rfl⟩

/-- Behind a shorter text the rest of the old one is still read. -/
theorem shorter_wstring_keeps_rest :
    ((WstringWrite.perform (.str (Text.ofChars ['o', 'k'])) (captionText [65, 0, 66, 0, 67, 0, 0, 0] rfl) .write).2.readByName
        "MAIN.caption" (some .wstring)) ≠ .ok (.value (.str (Text.ofChars ['o', 'k']))) := by
  intro same
  cases same

end PyAds
