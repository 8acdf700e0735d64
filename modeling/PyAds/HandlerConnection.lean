import PyAds.HandlerRequests

/-! A client of the advanced handler: symbol information, handles and writes. -/
namespace PyAds
open SlotSequence Fallible

/-! ## Names and symbols -/

/-- A name in a request: as many bytes as it has characters, and one more for
the terminator. -/
def requestedName (dataName : String) : Bytes :=
  (Text.Utf8.encode dataName.toList ++ [0]).take (dataName.length + 1)

/-- The characters of the bytes from 0x80 to 0x9F in windows-1252. -/
def windows1252 : List (Option Char) :=
  [some '€', none, some '‚', some 'ƒ', some '„', some '…', some '†', some '‡', some 'ˆ', some '‰', some 'Š', some '‹',
   some 'Œ', none, some 'Ž', none, none, some '‘', some '’', some '“', some '”', some '•', some '–', some '—',
   some '˜', some '™', some 'š', some '›', some 'œ', none, some 'ž', some 'Ÿ']

/-- `data.decode("windows-1252")` -/
def decodeWindows1252 (data : Bytes) : Result (List Char) :=
  data.mapM fun byte =>
    if byte.toNat < 0x80 ∨ 0xA0 ≤ byte.toNat then .ok (Char.ofNat byte.toNat)
    else
      match windows1252[byte.toNat - 0x80]? with
      | some (some c) => .ok c
      | _ => .error .unicodeDecodeError

/-- `ctypes.sizeof(SAdsSymbolEntry)` -/
def sizeofSymbolEntry : Nat := 6 * 4 + 3 * 2 + 256 * 3

/-- The fields of a symbol entry. The type name lies behind the name, and is
decoded here and not only when it is used. -/
def symbolEntryOf (readData : Bytes) : Result SAdsSymbolEntry := do
  let nameLength := fieldAt 2 24 readData
  let typeLength := fieldAt 2 26 readData
  let symbolType ← decodeWindows1252 (((readData.drop 30).drop (nameLength + 1)).take typeLength)
  return ⟨.ofNat (fieldAt 4 4 readData), .ofNat (fieldAt 4 8 readData), .ofNat (fieldAt 4 12 readData),
    .ofNat (fieldAt 4 16 readData), symbolType⟩

/-- The length of an answer is checked against the expected one. -/
def checkLength (expected bytesRead : Nat) : Result Unit :=
  if bytesRead = expected then .ok ()
  else .error (.runtimeError s!"Insufficient data (expected {expected} bytes, {bytesRead} were read).")

/-! ## Values -/

/-- The bytes of a `ctypes` instance that is made from a value. Integers wrap
around, and numbers too large for a `c_float` become infinite. -/
def CType.fromValue (ctype : CType) (value : PyVal) : Result Bytes :=
  match ctype with
  | .bool => .ok [if value.truthy then 1 else 0]
  | .float =>
    match value.asFloat? with
    | some bits => .ok (LittleEndian.ofNat 4 ((toBinary32 bits).getD (bits / 2 ^ 63 * 2 ^ 31 + 255 * 2 ^ 23)))
    | none => .error (if value.asInt?.isSome then .overflowError else .typeError)
  | .double =>
    match value.asFloat? with
    | some bits => .ok (LittleEndian.ofNat 8 bits)
    | none => .error (if value.asInt?.isSome then .overflowError else .typeError)
  | _ =>
    match value.asInt? with
    | some i => .ok (LittleEndian.ofInt ctype.sizeof i)
    | none => .error .typeError

/-- An element of an array; rows of a matrix are no lists. -/
def CDataType.fromValue : CDataType → PyVal → Result Bytes
  | .simple ctype, value => ctype.fromValue value
  | _, _ => .error .typeError

/-- The data of a write request. A string ends at its first zero byte and is
sent with a terminator, a wide string without one. -/
def requestData (plcDataType : Option PlcDataType) (value : PyVal) : Result Bytes :=
  match plcDataType with
  | some .wstring =>
    match value with
    | .str text => encodeUtf16 text
    | _ => .error .attributeError
  | some (.ctypes type) =>
    if typeIsString (.ctypes type) then
      match value with
      | .str text => do
        let encoded ← encodeUtf8 text
        return beforeZero encoded ++ [0]
      | _ => .error .attributeError
    else
      match type with
      | .array element n => do
        let elements ← value.iterate
        let data ← concatM element.fromValue (elements.take n)
        if n < elements.length then throw .indexError
        return data ++ List.replicate (n * element.sizeof - data.length) 0
      | _ => type.fromValue value
  | some (.arrayFunction _) | none => .error .typeError

/-! ## Calls -/

namespace AdvancedHandler

/-- `adsGetSymbolInfo` -/
def adsGetSymbolInfo (handler : AdvancedHandler) (dataName : String) : Result SAdsSymbolEntry := do
  let reply ← (handler.handleReadWrite ADSIGRP_SYM_INFOBYNAMEEX 0 sizeofSymbolEntry (requestedName dataName)).1
  let readData := responseBuffer sizeofSymbolEntry reply
  checkLength (fieldAt 4 0 readData) reply.length
  symbolEntryOf readData

/-- `adsGetHandle` -/
def adsGetHandle (handler : AdvancedHandler) (dataName : String) : Result UInt32 := do
  let reply ← (handler.handleReadWrite ADSIGRP_SYM_HNDBYNAME 0 4 (requestedName dataName)).1
  checkLength 4 reply.length
  return .ofNat (LittleEndian.toNat reply)

/-- `adsSyncWriteReqEx` -/
def adsSyncWriteReqEx (indexGroup indexOffset : UInt32) (value : PyVal) (plcDataType : Option PlcDataType)
    (handler : AdvancedHandler) : Result Unit × AdvancedHandler :=
  match requestData plcDataType value with
  | .error e => (.error e, handler)
  | .ok data => handler.handleWrite indexGroup indexOffset data

/-- `adsReleaseHandle` -/
def adsReleaseHandle (handle : UInt32) (handler : AdvancedHandler) : Result Unit × AdvancedHandler :=
  handler.adsSyncWriteReqEx ADSIGRP_SYM_RELEASEHND 0 (.int handle.toNat) (some (.ctypes (.simple .uint32)))

/-- The handle that is given, or asked for. -/
def handleFor (handler : AdvancedHandler) (dataName : String) : Option UInt32 → Result UInt32
  | some handle => .ok handle
  | none => handler.adsGetHandle dataName

/-- `adsSyncWriteByNameEx` -/
def adsSyncWriteByNameEx (dataName : String) (value : PyVal) (dataType : Option PlcDataType) (handle : Option UInt32)
    (handler : AdvancedHandler) : Result Unit × AdvancedHandler :=
  match handler.handleFor dataName handle with
  | .error e => (.error e, handler)
  | .ok found =>
    match handler.adsSyncWriteReqEx ADSIGRP_SYM_VALBYHND found value dataType with
    | (.error e, handler) => (.error e, handler)
    | (.ok _, handler) => if handle = none then handler.adsReleaseHandle found else (.ok (), handler)

/-- The handler as the PLC that reads ask. -/
def plc (handler : AdvancedHandler) : NamePlc where
  adsGetSymbolInfo := handler.adsGetSymbolInfo
  sumRead _ requests := (handler.handleReadWrite ADSIGRP_SUMUP_READ requests.length
    (4 * requests.length + (requests.map (·.size.toNat)).sum) (requests.flatMap (·.bytes))).1
  adsGetHandle := handler.adsGetHandle
  adsSyncRead handle length := handler.handleRead ADSIGRP_SYM_VALBYHND handle length
  adsReleaseHandle handle := (handler.adsReleaseHandle handle).1

/-- The handler as the memory that list writes change. -/
def device : SumWriteDevice AdvancedHandler := fun handler numRequests buf =>
  handler.handleReadWrite ADSIGRP_SUMUP_WRITE numRequests (numRequests * 4) buf

end AdvancedHandler

end PyAds
