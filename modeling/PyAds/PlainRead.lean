import PyAds.Connection
import PyAds.SymbolTypes

/-! Reading one variable by its name. The request asks for as many bytes as the
data type has, or for a fixed number where the type is a string, and the
`ctypes` class converts the buffer. -/
namespace PyAds

def STRING_BUFFER : Nat := 1024

/-- A PLC that also answers reads by name, through a handle. -/
structure NamePlc extends Plc where
  adsGetHandle : String → Result UInt32
  adsSyncRead : UInt32 → Nat → Result Bytes
  adsReleaseHandle : UInt32 → Result Unit

/-- What a plain read returns; the rows of a matrix stay `ctypes` arrays. -/
inductive PlainValue where
  | value (v : PyVal)
  | rows (element : CDataType) (rows : List Bytes)

def typeIsString : PlcDataType → Bool
  | .ctypes .char => true
  | .ctypes (.array .char _) => true
  | _ => false

def typeIsWstring : PlcDataType → Bool
  | .wstring => true
  | _ => false

/-- `list(read_data)` of an array. -/
def listOfArray (element : CDataType) (n : Nat) (readData : Bytes) : PlainValue :=
  match element with
  | .simple ctype =>
    .value (.list ((List.range n).map fun i =>
      unpackValue ctype.format ((readData.drop (i * ctype.sizeof)).take ctype.sizeof)))
  | _ => .rows element ((List.range n).map fun i => (readData.drop (i * element.sizeof)).take element.sizeof)

/-- `get_value_from_ctype_data`; its loop over pairs of bytes finds what
`find_wstring_null_terminator` does. -/
def getValueFromCtypeData (readData : Bytes) (plcType : PlcDataType) : Result PlainValue :=
  if typeIsString plcType then do
    let text ← decodeUtf8 (beforeZero readData)
    return .value (.str text)
  else if typeIsWstring plcType then do
    let nullIdx ← TextCoding.utf16.nullIdx readData
    let text ← decodeUtf16 (readData.take nullIdx)
    return .value (.str text)
  else
    match plcType with
    | .ctypes (.array element n) => .ok (listOfArray element n readData)
    | .ctypes (.simple ctype) => .ok (.value (unpackValue ctype.format readData))
    | _ => .error .typeError

theorem getValueFromCtypeData_string (string : typeIsString plcType = true) (readData : Bytes) :
    getValueFromCtypeData readData plcType =
      (do let text ← decodeUtf8 (beforeZero readData); return .value (.str text)) := by
  unfold getValueFromCtypeData
  exact if_pos string

/-- The size of the buffer for a read; a function is called without its
argument. -/
def bufferSize (dataType : PlcDataType) : Result Nat :=
  if typeIsString dataType ∨ typeIsWstring dataType then .ok STRING_BUFFER
  else
    match dataType with
    | .ctypes type => .ok type.sizeof
    | _ => .error .typeError

/-- `adsSyncReadReqEx2`, with `check_length` and without `return_ctypes`. -/
def adsSyncReadReqEx2 (device : Nat → Result Bytes) (dataType : PlcDataType) : Result PlainValue := do
  let dataLength ← bufferSize dataType
  let reply ← device dataLength
  if ¬ (typeIsString dataType ∨ typeIsWstring dataType) ∧ reply.length ≠ dataLength then
    throw (.runtimeError s!"Insufficient data (expected {dataLength} bytes, {reply.length} were read).")
  getValueFromCtypeData (responseBuffer dataLength reply) dataType

theorem responseBuffer_short {data : Bytes} (short : data.length ≤ n) :
    responseBuffer n data = data ++ List.replicate (n - data.length) 0 := by
  rw [responseBuffer, List.take_append, List.take_of_length_le short, List.take_replicate]
  congr 2
  omega

theorem responseBuffer_exact {data : Bytes} (length : data.length = n) : responseBuffer n data = data := by
  rw [responseBuffer_short length.le, length, Nat.sub_self, List.replicate_zero, List.append_nil]

/-- A read of exactly the requested bytes converts them. -/
theorem adsSyncReadReqEx2_exact {dataType : PlcDataType} {data : Bytes} (size : bufferSize dataType = .ok n)
    (length : data.length = n) (read : device n = .ok (data.take n)) :
    adsSyncReadReqEx2 device dataType = getValueFromCtypeData data dataType := by
  have whole : data.take n = data := List.take_of_length_le length.le
  rw [adsSyncReadReqEx2, size]
  simp only [bind, Except.bind, read, whole, length, ne_eq, not_true_eq_false, and_false, ↓reduceIte,
    responseBuffer_exact length]

theorem listOfArray_ubyte (data : Bytes) :
    listOfArray (.simple .ubyte) data.length data = .value (.ofBytes data) := by
  have bytes : (List.range data.length).map (fun i =>
      unpackValue CType.ubyte.format ((data.drop (i * CType.ubyte.sizeof)).take CType.ubyte.sizeof)) =
      data.map fun byte => PyVal.int byte.toNat := by
    apply List.ext_getElem
    · simp
    · intro i _ inside
      rw [List.length_map] at inside
      rw [List.getElem_map, List.getElem_map, List.getElem_range]
      change unpackValue .B ((data.drop (i * 1)).take 1) = _
      rw [Nat.mul_one, List.drop_eq_getElem_cons inside, List.take_succ_cons, List.take_zero]
      simp [unpackValue, LittleEndian.toNat]
  rw [listOfArray]
  simp only [bytes]
  rfl

/-- An array of bytes is read as their list. -/
theorem adsSyncReadReqEx2_ubytes {data : Bytes} (read : device data.length = .ok data) :
    adsSyncReadReqEx2 device (.ctypes (.array (.simple .ubyte) data.length)) = .ok (.value (.ofBytes data)) := by
  have size : bufferSize (.ctypes (.array (.simple .ubyte) data.length)) = .ok data.length := by
    simp [bufferSize, typeIsString, typeIsWstring, CDataType.sizeof, CType.sizeof]
  have converted := adsSyncReadReqEx2_exact size rfl (read.trans (congrArg Except.ok List.take_length.symm))
  rw [converted, ← listOfArray_ubyte]
  rfl

/-- A read of a string converts the bytes in a larger buffer. -/
theorem adsSyncReadReqEx2_string {dataType : PlcDataType} {data : Bytes}
    (string : typeIsString dataType ∨ typeIsWstring dataType) (short : data.length ≤ STRING_BUFFER)
    (read : device STRING_BUFFER = .ok (data.take STRING_BUFFER)) :
    adsSyncReadReqEx2 device dataType =
      getValueFromCtypeData (data ++ List.replicate (STRING_BUFFER - data.length) 0) dataType := by
  have whole : data.take STRING_BUFFER = data := List.take_of_length_le short
  have size : bufferSize dataType = .ok STRING_BUFFER := by
    unfold bufferSize
    exact if_pos string
  rw [adsSyncReadReqEx2, size]
  simp only [bind, Except.bind, read, whole, string, not_true_eq_false, false_and, ↓reduceIte,
    responseBuffer_short short]

/-- `adsSyncReadByNameEx`; a missing type is called like a class once the
handle is there. -/
def adsSyncReadByNameEx (plc : NamePlc) (dataName : String) (dataType : Option PlcDataType) :
    Result PlainValue := do
  let handle ← plc.adsGetHandle dataName
  match dataType with
  | none => throw .typeError
  | some dataType =>
    let value ← adsSyncReadReqEx2 (plc.adsSyncRead handle) dataType
    plc.adsReleaseHandle handle
    return value

/-- The symbol information of one name, and the cache afterwards. -/
def symbolInfo (plc : NamePlc) (cacheSymbolInfo : Bool) (symbolInfoCache : DataSymbols) (dataName : String) :
    Result (SAdsSymbolEntry × DataSymbols) :=
  if cacheSymbolInfo then
    match symbolInfoCache.get? dataName with
    | some info => .ok (info, symbolInfoCache)
    | none => do
      let info ← plc.adsGetSymbolInfo dataName
      return (info, symbolInfoCache.set dataName info)
  else do
    let info ← plc.adsGetSymbolInfo dataName
    return (info, symbolInfoCache)

/-- `read_by_name` without a given data type: the result, and the symbol cache
afterwards. -/
def readByName (plc : NamePlc) (symbolInfoCache : DataSymbols) (dataName : String) (cacheSymbolInfo : Bool) :
    Result PlainValue × DataSymbols :=
  match symbolInfo plc cacheSymbolInfo symbolInfoCache dataName with
  | .error e => (.error e, symbolInfoCache)
  | .ok (info, symbolInfoCache) =>
    (do
      let plcDatatype ← getTypeFromStr info.symbolType
      adsSyncReadByNameEx plc dataName plcDatatype, symbolInfoCache)

end PyAds
