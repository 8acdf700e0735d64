import PyAds.HandlerConnection

/-! The bytes that a value becomes in a request. Plain writes, control writes,
the write half of a combined request and the arguments of a method convert it
each on their own; for numbers they agree, for texts not always. -/
namespace PyAds
open Fallible

/-- The write half of `adsSyncReadWriteReqEx2`, outside the sum commands. A
string is sent from its own buffer, as many bytes as it has characters and one
more. -/
def readWriteData (writeDataType : Option PlcDataType) (value : PyVal) : Result Bytes :=
  match writeDataType with
  | none => .ok []
  | some plcDatatype =>
    if typeIsString plcDatatype then
      match value with
      | .str text => do
        let encoded ← encodeUtf8 text
        return (encoded ++ [0]).take (text.length + 1)
      | _ => .error .attributeError
    else requestData (some plcDatatype) value

/-- The data of `adsSyncWriteControlReqEx`. An array class is called with the
value as its first element, the dummy class of `PLCTYPE_WSTRING` takes none. -/
def writeControlData (plcDataType : PlcDataType) (value : PyVal) : Result Bytes :=
  if typeIsString plcDataType then
    match value with
    | .str text => do
      let encoded ← encodeUtf8 text
      return beforeZero encoded ++ [0]
    | _ => .error .attributeError
  else
    match plcDataType with
    | .ctypes (.array element n) => requestData (some (.ctypes (.array element n))) (.list [value])
    | .ctypes type => type.fromValue value
    | _ => .error .typeError

/-- `RpcObject._pack_single_argument` -/
def packSingleArgument (value : PyVal) (plcType : PlcDataType) : Result Bytes :=
  if typeIsString plcType then
    match value with
    | .str text => do
      let encoded ← encodeUtf8 text
      return encoded ++ [0]
    | _ => .error .attributeError
  else requestData (some plcType) value

/-! ## Strings -/

/-- The requests that carry a string, among them those for the handle and the
description of a symbol. -/
inductive StringPath where
  | adsSyncWriteReqEx
  | adsSyncReadWriteReqEx2
  | adsGetHandle
  | adsGetSymbolInfo
  | adsSyncWriteControlReqEx
  | packSingleArgument
  deriving DecidableEq

/-- What is sent of a text; a name is always sent as `PLCTYPE_STRING`. -/
def StringPath.payload (plcDatatype : PlcDataType) (text : Text.Str) : StringPath → Result Bytes
  | .adsSyncWriteReqEx => requestData (some plcDatatype) (.str text)
  | .adsSyncReadWriteReqEx2 => readWriteData (some plcDatatype) (.str text)
  | .adsGetHandle | .adsGetSymbolInfo => readWriteData (some (.ctypes .char)) (.str text)
  | .adsSyncWriteControlReqEx => writeControlData plcDatatype (.str text)
  | .packSingleArgument => PyAds.packSingleArgument (.str text) plcDatatype

section Strings
variable {plcDatatype : PlcDataType} {chars : List Char}

theorem requestData_text (string : typeIsString plcDatatype = true) (nulFree : '\x00' ∉ chars) :
    requestData (some plcDatatype) (.str (Text.ofChars chars)) = .ok (Text.Utf8.encode chars ++ [0]) := by
  cases plcDatatype with
  | ctypes type =>
    simp only [requestData, string, ↓reduceIte, encodeUtf8_ofChars, bind, Except.bind, beforeZero_encode nulFree]
    rfl
  | wstring => cases string
  | arrayFunction element => cases string

theorem readWriteData_text (string : typeIsString plcDatatype = true) :
    readWriteData (some plcDatatype) (.str (Text.ofChars chars)) =
      .ok ((Text.Utf8.encode chars ++ [0]).take (chars.length + 1)) := by
  simp only [readWriteData, string, ↓reduceIte, encodeUtf8_ofChars, Text.length_ofChars]
  rfl

theorem writeControlData_text (string : typeIsString plcDatatype = true) (nulFree : '\x00' ∉ chars) :
    writeControlData plcDatatype (.str (Text.ofChars chars)) = .ok (Text.Utf8.encode chars ++ [0]) := by
  simp only [writeControlData, string, ↓reduceIte, encodeUtf8_ofChars, bind, Except.bind, beforeZero_encode nulFree]
  rfl

theorem packSingleArgument_text (string : typeIsString plcDatatype = true) :
    packSingleArgument (.str (Text.ofChars chars)) plcDatatype = .ok (Text.Utf8.encode chars ++ [0]) := by
  simp only [packSingleArgument, string, ↓reduceIte, encodeUtf8_ofChars]
  rfl

/-- As many bytes as characters, and one more, are the whole of an ASCII text
and its terminator, and of no other text. -/
theorem take_encode_iff (chars : List Char) :
    (Text.Utf8.encode chars ++ [0]).take (chars.length + 1) = Text.Utf8.encode chars ++ [0] ↔
      ∀ c ∈ chars, c.toNat < 128 := by
  have least := Text.Utf8.length_le_encode chars
  rw [← Text.Utf8.length_encode_eq_iff]
  constructor
  · intro whole
    have lengths := congrArg List.length whole
    rw [List.length_take, List.length_append, List.length_singleton] at lengths
    omega
  · intro same
    apply List.take_of_length_le
    rw [List.length_append, List.length_singleton, same]

/-- All requests send a text as its bytes and a terminator exactly if it is ASCII. -/
theorem stringPayloads_iff (string : typeIsString plcDatatype = true) (nulFree : '\x00' ∉ chars) :
    (∀ path : StringPath, path.payload plcDatatype (Text.ofChars chars) = .ok (Text.Utf8.encode chars ++ [0])) ↔
      ∀ c ∈ chars, c.toNat < 128 := by
  rw [← take_encode_iff]
  constructor
  · intro every
    have combined := every .adsSyncReadWriteReqEx2
    rw [StringPath.payload, readWriteData_text string, Except.ok.injEq] at combined
    exact combined
  · intro whole path
    have combined (plcDatatype : PlcDataType) (string : typeIsString plcDatatype = true) :
        readWriteData (some plcDatatype) (.str (Text.ofChars chars)) = .ok (Text.Utf8.encode chars ++ [0]) := by
      rw [readWriteData_text string, whole]
    cases path with
    | adsSyncWriteReqEx => exact requestData_text string nulFree
    | adsSyncReadWriteReqEx2 => exact combined plcDatatype string
    | adsGetHandle => exact combined (.ctypes .char) rfl
    | adsGetSymbolInfo => exact combined (.ctypes .char) rfl
    | adsSyncWriteControlReqEx => exact writeControlData_text string nulFree
    | packSingleArgument => exact packSingleArgument_text string

theorem stringPayloads_width :
    Text.Utf8.encode ['B', 'r', 'e', 'i', 't', 'e'] = [0x42, 0x72, 0x65, 0x69, 0x74, 0x65] ∧
      ∀ path : StringPath, path.payload (.ctypes (.array .char 20)) (Text.ofChars ['B', 'r', 'e', 'i', 't', 'e']) =
        .ok (Text.Utf8.encode ['B', 'r', 'e', 'i', 't', 'e'] ++ [0]) :=
  ⟨rfl, (stringPayloads_iff rfl (by decide)).mpr (by simp)⟩

/-- The handle is asked for under a name without its last letter and without a
terminator. -/
theorem name_cut_short : ¬ ∀ path : StringPath, path.payload (.ctypes .char) (Text.ofChars ['G', 'r', 'ö', 'ß', 'e']) =
    .ok (Text.Utf8.encode ['G', 'r', 'ö', 'ß', 'e'] ++ [0]) := by
  intro every
  have asked := every .adsGetHandle
  rw [StringPath.payload, readWriteData_text rfl] at asked
  cases asked

end Strings

end PyAds
