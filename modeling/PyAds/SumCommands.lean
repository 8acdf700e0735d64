import PyAds.Base.Buffer
import PyAds.Base.SlotSequence
import PyAds.ErrorCodes
import PyAds.Utils

/-! The sum commands: many variables in one request. The response of a sum
read is a status word for each item followed by the data of all items; the
buffer of a sum write is a header for each item followed by the data of all
items. Both walk over the items with one running offset. -/
namespace PyAds
open Buffer (assignSlice overwrite)
open SlotSequence (concatM)

/-- The fields of `SAdsSymbolEntry` that reading and writing use; the type
name is already decoded. -/
structure SAdsSymbolEntry where
  iGroup : UInt32
  iOffs : UInt32
  size : UInt32
  dataType : UInt32
  symbolType : List Char
  deriving DecidableEq, Repr

abbrev DataSymbols := OrderedDict String SAdsSymbolEntry

/-- `data_symbols[data_name]` -/
def symbolOf (dataSymbols : DataSymbols) (dataName : String) : Result SAdsSymbolEntry :=
  match dataSymbols.get? dataName with
  | some symbol => .ok symbol
  | none => .error (.keyError dataName)

theorem symbolOf_eq_ok : symbolOf dataSymbols dataName = .ok symbol ↔ dataSymbols.get? dataName = some symbol := by
  unfold symbolOf
  cases OrderedDict.get? dataSymbols dataName <;> simp

/-! ## Texts in variables -/

inductive TextCoding where
  | utf8
  | utf16
  deriving DecidableEq, Repr

namespace TextCoding

/-- The bytes of one code unit, by which a slice counts a character. -/
def unit : TextCoding → Nat
  | .utf8 => 1
  | .utf16 => 2

def encode : TextCoding → Text.Str → Result Bytes
  | .utf8 => encodeUtf8
  | .utf16 => encodeUtf16

def decode : TextCoding → Bytes → Result Text.Str
  | .utf8 => decodeUtf8
  | .utf16 => decodeUtf16

/-- Where the terminator of a text is. -/
def nullIdx : TextCoding → Bytes → Result Nat
  | .utf8, data =>
    match data.findIdx? (· == 0) with
    | some index => .ok index
    | none => .error (.valueError "0 is not in list")
  | .utf16, data =>
    match findWstringNullTerminator data with
    | some index => .ok index
    | none => .error (.valueError "No null-terminator found in buffer")

end TextCoding

/-! ## The branches -/

/-- How the data of an item is read and written. -/
inductive ItemKind where
  | structured
  | texts (coding : TextCoding) (elementSize : Int)
  | text (coding : TextCoding)
  | array (ctype : CType) (count : Nat)
  | scalar (ctype : CType)
  deriving DecidableEq, Repr

/-- A string item is an array unless its size is that of one element. The
quotient `size / element_size` is 1 only for equal numbers. -/
def stringKind (coding : TextCoding) (symbol : SAdsSymbolEntry) : ItemKind :=
  let numStringChars := getNumOfChars symbol.symbolType
  let elementSize := coding.unit * (numStringChars + 1)
  if numStringChars ≠ -1 ∧ (symbol.size.toNat : Int) ≠ elementSize then .texts coding elementSize
  else .text coding

/-- The branch of an item, by the same tests for reading and writing. -/
def itemKind (structured : Bool) (symbol : SAdsSymbolEntry) : Result ItemKind :=
  if structured then .ok .structured
  else if symbol.dataType.toNat = ADST_STRING then .ok (stringKind .utf8 symbol)
  else if symbol.dataType.toNat = ADST_WSTRING then .ok (stringKind .utf16 symbol)
  else
    match adsTypeToCtype symbol.dataType.toNat with
    | .error e => .error e
    | .ok (.simple ctype) =>
      if symbol.size.toNat > ctype.sizeof then .ok (.array ctype (symbol.size.toNat / ctype.sizeof))
      else .ok (.scalar ctype)
    | .ok _ => .error .typeError

theorem stringKind_cases (coding : TextCoding) (symbol : SAdsSymbolEntry) :
    (∃ elementSize, stringKind coding symbol = .texts coding elementSize) ∨
      stringKind coding symbol = .text coding := by
  simp only [stringKind]
  split
  · exact Or.inl ⟨_, rfl⟩
  · exact Or.inr rfl

/-- An item read as an array of numbers is larger than one number. -/
theorem itemKind_array (kind : itemKind structured symbol = .ok (.array ctype count)) :
    count = symbol.size.toNat / ctype.sizeof ∧ ctype.sizeof < symbol.size.toNat := by
  unfold itemKind at kind
  split at kind
  · cases kind
  split at kind
  · rcases stringKind_cases .utf8 symbol with ⟨_, same⟩ | same <;> cases (congrArg _ same).symm.trans kind
  split at kind
  · rcases stringKind_cases .utf16 symbol with ⟨_, same⟩ | same <;> cases (congrArg _ same).symm.trans kind
  split at kind
  · cases kind
  · split at kind <;> cases kind
    exact ⟨rfl, by assumption⟩
  · cases kind

/-! ## Sum read -/

/-- The reply of the device in the zeroed buffer of the expected size. -/
def responseBuffer (responseSize : Nat) (reply : Bytes) : Bytes :=
  (reply ++ List.replicate responseSize 0).take responseSize

/-- `struct.unpack_from("<I", data, offset)[0]` -/
def unpackUInt32 (data : Bytes) (offset : Nat) : Result Nat :=
  if offset + 4 ≤ data.length then .ok (LittleEndian.toNat ((data.drop offset).take 4))
  else .error .structError

/-- The text from `start` to its terminator, which must come before `stop`. -/
def readText (coding : TextCoding) (sumResponse : Bytes) (start stop : Nat) : Result PyVal := do
  let nullIdx ← coding.nullIdx ((sumResponse.take stop).drop start)
  let text ← coding.decode ((sumResponse.drop start).take nullIdx)
  return .str text

/-- The value of an item whose status is zero. -/
def readItem (structured : Bool) (symbol : SAdsSymbolEntry) (sumResponse : Bytes) (offset : Nat) :
    Result PyVal := do
  let size := symbol.size.toNat
  match ← itemKind structured symbol with
  | .structured => return .ofBytes ((sumResponse.drop offset).take size)
  | .texts coding elementSize =>
    let value ← (List.range (Int.tdiv size elementSize).toNat).mapM fun (j : Nat) =>
      readText coding sumResponse (offset + elementSize * j).toNat (offset + size)
    return .list value
  | .text coding => readText coding sumResponse offset (offset + size)
  | .array ctype count =>
    if offset + count * ctype.sizeof ≤ sumResponse.length then
      let value ← (List.range count).mapM fun i =>
        structUnpackFrom ctype.format sumResponse (offset + i * ctype.sizeof)
      return .list value
    else throw .structError
  | .scalar ctype => structUnpackFrom ctype.format sumResponse offset

/-- One pass of the loop over the items: the entry of item `i`, whose data is
at `offset`. -/
def sumReadEntry (structuredDataNames : List String) (dataName : String) (symbol : SAdsSymbolEntry)
    (sumResponse : Bytes) (i offset : Nat) : Result PyVal := do
  let error ← unpackUInt32 sumResponse (i * 4)
  if error ≠ 0 then errorText error
  else readItem (dataName ∈ structuredDataNames) symbol sumResponse offset

/-- The loop over the items. -/
def sumReadLoop (structuredDataNames : List String) (sumResponse : Bytes) :
    List (String × SAdsSymbolEntry) → Nat → Nat → OrderedDict String PyVal →
    Result (OrderedDict String PyVal)
  | [], _, _, result => .ok result
  | (dataName, symbol) :: items, i, offset, result => do
    let value ← sumReadEntry structuredDataNames dataName symbol sumResponse i offset
    sumReadLoop structuredDataNames sumResponse items (i + 1) (offset + symbol.size.toNat)
      (result.set dataName value)

/-- One request of a sum read. -/
structure SumRequest where
  iGroup : UInt32
  iOffset : UInt32
  size : UInt32
  deriving DecidableEq, Repr

def SAdsSymbolEntry.request (symbol : SAdsSymbolEntry) : SumRequest :=
  ⟨symbol.iGroup, symbol.iOffs, symbol.size⟩

/-- `adsSumReadBytes`; the device answers a list of requests or fails as a
whole. -/
def adsSumReadBytes (device : List SumRequest → Result Bytes) (requests : List SumRequest) :
    Result Bytes := do
  let reply ← device requests
  return responseBuffer (4 * requests.length + (requests.map (·.size.toNat)).sum) reply

/-- `adsSumRead` -/
def adsSumRead (device : List SumRequest → Result Bytes) (dataNames : List String)
    (dataSymbols : DataSymbols) (structuredDataNames : List String) :
    Result (OrderedDict String PyVal) := do
  let result := OrderedDict.fromKeys dataNames PyVal.none
  let symbols ← dataNames.mapM (symbolOf dataSymbols)
  let sumResponse ← adsSumReadBytes device (symbols.map (·.request))
  sumReadLoop structuredDataNames sumResponse (dataNames.zip symbols) 0 (4 * dataNames.length) result

/-! ## Sum write -/

/-- `struct.pack_into` of as many values as the format has characters. -/
def packInto (fmt : StructFormat) (count : Nat) (buf : Bytes) (offset : Nat) (values : List PyVal) :
    Result Bytes :=
  if values.length ≠ count ∨ buf.length < offset + count * fmt.size then .error .structError
  else do
    let packed ← concatM (structPack fmt) values
    return overwrite buf offset packed

/-- What a slice of a `bytearray` can be assigned from. -/
def assignable : PyVal → Result Bytes
  | .list items => items.mapM PyVal.asByte
  | .dict [] => .ok []
  | _ => .error .typeError

/-- `buf[start:start + unit * len(value)] = value.encode(..)` -/
def writeText (coding : TextCoding) (buf : Bytes) (start : Int) (value : PyVal) : Result Bytes :=
  match value with
  | .str text => do
    let encoded ← coding.encode text
    return assignSlice buf start (start + coding.unit * text.length) encoded
  | _ => .error .attributeError

/-- The elements of a string array, from element `i` on. -/
def writeTexts (coding : TextCoding) (elementSize : Int) (offset : Nat) :
    List PyVal → Nat → Bytes → Result Bytes
  | [], _, buf => .ok buf
  | element :: elements, i, buf => do
    let buf ← writeText coding buf (offset + elementSize * i) element
    writeTexts coding elementSize offset elements (i + 1) buf

/-- Writes the value of one item at `offset`. -/
def writeItem (structured : Bool) (symbol : SAdsSymbolEntry) (buf : Bytes) (offset : Nat) (value : PyVal) :
    Result Bytes := do
  match ← itemKind structured symbol with
  | .structured =>
    let bytes ← assignable value
    return assignSlice buf offset (offset + symbol.size.toNat) bytes
  | .texts coding elementSize =>
    let elements ← value.iterate
    writeTexts coding elementSize offset elements 0 buf
  | .text coding => writeText coding buf offset value
  | .array ctype count =>
    let elements ← value.iterate
    packInto ctype.format count buf offset elements
  | .scalar ctype => packInto ctype.format 1 buf offset [value]

/-- The header of an item: index group, index offset and size. -/
def writeHeader (symbol : SAdsSymbolEntry) (buf : Bytes) (offset : Nat) : Result Bytes := do
  let buf ← packInto .I 1 buf offset [.int symbol.iGroup.toNat]
  let buf ← packInto .I 1 buf (offset + 4) [.int symbol.iOffs.toNat]
  packInto .I 1 buf (offset + 8) [.int symbol.size.toNat]

/-- The loop over the headers. -/
def writeHeaders : List SAdsSymbolEntry → Nat → Bytes → Result Bytes
  | [], _, buf => .ok buf
  | symbol :: symbols, offset, buf => do
    let buf ← writeHeader symbol buf offset
    writeHeaders symbols (offset + 12) buf

/-- An item of a sum write: name, symbol and value. -/
abbrev WriteItem := String × SAdsSymbolEntry × PyVal

/-- The loop over the values. -/
def writeItems (structuredDataNames : List String) : List WriteItem → Nat → Bytes → Result Bytes
  | [], _, buf => .ok buf
  | (dataName, symbol, value) :: items, offset, buf => do
    let buf ← writeItem (dataName ∈ structuredDataNames) symbol buf offset value
    writeItems structuredDataNames items (offset + symbol.size.toNat) buf

/-- The buffer that a sum write transmits. -/
def sumWriteBuffer (structuredDataNames : List String) (items : List WriteItem) : Result Bytes := do
  let totalRequestSize := 12 * items.length + (items.map (·.2.1.size.toNat)).sum
  let buf ← writeHeaders (items.map (·.2.1)) 0 (List.replicate totalRequestSize 0)
  writeItems structuredDataNames items (12 * items.length) buf

/-- `adsSumWriteBytes`; the device takes the number of requests and the
buffer. -/
def adsSumWriteBytes (device : Nat → Bytes → Result Bytes) (numRequests : Nat) (buffer : Bytes) :
    Result (List PyVal) := do
  let reply ← device numRequests buffer
  let sumResponse := responseBuffer (numRequests * 4) reply
  (List.range numRequests).mapM fun i => do
    let code ← unpackUInt32 sumResponse (i * 4)
    errorText code

/-- An entry of the values dictionary with its symbol. -/
def writeItemOf (dataSymbols : DataSymbols) (entry : String × PyVal) : Result WriteItem := do
  let symbol ← symbolOf dataSymbols entry.1
  return (entry.1, symbol, entry.2)

/-- `adsSumWrite` -/
def adsSumWrite (device : Nat → Bytes → Result Bytes) (dataNamesAndValues : OrderedDict String PyVal)
    (dataSymbols : DataSymbols) (structuredDataNames : List String) :
    Result (OrderedDict String PyVal) := do
  let items ← dataNamesAndValues.entries.mapM (writeItemOf dataSymbols)
  let buf ← sumWriteBuffer structuredDataNames items
  let errorDescriptions ← adsSumWriteBytes device items.length buf
  return OrderedDict.empty.setAll (dataNamesAndValues.keys.zip errorDescriptions)

end PyAds
