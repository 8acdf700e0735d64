import PyAds.Base.SlotSequence
import PyAds.Utils

/-! Structure definitions and the three walks over them: the size of a
structure, the dictionary its bytes denote, and the bytes of a dictionary.
Each walk follows the source's loops with their running offset; nothing here
assumes that the three agree. -/
namespace PyAds
open SlotSequence (concatM)

/-- The items of a definition in order. An item has a name, a type, an array
size and possibly a string length; the type of a `nested` item is itself a
definition, and a string length given there is not used. -/
inductive StructureDef where
  | nil
  | item (var : String) (plcDatatype : PlcType) (size : Nat) (strLen : Option Nat) (rest : StructureDef)
  | nested (var : String) (plcDatatype : StructureDef) (size : Nat) (rest : StructureDef)
  deriving DecidableEq, Repr

/-- The bytes of one element in `size_of_structure`. -/
def elementSize (plcDatatype : PlcType) (strLen : Option Nat) : Result Nat :=
  match plcDatatype with
  | .string => .ok (strLen.getD PLC_DEFAULT_STRING_SIZE + 1)
  | .wstring => .ok (2 * (strLen.getD PLC_DEFAULT_STRING_SIZE + 1))
  | .simple ctype => .ok ctype.sizeof
  | .unknown => .error (.runtimeError "Datatype not found")

/-- `size_of_structure` -/
def sizeOfStructure : StructureDef → Result Nat
  | .nil => .ok 0
  | .item _ plcDatatype size strLen rest => do
    let numOfBytes ← elementSize plcDatatype strLen
    let after ← sizeOfStructure rest
    return numOfBytes * size + after
  | .nested _ plcDatatype size rest => do
    let numOfBytes ← sizeOfStructure plcDatatype
    let after ← sizeOfStructure rest
    return numOfBytes * size + after

/-! ## `dict_from_bytes` -/

/-- What is passed as `byte_list`: a sequence of bytes or, when the caller
passes on the entry of a failed item, a text. -/
inductive ByteSource where
  | bytes (data : Bytes)
  | text (data : Text.Str)
  deriving DecidableEq, Repr

/-- `byte_list[start:start + count]` -/
def ByteSource.slice (source : ByteSource) (start count : Nat) : ByteSource :=
  match source with
  | .bytes data => .bytes ((data.drop start).take count)
  | .text data => .text ((data.drop start).take count)

/-- `bytearray(source)`, which refuses a text without an encoding. -/
def ByteSource.bytearray : ByteSource → Result Bytes
  | .bytes data => .ok data
  | .text _ => .error .typeError

/-- One pass of the element loop of `dict_from_bytes`: the value at the index
and the index behind it. -/
def readElement (byteList : ByteSource) (plcDatatype : PlcType) (strLen : Option Nat) (index : Nat) :
    Result (PyVal × Nat) :=
  match plcDatatype with
  | .string => do
    let strLen := strLen.getD PLC_DEFAULT_STRING_SIZE
    let a ← (byteList.slice index (strLen + 1)).bytearray
    let text ← decodeUtf8 (beforeZero a)
    return (.str text, index + (strLen + 1))
  | .wstring => do
    let strLen := strLen.getD PLC_DEFAULT_STRING_SIZE
    let nBytes := 2 * (strLen + 1)
    let a ← (byteList.slice index nBytes).bytearray
    let text ← decodeUtf16 (beforeTerminator a)
    return (.str text, index + nBytes)
  | .simple ctype => do
    let nBytes := ctype.sizeof
    let a ← (byteList.slice index nBytes).bytearray
    let value ← structUnpack ctype.format a
    return (value, index + nBytes)
  | .unknown => .error (.runtimeError "Datatype not found. Check structure definition")

/-- `for i in range(size)` with the running index. -/
def repeatRead (read : Nat → Result (PyVal × Nat)) : Nat → Nat → Result (List PyVal × Nat)
  | 0, index => .ok ([], index)
  | size + 1, index => do
    let (value, index) ← read index
    let (varArray, index) ← repeatRead read size index
    return (value :: varArray, index)

/-- A single element is not wrapped in a list. -/
def unwrapSingle (size : Nat) (varArray : List PyVal) : PyVal :=
  match size, varArray with
  | 1, [value] => value
  | _, varArray => .list varArray

/-- The item loop of `dict_from_bytes`. A nested item decodes the slice of its
own size from index 0. -/
def readFields : StructureDef → ByteSource → Nat → Entries → Result (Entries × Nat)
  | .nil, _, index, values => .ok (values, index)
  | .item var plcDatatype size strLen rest, byteList, index, values => do
    let (varArray, index) ← repeatRead (readElement byteList plcDatatype strLen) size index
    readFields rest byteList index (OrderedDict.setItem values var (unwrapSingle size varArray))
  | .nested var plcDatatype size rest, byteList, index, values => do
    let (varArray, index) ← repeatRead (fun index => do
      let nBytes ← sizeOfStructure plcDatatype
      let (inner, _) ← readFields plcDatatype (byteList.slice index nBytes) 0 []
      return (.dict inner, index + nBytes)) size index
    readFields rest byteList index (OrderedDict.setItem values var (unwrapSingle size varArray))

/-- `dict_from_bytes` -/
def dictFromBytes (byteList : ByteSource) (structureDef : StructureDef) (arraySize : Nat) :
    Result PyVal := do
  let (valuesList, _) ← repeatRead (fun index => do
    let (values, index) ← readFields structureDef byteList index []
    return (.dict values, index)) arraySize 0
  return unwrapSingle arraySize valuesList

/-! ## `bytes_from_dict` -/

/-- The bytes of one element. The padding of a STRING is computed from the
number of characters, that of a WSTRING from the encoded length; a negative
count pads nothing. -/
def writeElement (plcDatatype : PlcType) (strLen : Option Nat) (value : PyVal) : Result Bytes :=
  match plcDatatype with
  | .string =>
    match value with
    | .str text => do
      let encoded ← encodeUtf8 text
      let remainingBytes := strLen.getD PLC_DEFAULT_STRING_SIZE + 1 - text.length
      return encoded ++ List.replicate remainingBytes 0
    | _ => .error .attributeError
  | .wstring =>
    match value with
    | .str text => do
      let encoded ← encodeUtf16 text
      let remainingBytes := 2 * (strLen.getD PLC_DEFAULT_STRING_SIZE + 1) - encoded.length
      return encoded ++ List.replicate remainingBytes 0
    | _ => .error .attributeError
  | .simple ctype => structPack ctype.format value
  | .unknown => .error (.runtimeError "Datatype not found. Check structure definition")

/-- `var[i]` for an array, `var` for a single element. -/
def elementAt (size : Nat) (var : PyVal) (i : Nat) : Result PyVal :=
  if size > 1 then var.getIndex i else .ok var

/-- The values of a call are one dictionary or a list of them. -/
def writeStructures (write : PyVal → Result Bytes) : PyVal → Result Bytes
  | .list values => concatM write values
  | value => write value

/-- The item loop of `bytes_from_dict` for one dictionary. A nested item
always subscripts its value. -/
def writeFields : StructureDef → PyVal → Result Bytes
  | .nil, _ => .ok []
  | .item var plcDatatype size strLen rest, curDict => do
    let value ← curDict.getKey var
    let here ← concatM (fun i => do
      let element ← elementAt size value i
      writeElement plcDatatype strLen element) (List.range size)
    let after ← writeFields rest curDict
    return here ++ after
  | .nested var plcDatatype size rest, curDict => do
    let value ← curDict.getKey var
    let here ← concatM (fun i => do
      let element ← value.getIndex i
      writeStructures (writeFields plcDatatype) element) (List.range size)
    let after ← writeFields rest curDict
    return here ++ after

/-- `bytes_from_dict` -/
def bytesFromDict (values : PyVal) (structureDef : StructureDef) : Result Bytes :=
  writeStructures (writeFields structureDef) values

end PyAds
