import PyAds.Values

/-! The data types of the PLC: the `ctypes` classes behind the `PLCTYPE_*`
names, their `struct` formats, and the numeric type ids of symbol
information. -/
namespace PyAds

/-- The simple `ctypes` classes that are keys of `DATATYPE_MAP`. -/
inductive CType where
  | bool | ubyte | int8 | int16 | uint16 | int32 | uint32 | int64 | uint64 | float | double
  deriving DecidableEq, Repr

/-- A data type a definition or a symbol can carry. `PLCTYPE_STRING` is
`c_char` and `PLCTYPE_WSTRING` a dummy class; `unknown` is any other type. -/
inductive PlcType where
  | simple (ctype : CType)
  | string
  | wstring
  | unknown
  deriving DecidableEq, Repr

/-- `ctypes.sizeof` -/
def CType.sizeof : CType → Nat
  | .bool | .ubyte | .int8 => 1
  | .int16 | .uint16 => 2
  | .int32 | .uint32 | .float => 4
  | .int64 | .uint64 | .double => 8

/-- `DATATYPE_MAP` on its keys. -/
def CType.format : CType → StructFormat
  | .bool => .bool
  | .ubyte => .B
  | .int8 => .b
  | .int16 => .h
  | .uint16 => .H
  | .int32 => .i
  | .uint32 => .I
  | .int64 => .q
  | .uint64 => .Q
  | .float => .f
  | .double => .d

@[simp] theorem CType.size_format (ctype : CType) : ctype.format.size = ctype.sizeof := by
  cases ctype <;> rfl

theorem CType.sizeof_pos (ctype : CType) : 0 < ctype.sizeof := by
  cases ctype <;> decide

def PLC_DEFAULT_STRING_SIZE : Nat := 80

/-! ## `ADST_*` -/

def ADST_INT16 : Nat := 2
def ADST_INT32 : Nat := 3
def ADST_REAL32 : Nat := 4
def ADST_REAL64 : Nat := 5
def ADST_INT8 : Nat := 16
def ADST_UINT8 : Nat := 17
def ADST_UINT16 : Nat := 18
def ADST_UINT32 : Nat := 19
def ADST_INT64 : Nat := 20
def ADST_UINT64 : Nat := 21
def ADST_STRING : Nat := 30
def ADST_WSTRING : Nat := 31
def ADST_BIT : Nat := 33

/-- `ads_type_to_ctype`. Note that `ADST_INT8` maps to `PLCTYPE_BYTE`, an
unsigned type. -/
def adsTypes : List (Nat × PlcType) :=
  [(ADST_INT8, .simple .ubyte), (ADST_UINT8, .simple .ubyte),
   (ADST_INT16, .simple .int16), (ADST_UINT16, .simple .uint16),
   (ADST_INT32, .simple .int32), (ADST_UINT32, .simple .uint32),
   (ADST_INT64, .simple .int64), (ADST_UINT64, .simple .uint64),
   (ADST_REAL32, .simple .float), (ADST_REAL64, .simple .double),
   (ADST_STRING, .string), (ADST_WSTRING, .wstring), (ADST_BIT, .simple .bool)]

/-- `ads_type_to_ctype[dataType]` -/
def adsTypeToCtype (dataType : Nat) : Result PlcType :=
  match OrderedDict.lookup dataType adsTypes with
  | some plcType => .ok plcType
  | none => .error (.codeKeyError dataType)

end PyAds
