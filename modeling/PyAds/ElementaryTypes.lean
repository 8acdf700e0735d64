import PyAds.SumCommands
import PyAds.SymbolTypes

/-! The elementary types of the PLC, as symbol information describes them: by
name, type id and size. Both ways to resolve the type agree on them, up to
the sign of `SINT` and to arrays of one element. -/
namespace PyAds
open Pattern

inductive NumberType where
  | bool | sint | usint | int | uint | dint | udint | lint | ulint | real | lreal
  deriving DecidableEq, Repr

namespace NumberType

def name : NumberType → List Char
  | .bool => "BOOL".toList
  | .sint => "SINT".toList
  | .usint => "USINT".toList
  | .int => "INT".toList
  | .uint => "UINT".toList
  | .dint => "DINT".toList
  | .udint => "UDINT".toList
  | .lint => "LINT".toList
  | .ulint => "ULINT".toList
  | .real => "REAL".toList
  | .lreal => "LREAL".toList

def typeId : NumberType → Nat
  | .bool => ADST_BIT
  | .sint => ADST_INT8
  | .usint => ADST_UINT8
  | .int => ADST_INT16
  | .uint => ADST_UINT16
  | .dint => ADST_INT32
  | .udint => ADST_UINT32
  | .lint => ADST_INT64
  | .ulint => ADST_UINT64
  | .real => ADST_REAL32
  | .lreal => ADST_REAL64

/-- The class that the name stands for. -/
def ctype : NumberType → CType
  | .bool => .bool
  | .sint => .int8
  | .usint => .ubyte
  | .int => .int16
  | .uint => .uint16
  | .dint => .int32
  | .udint => .uint32
  | .lint => .int64
  | .ulint => .uint64
  | .real => .float
  | .lreal => .double

/-- The class that the type id stands for. -/
def idCtype : NumberType → CType
  | .sint => .ubyte
  | t => t.ctype

theorem sizeof_idCtype (t : NumberType) : t.idCtype.sizeof = t.ctype.sizeof := by
  cases t <;> rfl

theorem adsTypeToCtype_typeId (t : NumberType) : adsTypeToCtype t.typeId = .ok (.simple t.idCtype) := by
  cases t <;> rfl

theorem typeId_ne (t : NumberType) : t.typeId ≠ ADST_STRING ∧ t.typeId ≠ ADST_WSTRING := by
  cases t <;> decide

end NumberType

/-- Numbers, texts of `n` characters and one-dimensional arrays. -/
inductive ElementaryType where
  | number (t : NumberType)
  | string (n : Nat)
  | wstring (n : Nat)
  | array (lower upper : Nat) (t : NumberType)
  deriving DecidableEq, Repr

namespace ElementaryType

def name : ElementaryType → List Char
  | .number t => t.name
  | .string n => ['S', 'T', 'R', 'I', 'N', 'G', '('] ++ (Nat.toDigits 10 n ++ [')'])
  | .wstring n => ['W', 'S', 'T', 'R', 'I', 'N', 'G', '('] ++ (Nat.toDigits 10 n ++ [')'])
  | .array lower upper t =>
    ['A', 'R', 'R', 'A', 'Y', ' ', '['] ++ (Nat.toDigits 10 lower ++ (['.', '.'] ++ (Nat.toDigits 10 upper ++
      ([']', ' ', 'O', 'F', ' '] ++ t.name))))

def typeId : ElementaryType → Nat
  | .number t => t.typeId
  | .string _ => ADST_STRING
  | .wstring _ => ADST_WSTRING
  | .array _ _ t => t.typeId

def size : ElementaryType → Nat
  | .number t => t.ctype.sizeof
  | .string n => n + 1
  | .wstring n => 2 * (n + 1)
  | .array lower upper t => (upper + 1 - lower) * t.ctype.sizeof

/-- A text fits the buffer of a plain read, an array is not empty. -/
def WellFormed : ElementaryType → Prop
  | .number _ => True
  | .string n => n + 1 < 1024
  | .wstring n => 2 * (n + 1) < 1024
  | .array lower upper _ => lower ≤ upper

/-- An array is not empty. -/
def Ordered : ElementaryType → Prop
  | .array lower upper _ => lower ≤ upper
  | _ => True

theorem WellFormed.ordered {type : ElementaryType} (wellFormed : type.WellFormed) : type.Ordered := by
  cases type with
  | array lower upper t => exact wellFormed
  | _ => trivial

/-- The type that the name stands for. -/
def plcType : ElementaryType → PlcDataType
  | .number t => .ctypes (.simple t.ctype)
  | .string n => .ctypes (.array .char n)
  | .wstring _ => .wstring
  | .array lower upper t => .ctypes (.array (.simple t.ctype) (upper + 1 - lower))

end ElementaryType

/-- The name, the type id and the size of a symbol describe the same type. -/
structure Describes (symbol : SAdsSymbolEntry) (type : ElementaryType) : Prop where
  name : symbol.symbolType = type.name
  typeId : symbol.dataType.toNat = type.typeId
  size : symbol.size.toNat = type.size
  wellFormed : type.WellFormed

/-! ## By name -/

theorem getTypeFromStr_number (t : NumberType) :
    getTypeFromStr t.name = .ok (some (.ctypes (.simple t.ctype))) := by
  rw [getTypeFromStr, typeFromStr, typeOfName]
  cases t <;> rfl

/-- The name of an elementary type stands for its type. -/
theorem getTypeFromStr_name (type : ElementaryType) (nonempty : type.Ordered) (bound : type.size < 2 ^ 32) :
    getTypeFromStr type.name = .ok (some type.plcType) := by
  cases type with
  | number t => exact getTypeFromStr_number t
  | wstring n => exact typeOfName_wide rfl
  | string n =>
    have unnamed : OrderedDict.lookup (ElementaryType.string n).name plcConstants = none := by
      simp [OrderedDict.lookup, plcConstants, ElementaryType.name]
    have scalar : getTypeFromStr ['S', 'T', 'R', 'I', 'N', 'G'] = .ok (some (.ctypes .char)) :=
      typeOfName_constant (by decide) rfl
    have line : '\n' ∉ ['S', 'T', 'R', 'I', 'N', 'G'] := by decide
    have matched : regexList (ElementaryType.string n).name = some (['S', 'T', 'R', 'I', 'N', 'G'], Nat.toDigits 10 n) :=
      regexList_brackets n line
    have list : getTypeFromStr (ElementaryType.string n).name = (PlcDataType.times (.ctypes .char) n).map some :=
      typeOfName_list (by simp [ElementaryType.name]) unnamed rfl rfl matched (groupInt_toDigits n (.inl rfl)) scalar
    simp only [ElementaryType.size] at bound
    rw [list, times_of_small (by omega) (by simp only [CDataType.sizeof]; omega)]
    rfl
  | array lower upper t =>
    have unnamed : OrderedDict.lookup (ElementaryType.array lower upper t).name plcConstants = none := by
      simp [OrderedDict.lookup, plcConstants, ElementaryType.name]
    have line : '\n' ∉ t.name := by cases t <;> decide
    have array : getTypeFromStr (ElementaryType.array lower upper t).name =
        (PlcDataType.times (.ctypes (.simple t.ctype)) (upper + 1 - lower)).map some :=
      typeOfName_array (by simp [ElementaryType.name]) unnamed (regexArray_arrayName lower upper line)
        (groupInt_toDigits upper (.inl rfl)) (groupInt_toDigits lower (.inl rfl)) (getTypeFromStr_number t)
    have ordered : lower ≤ upper := nonempty
    have count : (upper : Int) + 1 - lower = (upper + 1 - lower : Nat) := by omega
    simp only [ElementaryType.size] at bound
    have least := Nat.le_mul_of_pos_right (upper + 1 - lower) t.ctype.sizeof_pos
    rw [array, count, times_of_small (by omega) (by simp only [CDataType.sizeof]; omega)]
    rfl

/-! ## By type id -/

theorem itemKind_number {t : NumberType} (typeId : symbol.dataType.toNat = t.typeId) :
    itemKind false symbol = .ok (if symbol.size.toNat > t.idCtype.sizeof
      then .array t.idCtype (symbol.size.toNat / t.idCtype.sizeof) else .scalar t.idCtype) := by
  obtain ⟨noString, noWstring⟩ := t.typeId_ne
  simp only [itemKind, typeId, noString, noWstring, t.adsTypeToCtype_typeId, Bool.false_eq_true, ↓reduceIte]
  split <;> rfl

/-- The number between the brackets, with the word in front of them. -/
private theorem getNumOfChars_name {front : List Char} (n : Nat)
    (found : findText PLC_STRING_TYPE_NAME (upper (front ++ (Nat.toDigits 10 n ++ [')']))) =
      some (front.length - 7)) (long : 7 ≤ front.length) :
    getNumOfChars (front ++ (Nat.toDigits 10 n ++ [')'])) = n := by
  have start : front.length - 7 + PLC_STRING_TYPE_NAME.length + 1 = front.length := by
    have word : PLC_STRING_TYPE_NAME.length = 6 := rfl
    omega
  have inside : ((front ++ (Nat.toDigits 10 n ++ [')'])).take
      ((front ++ (Nat.toDigits 10 n ++ [')'])).length - 1)).drop front.length = Nat.toDigits 10 n := by
    have length : (front ++ (Nat.toDigits 10 n ++ [')'])).length - 1 = (front ++ Nat.toDigits 10 n).length := by
      simp only [List.length_append, List.length_singleton]
      omega
    rw [length, ← List.append_assoc, List.take_left, List.drop_left]
  rw [getNumOfChars, found]
  dsimp only
  rw [start, inside, parseInt_toDigits]

theorem getNumOfChars_string (n : Nat) : getNumOfChars (ElementaryType.string n).name = n :=
  getNumOfChars_name n rfl (by decide)

theorem getNumOfChars_wstring (n : Nat) : getNumOfChars (ElementaryType.wstring n).name = n :=
  getNumOfChars_name n rfl (by decide)

private theorem stringKind_text (coding : TextCoding) (chars : getNumOfChars symbol.symbolType = (n : Nat))
    (size : symbol.size.toNat = coding.unit * (n + 1)) : stringKind coding symbol = .text coding := by
  have exact_ : (symbol.size.toNat : Int) = coding.unit * ((n : Int) + 1) := by exact_mod_cast size
  rw [stringKind, chars, if_neg]
  rintro ⟨-, other⟩
  exact other exact_

/-- The branch by which an elementary type is read in a list. -/
def ElementaryType.itemKind : ElementaryType → ItemKind
  | .number t => .scalar t.idCtype
  | .string _ => .text .utf8
  | .wstring _ => .text .utf16
  | .array lower upper t => if lower = upper then .scalar t.idCtype else .array t.idCtype (upper + 1 - lower)

theorem itemKind_elementary {type : ElementaryType} (name : symbol.symbolType = type.name)
    (typeId : symbol.dataType.toNat = type.typeId) (size : symbol.size.toNat = type.size) (nonempty : type.Ordered) :
    itemKind false symbol = .ok type.itemKind := by
  cases type with
  | number t =>
    rw [itemKind_number typeId, size]
    simp only [ElementaryType.size, t.sizeof_idCtype]
    rw [if_neg (Nat.lt_irrefl _)]
    rfl
  | string n =>
    have chars : getNumOfChars symbol.symbolType = n := name ▸ getNumOfChars_string n
    have text : stringKind .utf8 symbol = .text .utf8 :=
      stringKind_text .utf8 chars (by simp only [size, ElementaryType.size, TextCoding.unit]; omega)
    simp only [PyAds.itemKind, typeId, ElementaryType.typeId, text]
    rfl
  | wstring n =>
    have chars : getNumOfChars symbol.symbolType = n := name ▸ getNumOfChars_wstring n
    have text : stringKind .utf16 symbol = .text .utf16 := stringKind_text .utf16 chars size
    simp only [PyAds.itemKind, typeId, ElementaryType.typeId, text]
    rfl
  | array lower upper t =>
    have ordered : lower ≤ upper := nonempty
    have positive := t.idCtype.sizeof_pos
    rw [itemKind_number typeId, size]
    simp only [ElementaryType.size, ← t.sizeof_idCtype, ElementaryType.itemKind]
    by_cases single : lower = upper
    · rw [if_pos single, if_neg]
      subst single
      have one : lower + 1 - lower = 1 := by omega
      rw [one, Nat.one_mul]
      exact Nat.lt_irrefl _
    · have more : 1 < upper + 1 - lower := by omega
      rw [if_neg single, if_pos, Nat.mul_div_cancel _ positive]
      exact (Nat.lt_mul_iff_one_lt_left positive).mpr more

theorem itemKind_describes (describes : Describes symbol type) : itemKind false symbol = .ok type.itemKind :=
  itemKind_elementary describes.name describes.typeId describes.size describes.wellFormed.ordered

end PyAds
