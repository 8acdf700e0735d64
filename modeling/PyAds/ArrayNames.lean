import PyAds.TypeNames
import Mathlib.Algebra.Order.BigOperators.GroupWithZero.List

/-! The names that the PLC gives to arrays, of any depth, and the sizes of the
classes that they are mapped to. An array of texts has one byte for each of them
less than in the PLC. -/
namespace PyAds
open Fallible

/-- The simple types of the PLC, other than texts. -/
inductive ScalarName where
  | bool | byte | word | dword | sint | usint | ubyte | int | uint | dint | udint | lint | ulint | real | lreal
  | tod | date | dateAndTime | dt | time
  deriving DecidableEq, Repr

namespace ScalarName

def name : ScalarName → List Char
  | .bool => "BOOL".toList
  | .byte => "BYTE".toList
  | .word => "WORD".toList
  | .dword => "DWORD".toList
  | .sint => "SINT".toList
  | .usint => "USINT".toList
  | .ubyte => "UBYTE".toList
  | .int => "INT".toList
  | .uint => "UINT".toList
  | .dint => "DINT".toList
  | .udint => "UDINT".toList
  | .lint => "LINT".toList
  | .ulint => "ULINT".toList
  | .real => "REAL".toList
  | .lreal => "LREAL".toList
  | .tod => "TOD".toList
  | .date => "DATE".toList
  | .dateAndTime => "DATE_AND_TIME".toList
  | .dt => "DT".toList
  | .time => "TIME".toList

/-- The number of bytes in the PLC. -/
def size : ScalarName → Nat
  | .bool | .byte | .sint | .usint | .ubyte => 1
  | .word | .int | .uint => 2
  | .dword | .dint | .udint | .real | .tod | .date | .dateAndTime | .dt | .time => 4
  | .lint | .ulint | .lreal => 8

/-- The constant of the name. -/
def ctype : ScalarName → CType
  | .bool => .bool
  | .byte | .usint | .ubyte => .ubyte
  | .sint => .int8
  | .word | .uint => .uint16
  | .int => .int16
  | .dword | .udint | .date | .dateAndTime | .dt | .time => .uint32
  | .dint | .tod => .int32
  | .lint => .int64
  | .ulint => .uint64
  | .real => .float
  | .lreal => .double

theorem sizeof_ctype (t : ScalarName) : t.ctype.sizeof = t.size := by
  cases t <;> rfl

theorem lookup_name (t : ScalarName) : OrderedDict.lookup t.name plcConstants = some (.ctypes (.simple t.ctype)) := by
  cases t <;> rfl

end ScalarName

/-- Names of numbers, of texts of `n` characters, and of arrays of named types. -/
inductive TypeName where
  | scalar (t : ScalarName)
  | string (n : Nat)
  | array (lower upper : Nat) (ordered : lower ≤ upper) (element : TypeName)

namespace TypeName

def name : TypeName → List Char
  | .scalar t => t.name
  | .string n => ['S', 'T', 'R', 'I', 'N', 'G'] ++ ('(' :: (Nat.toDigits 10 n ++ [')']))
  | .array lower upper _ element => arrayName lower upper element.name

/-- The number of bytes in the PLC, where a text has a terminator. -/
def size : TypeName → Nat
  | .scalar t => t.size
  | .string n => n + 1
  | .array lower upper _ element => (upper + 1 - lower) * element.size

/-- The innermost elements are numbers. -/
def Numeric : TypeName → Prop
  | .scalar _ => True
  | .string _ => False
  | .array _ _ _ element => element.Numeric

/-- The number has no more digits than `int` converts. -/
def ShortNumber (maxStrDigits n : Nat) : Prop := maxStrDigits = 0 ∨ (Nat.toDigits 10 n).length ≤ maxStrDigits

def Short (maxStrDigits : Nat) : TypeName → Prop
  | .scalar _ => True
  | .string n => ShortNumber maxStrDigits n
  | .array lower upper _ element =>
    ShortNumber maxStrDigits lower ∧ ShortNumber maxStrDigits upper ∧ element.Short maxStrDigits

/-- A text is read as an array of characters. -/
def extents : TypeName → List Int
  | .scalar _ => []
  | .string n => [(n : Int)]
  | .array lower upper _ element => ((upper : Int) + 1 - lower) :: element.extents

def base : TypeName → CDataType
  | .scalar t => .simple t.ctype
  | .string _ => .char
  | .array _ _ _ element => element.base

theorem line_name (type : TypeName) : '\n' ∉ type.name := by
  have number (n : Nat) : '\n' ∉ Nat.toDigits 10 n := by
    intro member
    exact absurd (isDecimal_toDigits n _ member) (by decide)
  induction type with
  | scalar t => cases t <;> decide
  | string n => simp [name, number]
  | array lower upper ordered element ih => simp [name, arrayName, number, ih]

theorem groupInt_long (long : ¬ ShortNumber maxStrDigits n) :
    ∃ e, groupInt maxStrDigits (Nat.toDigits 10 n) = .error e := by
  unfold ShortNumber at long
  rw [groupInt, if_pos (by omega)]
  exact ⟨_, rfl⟩

/-- The number behind `STRING` is the length of a list of characters. -/
theorem readName_string (maxStrDigits n : Nat) :
    readName maxStrDigits (TypeName.string n).name =
      (groupInt maxStrDigits (Nat.toDigits 10 n)).map fun size => some ⟨[size], .ctypes .char⟩ := by
  have notWide : ¬ ['W', 'S', 'T', 'R', 'I', 'N', 'G'].isPrefixOf (TypeName.string n).name = true := by simp [name]
  have unnamed : OrderedDict.lookup (TypeName.string n).name plcConstants = none := by
    simp [OrderedDict.lookup, plcConstants, name]
  have noArray : regexArray (TypeName.string n).name = none := rfl
  have noMatrix : regexMatrix (TypeName.string n).name = none := rfl
  have line : '\n' ∉ ['S', 'T', 'R', 'I', 'N', 'G'] := by simp
  have matched : regexList (TypeName.string n).name = some (['S', 'T', 'R', 'I', 'N', 'G'], Nat.toDigits 10 n) :=
    regexList_brackets n line
  have char : readName maxStrDigits ['S', 'T', 'R', 'I', 'N', 'G'] = .ok (some ⟨[], .ctypes .char⟩) :=
    typeOfName_constant (by simp) rfl
  cases size : groupInt maxStrDigits (Nat.toDigits 10 n) with
  | error e =>
    rw [readName, typeOfName_attempts notWide unnamed, orTry, arrayType, noArray, orTry, matrixType, noMatrix,
      listType, matched]
    simp only [bind, Except.bind, size]
    rfl
  | ok count => exact typeOfName_list notWide unnamed noArray noMatrix matched size char

/-- The bounds of an array come before its elements, and only where these are
unmapped there are other attempts. -/
theorem exists_readName_array (maxStrDigits lower upper : Nat) (ordered : lower ≤ upper) (element : TypeName) :
    ∃ next, readName maxStrDigits (TypeName.array lower upper ordered element).name = orTry (do
      let upper ← groupInt maxStrDigits (Nat.toDigits 10 upper)
      let lower ← groupInt maxStrDigits (Nat.toDigits 10 lower)
      readName maxStrDigits element.name >>= mapped (NameReading.surround · (upper + 1 - lower))) next := by
  have notWide : ¬ ['W', 'S', 'T', 'R', 'I', 'N', 'G'].isPrefixOf
      (TypeName.array lower upper ordered element).name = true := by simp [name, arrayName]
  have unnamed : OrderedDict.lookup (TypeName.array lower upper ordered element).name plcConstants = none := by
    simp [OrderedDict.lookup, plcConstants, name, arrayName]
  have matched := regexArray_arrayName lower upper element.line_name
  rw [readName, typeOfName_attempts notWide unnamed, arrayType, name, matched]
  exact ⟨_, rfl⟩

/-- A name is read as its extents around its innermost type, unless a number in
it is too long. -/
theorem readName_name (maxStrDigits : Nat) (type : TypeName) :
    (type.Short maxStrDigits ∧ readName maxStrDigits type.name = .ok (some ⟨type.extents, .ctypes type.base⟩)) ∨
      (¬ type.Short maxStrDigits ∧ ∃ e, readName maxStrDigits type.name = .error e) := by
  induction type with
  | scalar t =>
    refine .inl ⟨trivial, typeOfName_constant ?_ t.lookup_name⟩
    cases t <;> decide
  | string n =>
    rw [readName_string]
    by_cases short : ShortNumber maxStrDigits n
    · rw [groupInt_toDigits n short]
      exact .inl ⟨short, rfl⟩
    · obtain ⟨e, raised⟩ := groupInt_long short
      rw [raised]
      exact .inr ⟨short, e, rfl⟩
  | array lower upper ordered element ih =>
    obtain ⟨next, whole⟩ := exists_readName_array maxStrDigits lower upper ordered element
    rw [whole]
    by_cases shortUpper : ShortNumber maxStrDigits upper
    · by_cases shortLower : ShortNumber maxStrDigits lower
      · rw [groupInt_toDigits upper shortUpper, groupInt_toDigits lower shortLower]
        obtain ⟨short, inner⟩ | ⟨long, e, raised⟩ := ih
        · rw [inner]
          exact .inl ⟨⟨shortLower, shortUpper, short⟩, rfl⟩
        · rw [raised]
          exact .inr ⟨fun short => long short.2.2, e, rfl⟩
      · obtain ⟨e, raised⟩ := groupInt_long shortLower
        rw [groupInt_toDigits upper shortUpper, raised]
        exact .inr ⟨fun short => shortLower short.1, e, rfl⟩
    · obtain ⟨e, raised⟩ := groupInt_long shortUpper
      rw [raised]
      exact .inr ⟨fun short => shortUpper short.2.1, e, rfl⟩

/-- The product of the extents is the size in the PLC, as long as there is no text. -/
theorem prod_extents (type : TypeName) :
    (type.Numeric ∧ type.extents.prod * type.base.sizeof = type.size ∧ ∀ extent ∈ type.extents, 1 ≤ extent) ∨
      (¬ type.Numeric ∧ type.extents.prod * type.base.sizeof < type.size) := by
  induction type with
  | scalar t => exact .inl ⟨trivial, by simp [extents, base, size, CDataType.sizeof, t.sizeof_ctype], by simp [extents]⟩
  | string n => exact .inr ⟨id, by simp [extents, base, size, CDataType.sizeof]⟩
  | array lower upper ordered element ih =>
    have extent : (upper : Int) + 1 - lower = (upper + 1 - lower : Nat) := by omega
    have positive : (0 : Int) < (upper + 1 - lower : Nat) := by omega
    have product : (TypeName.array lower upper ordered element).extents.prod *
        (TypeName.array lower upper ordered element).base.sizeof =
        ((upper + 1 - lower : Nat) : Int) * (element.extents.prod * element.base.sizeof) := by
      rw [extents, base, List.prod_cons, extent, mul_assoc]
    have total : ((TypeName.array lower upper ordered element).size : Int) =
        ((upper + 1 - lower : Nat) : Int) * element.size := by
      rw [size, Nat.cast_mul]
    rw [product, total]
    obtain ⟨numeric, same, each⟩ | ⟨text, less⟩ := ih
    · refine .inl ⟨numeric, by rw [same], ?_⟩
      intro other member
      rcases List.mem_cons.mp member with rfl | inner
      · omega
      · exact each other inner
    · exact .inr ⟨text, Int.mul_lt_mul_of_pos_left less positive⟩

end TypeName

/-- Where no extent is zero, the whole product decides. -/
theorem extentsFit_iff (positive : ∀ extent ∈ extents, 1 ≤ extent) (size : Nat) (some_ : 0 < size)
    (small : size < 2 ^ 63) : ExtentsFit size extents ↔ extents.prod * size < 2 ^ 63 := by
  induction extents with
  | nil => simp [ExtentsFit]; exact_mod_cast small
  | cons extent extents ih =>
    obtain ⟨first, others⟩ := List.forall_mem_cons.mp positive
    have inner : 0 < extents.prod :=
      List.prod_pos fun other member => Int.lt_of_lt_of_le Int.zero_lt_one (others other member)
    have sizeAtLeast : (1 : Int) ≤ size := by exact_mod_cast some_
    rw [ExtentsFit, ih others, List.prod_cons, mul_assoc]
    have one : 1 ≤ extents.prod * size := by nlinarith
    constructor
    · rintro ⟨-, -, -, whole⟩
      exact whole
    · intro whole
      refine ⟨by nlinarith, by omega, by nlinarith, whole⟩

/-- The name is mapped to an array class of this size, and a read with a length
check asks for as many bytes. -/
def SizedArray (answer : Result (Option PlcDataType)) (size : Nat) : Prop :=
  ∃ element n, answer = .ok (some (.ctypes (.array element n))) ∧ (CDataType.array element n).sizeof = size ∧
    bufferSize (.ctypes (.array element n)) = .ok size

theorem base_of_numeric {type : TypeName} (numeric : type.Numeric) : ∃ ctype, type.base = .simple ctype := by
  induction type with
  | scalar t => exact ⟨_, rfl⟩
  | string n => exact absurd numeric id
  | array lower upper ordered element ih => exact ih numeric

theorem bufferSize_surrounded (ctype : CType) (extent : Int) (extents : List Int) :
    bufferSize (.ctypes (surrounded (.simple ctype) (extent :: extents))) =
      .ok (surrounded (.simple ctype) (extent :: extents)).sizeof := by
  cases extents <;> rfl

/-- A class that a name is mapped to is smaller than the variable if its innermost
elements are texts. -/
theorem not_sized_of_text {type : TypeName} (text : type.extents.prod * type.base.sizeof < type.size) :
    ¬ SizedArray ((⟨type.extents, .ctypes type.base⟩ : NameReading).plcType.map some) type.size := by
  rintro ⟨element, n, made, same, -⟩
  obtain ⟨plcType, product, found⟩ := map_eq_ok.mp made
  cases Option.some.inj found
  have class_ := plcType_ctypes product
  have size := sizeof_surrounded (exists_plcType_ctypes_iff.mp ⟨_, product⟩)
  rw [← PlcDataType.ctypes.inj class_, same] at size
  omega

theorem sized_iff_of_numeric {extent : Int} {extents : List Int} (ctype : CType)
    (positive : ∀ other ∈ extent :: extents, 1 ≤ other) (size : Nat)
    (whole : (extent :: extents).prod * ctype.sizeof = size) :
    SizedArray ((⟨extent :: extents, .ctypes (.simple ctype)⟩ : NameReading).plcType.map some) size ↔
      size < 2 ^ 63 := by
  have small : ctype.sizeof < 2 ^ 63 := by cases ctype <;> decide
  have fit := extentsFit_iff positive ctype.sizeof ctype.sizeof_pos small
  rw [whole] at fit
  have room : ExtentsFit (CDataType.simple ctype).sizeof (extent :: extents) ↔ size < 2 ^ 63 :=
    fit.trans (by exact_mod_cast Iff.rfl)
  constructor
  · rintro ⟨element, n, made, -, -⟩
    obtain ⟨plcType, product, -⟩ := map_eq_ok.mp made
    exact room.mp (exists_plcType_ctypes_iff.mp ⟨plcType, product⟩)
  · intro bound
    obtain ⟨plcType, product⟩ := exists_plcType_ctypes_iff.mpr (room.mpr bound)
    cases plcType_ctypes product
    have sizeof : (surrounded (.simple ctype) (extent :: extents)).sizeof = size := by
      have total := sizeof_surrounded (room.mpr bound)
      have same : ((surrounded (.simple ctype) (extent :: extents)).sizeof : Int) = size := total.trans whole
      exact_mod_cast same
    exact ⟨_, _, map_eq_ok.mpr ⟨_, product, rfl⟩, sizeof, (bufferSize_surrounded ..).trans (congrArg _ sizeof)⟩

/-- The name of an array is mapped to a class of its size in the PLC exactly if
its innermost elements are numbers, the size is one that `ctypes` has room for
and the numbers in the name are within the limit of digits. -/
theorem array_sized_iff (maxStrDigits lower upper : Nat) (ordered : lower ≤ upper) (element : TypeName) :
    SizedArray (typeFromStr maxStrDigits (TypeName.array lower upper ordered element).name)
        (TypeName.array lower upper ordered element).size ↔
      element.Numeric ∧ (TypeName.array lower upper ordered element).size < 2 ^ 63 ∧
        (TypeName.array lower upper ordered element).Short maxStrDigits := by
  rw [typeFromStr_eq]
  obtain ⟨short, read⟩ | ⟨long, e, raised⟩ :=
    TypeName.readName_name maxStrDigits (.array lower upper ordered element)
  · rw [read]
    simp only [short, and_true]
    obtain ⟨numeric, product, positive⟩ | ⟨text, less⟩ :=
      TypeName.prod_extents (.array lower upper ordered element)
    · obtain ⟨ctype, base⟩ := base_of_numeric numeric
      have inner : element.base = .simple ctype := base
      rw [base] at product
      rw [and_iff_right (show element.Numeric from numeric)]
      simp only [TypeName.base, inner]
      exact sized_iff_of_numeric ctype positive _ product
    · exact iff_of_false (not_sized_of_text less) fun both => text both.1
  · rw [raised]
    exact iff_of_false (by rintro ⟨_, _, ⟨⟩, _⟩) fun both => long both.2.2

/-- Five integers in ten bytes. -/
theorem int_array_sized : SizedArray (typeFromStr 4300 "ARRAY [1..5] OF INT".toList) 10 :=
  (array_sized_iff 4300 1 5 (by decide) (.scalar .int)).mpr
    ⟨trivial, by decide, .inr (by decide), .inr (by decide), trivial⟩

/-- The class of `ARRAY [0..1] OF STRING(10)` has no room for the two terminators. -/
theorem string_array_short : ¬ SizedArray (typeFromStr 4300 (TypeName.array 0 1 (Nat.zero_le 1) (.string 10)).name)
    (TypeName.array 0 1 (Nat.zero_le 1) (.string 10)).size := by
  rw [typeFromStr_eq]
  obtain ⟨-, read⟩ | ⟨-, e, raised⟩ := TypeName.readName_name 4300 (.array 0 1 (Nat.zero_le 1) (.string 10))
  · rw [read]
    exact not_sized_of_text (show (TypeName.array 0 1 (Nat.zero_le 1) (.string 10)).extents.prod *
      (TypeName.array 0 1 (Nat.zero_le 1) (.string 10)).base.sizeof < _ by decide)
  · rw [raised]
    rintro ⟨_, _, ⟨⟩, _⟩

end PyAds
