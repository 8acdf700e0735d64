import PyAds.PlainRead

/-! What the names of types say. A name is read as a number of extents around a
type that has a name of its own; the type of the whole name is their product, as
far as `ctypes` can make it. -/
namespace PyAds
open Fallible Pattern

/-! ## Reading names -/

/-- The extents of a name, the outermost first, and the type that they surround. -/
structure NameReading where
  extents : List Int
  base : PlcDataType

namespace NameReading

def surround (reading : NameReading) (extent : Int) : Result NameReading :=
  .ok ⟨extent :: reading.extents, reading.base⟩

/-- The products of the type with its extents, from the innermost on. -/
def plcType (reading : NameReading) : Result PlcDataType :=
  reading.extents.foldr (fun extent type => type >>= (·.times extent)) (.ok reading.base)

end NameReading

/-- The name as extents around a type, or nothing if it is not mapped. -/
def readName (maxStrDigits : Nat) (typeStr : List Char) : Result (Option NameReading) :=
  typeOfName NameReading.surround (⟨[], ·⟩) maxStrDigits typeStr

section Meaning
variable {α β : Type} {times : α → Int → Result α} {constant : PlcDataType → α} {times' : β → Int → Result β}
  {constant' : PlcDataType → β} {meaning : α → Result β} {maxStrDigits : Nat}

theorem mapped_mapped (first : α → Result β) (second : β → Result γ) (type : Option α) :
    (mapped first type >>= mapped second) = mapped (fun a => first a >>= second) type := by
  cases type with
  | none => rfl
  | some type =>
    simp only [mapped, bind, Except.bind, Except.map]
    cases first type <;> rfl

theorem orTry_bind (attempt next : Result (Option α)) (meaning : α → Result β) :
    (orTry attempt next >>= mapped meaning) = orTry (attempt >>= mapped meaning) (next >>= mapped meaning) := by
  unfold orTry
  cases attempt with
  | error e => rfl
  | ok type =>
    cases type with
    | none => rfl
    | some type =>
      simp only [bind, Except.bind, pure, Except.pure, mapped]
      cases meaning type <;> rfl

/-- A meaning that respects products is the meaning of all names. -/
theorem typeOfName_bind (constants : ∀ type, meaning (constant type) = .ok (constant' type))
    (products : ∀ type size, (times type size >>= meaning) = (meaning type >>= (times' · size))) (typeStr : List Char) :
    (typeOfName times constant maxStrDigits typeStr >>= mapped meaning) =
      typeOfName times' constant' maxStrDigits typeStr := by
  induction length : typeStr.length using Nat.strong_induction_on generalizing typeStr with
  | _ n ih =>
    have product (scalar : List Char) (size : Int) (shorter : scalar.length < n) :
        (typeOfName times constant maxStrDigits scalar >>= mapped (times · size) >>= mapped meaning) =
          (typeOfName times' constant' maxStrDigits scalar >>= mapped (times' · size)) := by
      rw [← ih _ shorter scalar rfl, bind_assoc, bind_assoc]
      simp only [mapped_mapped, products]
    by_cases wide : ['W', 'S', 'T', 'R', 'I', 'N', 'G'].isPrefixOf typeStr = true
    · rw [typeOfName_wide wide, typeOfName_wide wide]
      exact congrArg (Except.map some) (constants _)
    · cases named : OrderedDict.lookup typeStr plcConstants with
      | some type =>
        rw [typeOfName_constant wide named, typeOfName_constant wide named]
        exact congrArg (Except.map some) (constants _)
      | none =>
        have array :
            (arrayType times maxStrDigits (typeOfName times constant maxStrDigits) typeStr >>= mapped meaning) =
            arrayType times' maxStrDigits (typeOfName times' constant' maxStrDigits) typeStr := by
          unfold arrayType
          cases matched : regexArray typeStr with
          | none => rfl
          | some groups =>
            have shorter := regexArray_shorter matched
            simp only [bind_assoc, product _ _ (length ▸ shorter)]
        have list : (listType times maxStrDigits (typeOfName times constant maxStrDigits) typeStr >>= mapped meaning) =
            listType times' maxStrDigits (typeOfName times' constant' maxStrDigits) typeStr := by
          unfold listType
          cases matched : regexList typeStr with
          | none => rfl
          | some groups =>
            have shorter := regexList_shorter matched
            simp only [bind_assoc, product _ _ (length ▸ shorter)]
        have matrix : (matrixType times constant maxStrDigits typeStr >>= mapped meaning) =
            matrixType times' constant' maxStrDigits typeStr := by
          unfold matrixType
          cases regexMatrix typeStr with
          | none => rfl
          | some groups =>
            simp only [bind_assoc, mapped_mapped, products, constants]
            rfl
        rw [typeOfName_attempts wide named, typeOfName_attempts wide named, orTry_bind, orTry_bind, array, list, matrix]

end Meaning

/-- The type of a name is what its reading stands for. -/
theorem typeFromStr_eq (maxStrDigits : Nat) (typeStr : List Char) :
    typeFromStr maxStrDigits typeStr = readName maxStrDigits typeStr >>= mapped NameReading.plcType := by
  have constants (type : PlcDataType) : NameReading.plcType ⟨[], type⟩ = .ok (id type) := rfl
  have products (reading : NameReading) (size : Int) :
      (reading.surround size >>= NameReading.plcType) = (reading.plcType >>= (·.times size)) := rfl
  exact (typeOfName_bind constants products typeStr).symm

/-! ## Products -/

/-- No extent is negative, and `ctypes` has room for the product of each with
what it surrounds. -/
def ExtentsFit (size : Nat) : List Int → Prop
  | [] => True
  | extent :: extents =>
    ExtentsFit size extents ∧ 0 ≤ extent ∧ extent < 2 ^ 63 ∧ extent * (extents.prod * size) < 2 ^ 63

/-- A class fits with its extents, the dummy class of `PLCTYPE_WSTRING` only
without any, and a function `PLCTYPE_ARR_*` is no type. -/
def NameReading.Fits (reading : NameReading) : Prop :=
  match reading.base with
  | .ctypes type => ExtentsFit type.sizeof reading.extents
  | .wstring => reading.extents = []
  | .arrayFunction _ => False

/-- The class with its extents. -/
def surrounded (type : CDataType) (extents : List Int) : CDataType :=
  extents.foldr (fun extent element => .array element extent.toNat) type

theorem sizeof_surrounded {type : CDataType} {extents : List Int} (fit : ExtentsFit type.sizeof extents) :
    ((surrounded type extents).sizeof : Int) = extents.prod * type.sizeof := by
  induction extents with
  | nil => simp [surrounded]
  | cons extent extents ih =>
    obtain ⟨inner, nonnegative, -, -⟩ := fit
    have step : (surrounded type (extent :: extents)).sizeof = extent.toNat * (surrounded type extents).sizeof := rfl
    rw [step, Nat.cast_mul, ih inner, Int.toNat_of_nonneg nonnegative, List.prod_cons, mul_assoc]

theorem times_ctypes_iff {element : CDataType} {size : Int} :
    (∃ type, PlcDataType.times (.ctypes element) size = .ok type) ↔
      0 ≤ size ∧ size < 2 ^ 63 ∧ size * element.sizeof < 2 ^ 63 := by
  unfold PlcDataType.times
  dsimp only
  split
  · exact iff_of_false (by rintro ⟨_, ⟨⟩⟩) (by omega)
  · split
    · exact iff_of_false (by rintro ⟨_, ⟨⟩⟩) (by omega)
    · split
      · exact iff_of_false (by rintro ⟨_, ⟨⟩⟩) (by omega)
      · exact iff_of_true ⟨_, rfl⟩ (by omega)

theorem times_ctypes {element : CDataType} {size : Int} (made : PlcDataType.times (.ctypes element) size = .ok type) :
    type = .ctypes (.array element size.toNat) := by
  unfold PlcDataType.times at made
  dsimp only at made
  split at made
  · cases made
  · split at made
    · cases made
    · split at made
      · cases made
      · cases made
        rfl

theorem plcType_cons (extent : Int) (extents : List Int) (base : PlcDataType) :
    (⟨extent :: extents, base⟩ : NameReading).plcType = (⟨extents, base⟩ : NameReading).plcType >>= (·.times extent) :=
  rfl

theorem plcType_ctypes {type : CDataType} {extents : List Int} (made : (⟨extents, .ctypes type⟩ : NameReading).plcType =
    .ok plcType) : plcType = .ctypes (surrounded type extents) := by
  induction extents generalizing plcType with
  | nil =>
    cases made
    rfl
  | cons extent extents ih =>
    rw [plcType_cons] at made
    obtain ⟨inner, innerMade, product⟩ := bind_eq_ok.mp made
    cases ih innerMade
    exact times_ctypes product

theorem exists_plcType_ctypes_iff {type : CDataType} {extents : List Int} :
    (∃ plcType, (⟨extents, .ctypes type⟩ : NameReading).plcType = .ok plcType) ↔ ExtentsFit type.sizeof extents := by
  induction extents with
  | nil => exact iff_of_true ⟨_, rfl⟩ trivial
  | cons extent extents ih =>
    rw [plcType_cons, ExtentsFit, ← ih]
    constructor
    · rintro ⟨plcType, made⟩
      obtain ⟨inner, innerMade, product⟩ := bind_eq_ok.mp made
      cases plcType_ctypes innerMade
      have size := sizeof_surrounded (ih.mp ⟨_, innerMade⟩)
      refine ⟨⟨_, innerMade⟩, ?_⟩
      rw [← size]
      exact times_ctypes_iff.mp ⟨plcType, product⟩
    · rintro ⟨⟨inner, innerMade⟩, bounds⟩
      cases plcType_ctypes innerMade
      have size := sizeof_surrounded (ih.mp ⟨_, innerMade⟩)
      rw [← size] at bounds
      obtain ⟨plcType, product⟩ := times_ctypes_iff.mpr bounds
      exact ⟨plcType, bind_eq_ok.mpr ⟨_, innerMade, product⟩⟩

/-- What is no class has no product with any extent. -/
theorem plcType_no_class {base : PlcDataType} (noClass : ∀ size, base.times size = .error .typeError) (extent : Int)
    (extents : List Int) : ¬ ∃ plcType, (⟨extent :: extents, base⟩ : NameReading).plcType = .ok plcType := by
  induction extents generalizing extent with
  | nil =>
    rintro ⟨plcType, made⟩
    rw [plcType_cons] at made
    obtain ⟨_, ⟨⟩, product⟩ := bind_eq_ok.mp made
    rw [noClass] at product
    cases product
  | cons inner extents ih =>
    rintro ⟨plcType, made⟩
    rw [plcType_cons] at made
    obtain ⟨inside, insideMade, -⟩ := bind_eq_ok.mp made
    exact ih inner ⟨inside, insideMade⟩

/-! ## All names -/

/-- A type whose values can be transferred. -/
def PlcDataType.Transferable : PlcDataType → Prop
  | .ctypes _ | .wstring => True
  | .arrayFunction _ => False

/-- The name is mapped to a type that can be transferred, or to nothing, and no
exception is raised. -/
def Resolved (answer : Result (Option PlcDataType)) : Prop :=
  ∃ found, answer = .ok found ∧ ∀ plcType, found = some plcType → plcType.Transferable

/-- A class has room for its extents, and what is no class has none. -/
def NameReading.Answered (reading : NameReading) : Prop :=
  match reading.base with
  | .ctypes type => ExtentsFit type.sizeof reading.extents
  | .wstring | .arrayFunction _ => reading.extents = []

theorem NameReading.answered_iff (reading : NameReading) :
    (∃ plcType, reading.plcType = .ok plcType) ↔ reading.Answered := by
  have other {base : PlcDataType} (noClass : ∀ size, base.times size = .error .typeError) (extents : List Int) :
      (∃ plcType, (⟨extents, base⟩ : NameReading).plcType = .ok plcType) ↔ extents = [] := by
    cases extents with
    | nil => exact iff_of_true ⟨base, rfl⟩ rfl
    | cons extent extents => exact iff_of_false (plcType_no_class noClass extent extents) (by simp)
  obtain ⟨extents, base⟩ := reading
  cases base with
  | ctypes type => exact exists_plcType_ctypes_iff
  | wstring => exact other (fun _ => rfl) extents
  | arrayFunction element => exact other (fun _ => rfl) extents

theorem NameReading.fits_iff (reading : NameReading) :
    (∃ plcType, reading.plcType = .ok plcType ∧ plcType.Transferable) ↔ reading.Fits := by
  have answered := reading.answered_iff
  obtain ⟨extents, base⟩ := reading
  cases base with
  | ctypes type =>
    refine Iff.trans ?_ answered
    constructor
    · rintro ⟨plcType, made, -⟩
      exact ⟨plcType, made⟩
    · rintro ⟨plcType, made⟩
      refine ⟨plcType, made, ?_⟩
      rw [plcType_ctypes made]
      trivial
  | wstring =>
    constructor
    · rintro ⟨plcType, made, -⟩
      exact answered.mp ⟨plcType, made⟩
    · rintro (rfl : extents = [])
      exact ⟨.wstring, rfl, trivial⟩
  | arrayFunction element =>
    refine iff_of_false ?_ (by simp [Fits])
    rintro ⟨plcType, made, transferable⟩
    obtain rfl : extents = [] := answered.mp ⟨plcType, made⟩
    cases made
    exact transferable

/-- A name is answered as it is read. -/
theorem typeFromStr_answer_iff (maxStrDigits : Nat) (typeStr : List Char) (P : PlcDataType → Prop) :
    (∃ found, typeFromStr maxStrDigits typeStr = .ok found ∧ ∀ plcType, found = some plcType → P plcType) ↔
      ∃ found, readName maxStrDigits typeStr = .ok found ∧
        ∀ reading, found = some reading → ∃ plcType, reading.plcType = .ok plcType ∧ P plcType := by
  rw [typeFromStr_eq]
  cases readName maxStrDigits typeStr with
  | error e => exact iff_of_false (by rintro ⟨_, ⟨⟩, _⟩) (by rintro ⟨_, ⟨⟩, _⟩)
  | ok found =>
    cases found with
    | none => exact iff_of_true ⟨none, rfl, by rintro _ ⟨⟩⟩ ⟨none, rfl, by rintro _ ⟨⟩⟩
    | some reading =>
      have outcome : (.ok (some reading) >>= mapped NameReading.plcType) = reading.plcType.map some := rfl
      rw [outcome]
      constructor
      · rintro ⟨found, made, meets⟩
        obtain ⟨plcType, built, rfl⟩ := map_eq_ok.mp made
        refine ⟨some reading, rfl, ?_⟩
        rintro _ ⟨⟩
        exact ⟨plcType, built, meets plcType rfl⟩
      · rintro ⟨_, ⟨⟩, meets⟩
        obtain ⟨plcType, built, holds⟩ := meets reading rfl
        refine ⟨some plcType, map_eq_ok.mpr ⟨plcType, built, rfl⟩, ?_⟩
        rintro _ ⟨⟩
        exact holds

theorem resolved_typeFromStr_iff (maxStrDigits : Nat) (typeStr : List Char) :
    Resolved (typeFromStr maxStrDigits typeStr) ↔
      ∃ found, readName maxStrDigits typeStr = .ok found ∧ ∀ reading, found = some reading → reading.Fits := by
  simp only [Resolved, typeFromStr_answer_iff, NameReading.fits_iff]

/-- A name is answered at all, even with a function. -/
theorem answered_typeFromStr_iff (maxStrDigits : Nat) (typeStr : List Char) :
    (∃ found, typeFromStr maxStrDigits typeStr = .ok found) ↔
      ∃ found, readName maxStrDigits typeStr = .ok found ∧ ∀ reading, found = some reading → reading.Answered := by
  have plain := typeFromStr_answer_iff maxStrDigits typeStr (fun _ => True)
  simpa only [implies_true, and_true, NameReading.answered_iff] using plain

/-- A character as the patterns see it. None of them names a surrogate. -/
def patternChar : Text.CodePoint → Char
  | .scalar c => c
  | .surrogate _ => '\ufffd'

/-- `AdsSymbol.get_type_from_str` of any text. -/
def typeFromText (maxStrDigits : Nat) (typeStr : Text.Str) : Result (Option PlcDataType) :=
  typeFromStr maxStrDigits (typeStr.map patternChar)

/-- A name is resolved without an exception exactly if its numbers are within the
limit of digits and, where it is read as extents around a type, the type is a
class and has room for them, or it is a wide string and there are none. -/
theorem typeFromText_resolved_iff (maxStrDigits : Nat) (typeStr : Text.Str) :
    Resolved (typeFromText maxStrDigits typeStr) ↔
      ∃ found, readName maxStrDigits (typeStr.map patternChar) = .ok found ∧
        ∀ reading, found = some reading → reading.Fits :=
  resolved_typeFromStr_iff maxStrDigits (typeStr.map patternChar)

/-- An array whose bounds are the wrong way around has a negative length. -/
theorem typeFromStr_reversed :
    typeFromStr 4300 "ARRAY [5..1] OF INT".toList = .error (.valueError "Array length must be >= 0, not -3") := by
  have scalar : typeFromStr 4300 "INT".toList = .ok (some (.ctypes (.simple .int16))) :=
    typeOfName_constant (by decide) rfl
  have matched : regexArray "ARRAY [5..1] OF INT".toList = some ⟨['5'], ['1'], "INT".toList⟩ := rfl
  have array : typeFromStr 4300 "ARRAY [5..1] OF INT".toList =
      (PlcDataType.times (.ctypes (.simple .int16)) (1 + 1 - 5)).map some :=
    typeOfName_array (by decide) rfl matched rfl rfl scalar
  exact array

theorem reversed_bounds_raise : ¬ Resolved (typeFromText 4300 (Text.ofChars "ARRAY [5..1] OF INT".toList)) := by
  rintro ⟨found, resolved, -⟩
  have raised : typeFromStr 4300 "ARRAY [5..1] OF INT".toList = .ok found := resolved
  cases typeFromStr_reversed.symm.trans raised

end PyAds
