import PyAds.Base.Fallible
import PyAds.Base.OrderedDict
import PyAds.Base.Text

/-! The Python values that travel through the library, the exceptions its
functions raise, and the `struct` formats that turn numbers into bytes. -/
namespace PyAds

/-- Exceptions by class, with the text where the source gives one. A missing
dictionary key is a name or, in the table of error texts, a number. -/
inductive PyError where
  | keyError (key : String)
  | codeKeyError (code : Nat)
  | indexError
  | typeError
  | attributeError
  | valueError (text : String)
  | runtimeError (text : String)
  | structError
  | overflowError
  | unicodeEncodeError
  | unicodeDecodeError
  | adsError (code : Nat)
  deriving DecidableEq, Repr

abbrev Result := Except PyError

abbrev Bytes := List UInt8

/-- A `float` is its binary64 pattern, a `dict` its entries in order. -/
inductive PyVal where
  | none
  | bool (b : Bool)
  | int (i : Int)
  | float (bits : Nat)
  | str (text : Text.Str)
  | list (items : List PyVal)
  | dict (entries : List (String × PyVal))
  deriving Repr

abbrev Entries := List (String × PyVal)

namespace PyVal

/-- A list of small integers, the form in which bytes leave `ctypes` slices
and `bytes_from_dict`. -/
def ofBytes (bytes : Bytes) : PyVal := .list (bytes.map fun byte => .int byte.toNat)

/-- The value as an argument that must be an integer; `bool` is a subclass. -/
def asInt? : PyVal → Option Int
  | .int i => some i
  | .bool b => some (if b then 1 else 0)
  | _ => Option.none

/-- One element assigned into a `bytearray`. -/
def asByte : PyVal → Result UInt8
  | value =>
    match value.asInt? with
    | some i =>
      if 0 ≤ i ∧ i < 256 then .ok (UInt8.ofNat i.toNat)
      else .error (.valueError "byte must be in range(0, 256)")
    | Option.none => .error .typeError

def truthy : PyVal → Bool
  | .none => false
  | .bool b => b
  | .int i => i != 0
  | .float bits => bits % 2 ^ 63 != 0
  | .str text => !text.isEmpty
  | .list items => !items.isEmpty
  | .dict entries => !entries.isEmpty

/-- `value[i]` with a non-negative index. -/
def getIndex (value : PyVal) (i : Nat) : Result PyVal :=
  match value with
  | .list items =>
    match items[i]? with
    | some item => .ok item
    | Option.none => .error .indexError
  | .str text =>
    match text[i]? with
    | some point => .ok (.str [point])
    | Option.none => .error .indexError
  | .dict _ => .error (.codeKeyError i)
  | _ => .error .typeError

/-- `value[key]` with a string key. -/
def getKey (value : PyVal) (key : String) : Result PyVal :=
  match value with
  | .dict entries =>
    match OrderedDict.lookup key entries with
    | some item => .ok item
    | Option.none => .error (.keyError key)
  | _ => .error .typeError

/-- What iterating over the value yields. -/
def iterate : PyVal → Result (List PyVal)
  | .list items => .ok items
  | .str text => .ok (text.map fun point => .str [point])
  | .dict entries => .ok (entries.map fun entry => .str (Text.ofChars entry.1.toList))
  | _ => .error .typeError

end PyVal

/-! ## Equality of values -/

/-- The two dictionary equalities: an `OrderedDict` compares the order of its
keys, a plain `dict` does not. -/
inductive KeyOrder where
  | ordered
  | plain

def KeyOrder.Agree : KeyOrder → List String → List String → Prop
  | .ordered, first, second => first = second
  | .plain, first, second => first.Perm second

/-- `==` on values whose dictionaries are compared with or without order. A
boolean equals the integer it stands for. -/
inductive PyVal.Same (order : KeyOrder) : PyVal → PyVal → Prop
  | refl (value : PyVal) : Same order value value
  | number (left : first.asInt? = some i) (right : second.asInt? = some i) : Same order first second
  | list (items : List.Forall₂ (Same order) first second) : Same order (.list first) (.list second)
  | dict (keys : order.Agree (first.map Prod.fst) (second.map Prod.fst))
      (values : ∀ key value other, (key, value) ∈ first → (key, other) ∈ second →
        Same order value other) : Same order (.dict first) (.dict second)

theorem KeyOrder.Agree.perm {order : KeyOrder} (agree : order.Agree first second) :
    first.Perm second := by
  cases order with
  | ordered => exact agree ▸ List.Perm.refl _
  | plain => exact agree

/-! ## Text encodings -/

/-- `text.encode("utf-8")` -/
def encodeUtf8 (text : Text.Str) : Result Bytes :=
  match Text.chars? text with
  | some chars => .ok (Text.Utf8.encode chars)
  | none => .error .unicodeEncodeError

/-- `text.encode("utf-16-le")` -/
def encodeUtf16 (text : Text.Str) : Result Bytes :=
  match Text.chars? text with
  | some chars => .ok (Text.Utf16.encode chars)
  | none => .error .unicodeEncodeError

/-- `data.decode("utf-8")` -/
def decodeUtf8 (data : Bytes) : Result Text.Str :=
  match Text.Utf8.decode data with
  | some chars => .ok (Text.ofChars chars)
  | none => .error .unicodeDecodeError

/-- `data.decode("utf-16-le")` -/
def decodeUtf16 (data : Bytes) : Result Text.Str :=
  match Text.Utf16.decode data with
  | some chars => .ok (Text.ofChars chars)
  | none => .error .unicodeDecodeError

@[simp] theorem encodeUtf8_ofChars (chars : List Char) :
    encodeUtf8 (Text.ofChars chars) = .ok (Text.Utf8.encode chars) := by
  simp [encodeUtf8]

@[simp] theorem encodeUtf16_ofChars (chars : List Char) :
    encodeUtf16 (Text.ofChars chars) = .ok (Text.Utf16.encode chars) := by
  simp [encodeUtf16]

@[simp] theorem decodeUtf8_encode (chars : List Char) :
    decodeUtf8 (Text.Utf8.encode chars) = .ok (Text.ofChars chars) := by
  simp [decodeUtf8, Text.Utf8.decode_encode]

@[simp] theorem decodeUtf16_encode (chars : List Char) :
    decodeUtf16 (Text.Utf16.encode chars) = .ok (Text.ofChars chars) := by
  simp [decodeUtf16, Text.Utf16.decode_encode]

/-- A text is encoded exactly if it has no lone surrogates. -/
private theorem encoded_eq_ok_iff {encode : List Char → Bytes} {error : PyError} :
    (match Text.chars? text with
      | some chars => .ok (encode chars)
      | none => .error error : Result Bytes) = .ok bytes ↔
        ∃ chars, text = Text.ofChars chars ∧ bytes = encode chars := by
  cases found : Text.chars? text with
  | none =>
    simp only [reduceCtorEq, false_iff, not_exists, not_and]
    rintro chars rfl
    simp at found
  | some chars =>
    have shape := Text.chars?_eq_some_iff.mp found
    constructor
    · intro same
      cases same
      exact ⟨chars, shape, rfl⟩
    · rintro ⟨other, eq, rfl⟩
      rw [Text.ofChars_injective (shape.symm.trans eq)]

theorem encodeUtf8_eq_ok_iff :
    encodeUtf8 text = .ok bytes ↔ ∃ chars, text = Text.ofChars chars ∧ bytes = Text.Utf8.encode chars :=
  encoded_eq_ok_iff

theorem encodeUtf16_eq_ok_iff :
    encodeUtf16 text = .ok bytes ↔ ∃ chars, text = Text.ofChars chars ∧ bytes = Text.Utf16.encode chars :=
  encoded_eq_ok_iff

theorem decodeUtf8_eq_ok_iff :
    decodeUtf8 bytes = .ok text ↔ ∃ chars, text = Text.ofChars chars ∧ bytes = Text.Utf8.encode chars := by
  constructor
  · intro read
    unfold decodeUtf8 at read
    split at read
    · rename_i chars found
      cases read
      exact ⟨chars, rfl, (Text.Utf8.encode_of_decode found).symm⟩
    · cases read
  · rintro ⟨chars, rfl, rfl⟩
    exact decodeUtf8_encode chars

theorem decodeUtf16_eq_ok_iff :
    decodeUtf16 bytes = .ok text ↔ ∃ chars, text = Text.ofChars chars ∧ bytes = Text.Utf16.encode chars := by
  constructor
  · intro read
    unfold decodeUtf16 at read
    split at read
    · rename_i chars found
      cases read
      exact ⟨chars, rfl, (Text.Utf16.encode_of_decode found).symm⟩
    · cases read
  · rintro ⟨chars, rfl, rfl⟩
    exact decodeUtf16_encode chars

/-! ## `struct` -/

/-- The format characters of `DATATYPE_MAP`; all are used little-endian and
without padding. -/
inductive StructFormat where
  | bool | B | b | H | h | I | i | Q | q | f | d
  deriving DecidableEq, Repr

namespace StructFormat

/-- `struct.calcsize` -/
def size : StructFormat → Nat
  | .bool | .B | .b => 1
  | .H | .h => 2
  | .I | .i | .f => 4
  | .Q | .q | .d => 8

end StructFormat

/-- `n / 2 ^ shift` rounded to nearest, ties to even. -/
def roundShift (n shift : Nat) : Nat :=
  let quotient := n / 2 ^ shift
  let twice := 2 * (n % 2 ^ shift)
  if twice > 2 ^ shift ∨ (twice = 2 ^ shift ∧ quotient % 2 = 1) then quotient + 1 else quotient

/-- A binary64 pattern rounded to binary32; a finite number that rounds to
infinity does not fit. -/
def toBinary32 (bits : Nat) : Option Nat :=
  let sign := bits / 2 ^ 63 * 2 ^ 31
  let exponent := bits / 2 ^ 52 % 2048
  let fraction := bits % 2 ^ 52
  if exponent = 2047 then
    if fraction = 0 then some (sign + 255 * 2 ^ 23)
    else some (sign + 255 * 2 ^ 23 + 2 ^ 22 + fraction / 2 ^ 29 % 2 ^ 22)
  else if exponent = 0 then some sign
  else
    let magnitude :=
      if 897 ≤ exponent then (exponent - 897) * 2 ^ 23 + roundShift (2 ^ 52 + fraction) 29
      else roundShift (2 ^ 52 + fraction) (29 + (897 - exponent))
    if magnitude < 255 * 2 ^ 23 then some (sign + magnitude) else none

/-- A binary32 pattern widened to binary64, which is exact. -/
def ofBinary32 (bits : Nat) : Nat :=
  let sign := bits / 2 ^ 31 * 2 ^ 63
  let exponent := bits / 2 ^ 23 % 256
  let fraction := bits % 2 ^ 23
  if exponent = 255 then
    if fraction = 0 then sign + 2047 * 2 ^ 52
    else sign + 2047 * 2 ^ 52 + 2 ^ 51 + fraction % 2 ^ 22 * 2 ^ 29
  else if exponent ≠ 0 then sign + (exponent + 896) * 2 ^ 52 + fraction * 2 ^ 29
  else if fraction = 0 then sign
  else
    let top := fraction.log2
    sign + (top + 874) * 2 ^ 52 + (fraction - 2 ^ top) * 2 ^ (52 - top)

/-- The binary64 pattern nearest to an integer. -/
def binary64OfInt (i : Int) : Option Nat :=
  let sign := if i < 0 then 2 ^ 63 else 0
  let n := i.natAbs
  let top := n.log2
  if n = 0 then some 0
  else if top ≤ 52 then some (sign + (top + 1023) * 2 ^ 52 + (n - 2 ^ top) * 2 ^ (52 - top))
  else
    let magnitude := (top + 1022) * 2 ^ 52 + roundShift n (top - 52)
    if magnitude < 2047 * 2 ^ 52 then some (sign + magnitude) else none

/-- The value as an argument that must be a real number. -/
def PyVal.asFloat? (value : PyVal) : Option Nat :=
  match value with
  | .float bits => some bits
  | _ => value.asInt?.bind binary64OfInt

/-- The range of an integer of `width` bytes. -/
def IntFits (width : Nat) (signed : Bool) (i : Int) : Prop :=
  (if signed then -(256 ^ width) else 0) ≤ 2 * i ∧
    2 * i < if signed then 256 ^ width else 2 * 256 ^ width

instance : Decidable (IntFits width signed i) := inferInstanceAs (Decidable (_ ∧ _))

/-- An integer in `width` bytes, or `struct.error` where it does not fit. -/
def packInt (width : Nat) (signed : Bool) (value : PyVal) : Result Bytes :=
  match value.asInt? with
  | some i => if IntFits width signed i then .ok (LittleEndian.ofInt width i) else .error .structError
  | none => .error .structError

/-- `struct.pack` of one value. -/
def structPack (fmt : StructFormat) (value : PyVal) : Result Bytes :=
  match fmt with
  | .bool => .ok [if value.truthy then 1 else 0]
  | .B => packInt 1 false value
  | .b => packInt 1 true value
  | .H => packInt 2 false value
  | .h => packInt 2 true value
  | .I => packInt 4 false value
  | .i => packInt 4 true value
  | .Q => packInt 8 false value
  | .q => packInt 8 true value
  | .d =>
    match value.asFloat? with
    | some bits => .ok (LittleEndian.ofNat 8 bits)
    | none => .error .structError
  | .f =>
    match value.asFloat? with
    | some bits =>
      match toBinary32 bits with
      | some narrow => .ok (LittleEndian.ofNat 4 narrow)
      | none => .error .overflowError
    | none => .error .structError

/-- The value of a field of exactly the format's size. -/
def unpackValue (fmt : StructFormat) (data : Bytes) : PyVal :=
  match fmt with
  | .bool => .bool (data.any (· != 0))
  | .B | .H | .I | .Q => .int (LittleEndian.toNat data)
  | .b | .h | .i | .q => .int (LittleEndian.toInt data)
  | .d => .float (LittleEndian.toNat data)
  | .f => .float (ofBinary32 (LittleEndian.toNat data))

/-- `struct.unpack(fmt, data)[0]` -/
def structUnpack (fmt : StructFormat) (data : Bytes) : Result PyVal :=
  if data.length = fmt.size then .ok (unpackValue fmt data) else .error .structError

/-- `struct.unpack_from(fmt, data, offset)[0]` -/
def structUnpackFrom (fmt : StructFormat) (data : Bytes) (offset : Nat) : Result PyVal :=
  if offset + fmt.size ≤ data.length then .ok (unpackValue fmt ((data.drop offset).take fmt.size))
  else .error .structError

example : toBinary32 0x3FF8000000000000 = some 0x3FC00000 := by decide
example : ofBinary32 0x3FC00000 = 0x3FF8000000000000 := by decide
example : binary64OfInt (-3) = some 0xC008000000000000 := by decide

theorem length_packInt (packed : packInt width signed value = .ok bytes) : bytes.length = width := by
  unfold packInt at packed
  split at packed
  · split at packed
    · cases packed
      exact LittleEndian.length_ofInt ..
    · cases packed
  · cases packed

/-- A packed value takes exactly the bytes of its format. -/
theorem length_structPack (packed : structPack fmt value = .ok bytes) : bytes.length = fmt.size := by
  cases fmt with
  | bool => cases packed; rfl
  | d =>
    simp only [structPack] at packed
    split at packed <;> cases packed
    exact LittleEndian.length_ofNat ..
  | f =>
    simp only [structPack] at packed
    split at packed
    · split at packed <;> cases packed
      exact LittleEndian.length_ofNat ..
    · cases packed
  | _ => exact length_packInt packed

/-- A whole field can be unpacked, whatever it contains. -/
theorem structUnpack_of_length (fits : data.length = fmt.size) :
    structUnpack fmt data = .ok (unpackValue fmt data) :=
  if_pos fits

/-- The values a format gives back as they were: `bool` for `?`, and an
integer within the range of an integer format. -/
def Representable (fmt : StructFormat) (value : PyVal) : Prop :=
  match fmt with
  | .bool => ∃ b, value = .bool b
  | .B | .H | .I | .Q => ∃ i, value = .int i ∧ IntFits fmt.size false i
  | .b | .h | .i | .q => ∃ i, value = .int i ∧ IntFits fmt.size true i
  | .d => ∃ bits < 256 ^ fmt.size, value = .float bits
  | .f => False

private theorem packInt_unsigned (fits : IntFits width false i) :
    ∃ bytes, packInt width false (.int i) = .ok bytes ∧ bytes.length = width ∧
      (LittleEndian.toNat bytes : Int) = i := by
  refine ⟨_, by simp [packInt, PyVal.asInt?, fits], LittleEndian.length_ofInt width i, ?_⟩
  simp only [IntFits, Bool.false_eq_true, ↓reduceIte] at fits
  have residue : i % 256 ^ width = i := Int.emod_eq_of_lt (by omega) (by omega)
  have bound : i.toNat < 256 ^ width := by
    zify
    omega
  rw [LittleEndian.ofInt, residue, LittleEndian.toNat_ofNat_of_lt bound, Int.toNat_of_nonneg (by omega)]

private theorem packInt_signed (fits : IntFits width true i) :
    ∃ bytes, packInt width true (.int i) = .ok bytes ∧ bytes.length = width ∧
      LittleEndian.toInt bytes = i := by
  refine ⟨_, by simp [packInt, PyVal.asInt?, fits], LittleEndian.length_ofInt width i, ?_⟩
  simp only [IntFits, ↓reduceIte] at fits
  exact LittleEndian.toInt_ofInt fits.1 fits.2

/-- Representable values survive packing and unpacking. -/
theorem structPack_representable (held : Representable fmt value) :
    ∃ bytes, structPack fmt value = .ok bytes ∧ bytes.length = fmt.size ∧
      unpackValue fmt bytes = value := by
  cases fmt with
  | bool =>
    obtain ⟨b, rfl⟩ := held
    cases b <;> exact ⟨_, rfl, rfl, rfl⟩
  | d =>
    obtain ⟨bits, bound, rfl⟩ := held
    refine ⟨_, rfl, LittleEndian.length_ofNat .., ?_⟩
    have same : LittleEndian.toNat (LittleEndian.ofNat 8 bits) = bits :=
      LittleEndian.toNat_ofNat_of_lt bound
    simp [unpackValue, same]
  | f => cases held
  | B | H | I | Q =>
    obtain ⟨i, rfl, fits⟩ := held
    obtain ⟨bytes, packed, length, value⟩ := packInt_unsigned fits
    exact ⟨bytes, packed, length, congrArg PyVal.int value⟩
  | b | h | i | q =>
    obtain ⟨i, rfl, fits⟩ := held
    obtain ⟨bytes, packed, length, value⟩ := packInt_signed fits
    exact ⟨bytes, packed, length, congrArg PyVal.int value⟩

/-- The formats that keep all bits of an integer. -/
def StructFormat.IsInteger (fmt : StructFormat) : Prop := fmt ≠ .bool ∧ fmt ≠ .f ∧ fmt ≠ .d

instance : DecidablePred StructFormat.IsInteger := fun _ => inferInstanceAs (Decidable (_ ∧ _))

theorem packInt_natCast {n : Nat} (bound : n < 256 ^ width) :
    packInt width false (.int n) = .ok (LittleEndian.ofNat width n) := by
  have fits : IntFits width false n := by
    simp only [IntFits, Bool.false_eq_true, ↓reduceIte]
    zify at bound
    omega
  have residue : (n : Int) % 256 ^ width = n := by
    zify at bound
    exact Int.emod_eq_of_lt (by omega) bound
  simp only [packInt, PyVal.asInt?, fits, ↓reduceIte, LittleEndian.ofInt, residue, Int.toNat_natCast]

private theorem packInt_toNat (data : Bytes) :
    packInt data.length false (.int (LittleEndian.toNat data)) = .ok data := by
  rw [packInt_natCast (LittleEndian.toNat_lt data), LittleEndian.ofNat_toNat]

private theorem packInt_toInt (data : Bytes) :
    packInt data.length true (.int (LittleEndian.toInt data)) = .ok data := by
  have fits : IntFits data.length true (LittleEndian.toInt data) := by
    simpa only [IntFits, ↓reduceIte] using LittleEndian.toInt_bounds data
  simp only [packInt, PyVal.asInt?, fits, ↓reduceIte, LittleEndian.ofInt_toInt]

/-- An integer field is packed into the bytes it was unpacked from. -/
theorem structPack_unpackValue (integer : fmt.IsInteger) (length : data.length = fmt.size) :
    structPack fmt (unpackValue fmt data) = .ok data := by
  obtain ⟨notBool, notFloat, notDouble⟩ := integer
  cases fmt with
  | bool => exact absurd rfl notBool
  | f => exact absurd rfl notFloat
  | d => exact absurd rfl notDouble
  | B | H | I | Q =>
    have packed := packInt_toNat data
    rwa [length] at packed
  | b | h | i | q =>
    have packed := packInt_toInt data
    rwa [length] at packed

/-- A boolean is packed like the integer it stands for. -/
theorem structPack_congr (left : first.asInt? = some i) (right : second.asInt? = some i) (fmt : StructFormat) :
    structPack fmt first = structPack fmt second := by
  have truthy {value : PyVal} (held : value.asInt? = some i) : value.truthy = (i != 0) := by
    cases value with
    | int j => cases held; rfl
    | bool b => cases b <;> cases held <;> rfl
    | _ => cases held
  have real {value : PyVal} (held : value.asInt? = some i) : value.asFloat? = binary64OfInt i := by
    cases value with
    | int j => cases held; rfl
    | bool b => cases b <;> cases held <;> rfl
    | _ => cases held
  cases fmt <;> simp only [structPack, packInt, left, right, truthy left, truthy right, real left, real right]

end PyAds
