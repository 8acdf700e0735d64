import PyAds.HandlerLists
import PyAds.ReadAgreement
import PyAds.SumRoundTrip

/-! Values of elementary types, and the bytes from which a list read returns
them. A request for one variable carries the bytes of its `ctypes` class, and a
list write the slot of its item. -/
namespace PyAds
open Fallible

/-- A value of a numeric type. A real number of 32 bits is one that rounding
leaves as it is. -/
def NumberType.Valid (t : NumberType) (value : PyVal) : Prop :=
  match t with
  | .real => ∃ bits narrow, bits < 2 ^ 64 ∧ value = .float bits ∧ toBinary32 bits = some narrow ∧
      ofBinary32 narrow = bits
  | .lreal => ∃ bits, bits < 2 ^ 64 ∧ value = .float bits
  | t => FitsNumber t.ctype value

namespace ElementaryType

/-- A value of a type; arrays have none here. -/
def Valid (type : ElementaryType) (value : PyVal) : Prop :=
  match type with
  | .number t => t.Valid value
  | .string n => FitsText .utf8 (n + 1) value
  | .wstring n => FitsText .utf16 (2 * (n + 1)) value
  | .array .. => False

/-- The data is that of a text and its terminator, whatever follows. -/
def StoresText (coding : TextCoding) (size : Nat) (data : Bytes) (value : PyVal) : Prop :=
  data.length = size ∧ ∃ encoded rest, EncodedIn coding size value encoded ∧
    data = encoded ++ (List.replicate coding.unit 0 ++ rest)

/-- The data holds the value in the type's own representation. -/
def Stores (type : ElementaryType) (data : Bytes) (value : PyVal) : Prop :=
  match type with
  | .number t => data.length = t.ctype.sizeof ∧ PyVal.Same .plain (unpackValue t.ctype.format data) value
  | .string n => StoresText .utf8 (n + 1) data value
  | .wstring n => StoresText .utf16 (2 * (n + 1)) data value
  | .array .. => False

/-- A list read of the whole data returns the value. -/
def Reads (type : ElementaryType) (data : Bytes) (value : PyVal) : Prop :=
  data.length = type.size ∧ ∀ symbol, PyAds.itemKind false symbol = .ok type.itemKind →
    symbol.size.toNat = type.size → ∃ back, readItem false symbol data 0 = .ok back ∧ PyVal.Same .plain back value

/-- A negative `SINT`, which a list read takes for an unsigned number. -/
def Misread (type : ElementaryType) (value : PyVal) : Prop :=
  type = .number .sint ∧ ∃ i < 0, value.asInt? = some i

/-- The text takes all of the variable but its terminator. -/
def Fills (type : ElementaryType) (value : PyVal) : Prop :=
  match type with
  | .string n => ∃ text encoded, value = .str text ∧ encodeUtf8 text = .ok encoded ∧ encoded.length = n
  | .wstring _ => False
  | _ => True

/-! ## Reading -/

section Reading
variable {type : ElementaryType} {data : Bytes} {value : PyVal}

theorem reads_text (coding : TextCoding) (kind : type.itemKind = .text coding)
    (stored : StoresText coding type.size data value) : type.Reads data value := by
  obtain ⟨length, encoded, rest, ⟨text, rfl, encoding, nulFree, room⟩, shape⟩ := stored
  refine ⟨length, ?_⟩
  intro symbol known size
  refine ⟨.str text, ?_, .refl _⟩
  have whole : (data.take (0 + symbol.size.toNat)).drop 0 = data := by
    rw [size, ← length, Nat.zero_add, List.take_length, List.drop_zero]
  have found : coding.nullIdx data = .ok encoded.length := by
    rw [shape]
    exact TextCoding.nullIdx_encoded encoding nulFree rest
  have front : (data.drop 0).take encoded.length = encoded := by
    rw [shape, List.drop_zero, List.take_left]
  simp only [readItem, known, kind, bind, Except.bind, readText, whole, found, front,
    (TextCoding.encode_spec encoding).2]
  rfl

theorem reads_number {t : NumberType} (length : data.length = t.ctype.sizeof)
    (same : PyVal.Same .plain (unpackValue t.idCtype.format data) value) : (number t).Reads data value := by
  refine ⟨length, ?_⟩
  intro symbol known size
  refine ⟨_, ?_, same⟩
  have room : 0 + t.idCtype.format.size ≤ data.length := by
    rw [CType.size_format, t.sizeof_idCtype, length]
    omega
  have whole : (data.drop 0).take t.idCtype.format.size = data := by
    rw [CType.size_format, t.sizeof_idCtype, ← length, List.drop_zero, List.take_length]
  simp only [readItem, known, itemKind, bind, Except.bind]
  rw [structUnpackFrom, if_pos room, whole]

/-- What is stored is returned, but for a negative `SINT`. -/
theorem reads_of_stores (stored : type.Stores data value) (agrees : ¬ type.Misread value) :
    type.Reads data value := by
  cases type with
  | number t =>
    obtain ⟨length, same⟩ := stored
    apply reads_number length
    by_cases signed : t = .sint
    · subst signed
      have worth : value.asInt? = some (LittleEndian.toInt data) := by
        cases same with
        | refl => rfl
        | number left right => exact right.trans left.symm
      have positive : 0 ≤ LittleEndian.toInt data := by
        by_contra negative
        exact agrees ⟨rfl, _, by omega, worth⟩
      have equal : (LittleEndian.toNat data : Int) = LittleEndian.toInt data := by
        have bound := LittleEndian.toNat_lt data
        unfold LittleEndian.toInt at positive ⊢
        split at positive
        · rename_i small
          rw [if_pos small]
        · zify at bound
          omega
      exact .number (congrArg some equal) worth
    · have own : t.idCtype = t.ctype := by
        cases t with
        | sint => exact absurd rfl signed
        | _ => rfl
      rwa [own]
  | string n => exact reads_text .utf8 rfl stored
  | wstring n => exact reads_text .utf16 rfl stored
  | array lower upper t => exact stored.elim

/-- A negative number is never returned for a `SINT`. -/
theorem not_same_of_misread (typeId : symbol.dataType.toNat = NumberType.sint.typeId)
    (read : readItem false symbol data offset = .ok back) (negative : i < 0) (worth : value.asInt? = some i) :
    ¬ PyVal.Same .plain back value := by
  have shape : (∃ n : Nat, back = .int n) ∨ ∃ items, back = .list items := by
    unfold readItem at read
    rw [itemKind_number typeId] at read
    split at read
    · simp only [bind, Except.bind] at read
      split at read
      · split at read
        · cases read
        · cases read
          exact Or.inr ⟨_, rfl⟩
      · cases read
    · have unpacked : structUnpackFrom .B data offset = .ok back := read
      unfold structUnpackFrom at unpacked
      split at unpacked
      · cases unpacked
        exact Or.inl ⟨_, rfl⟩
      · cases unpacked
  intro same
  rcases shape with ⟨n, rfl⟩ | ⟨items, rfl⟩
  · cases same with
    | refl =>
      cases worth
      omega
    | number left right =>
      cases left
      cases right.symm.trans worth
      omega
  · cases same with
    | refl => cases worth
    | number left => cases left
    | list => cases worth

/-- A text that is too short for its type is read as an array without elements. -/
theorem readItem_short (coding : TextCoding) (n : Nat) (chars : getNumOfChars symbol.symbolType = (n : Nat))
    (short : symbol.size.toNat < coding.unit * (n + 1))
    (kind : PyAds.itemKind false symbol = .ok (stringKind coding symbol)) :
    readItem false symbol data offset = .ok (.list []) := by
  have texts : stringKind coding symbol = .texts coding (coding.unit * ((n : Int) + 1)) := by
    have differ : ((n : Nat) : Int) ≠ -1 ∧ (symbol.size.toNat : Int) ≠ coding.unit * ((n : Int) + 1) := by
      refine ⟨by omega, ?_⟩
      intro same
      have equal : symbol.size.toNat = coding.unit * (n + 1) := by exact_mod_cast same
      omega
    rw [stringKind, chars]
    exact if_pos differ
  have none_ : Int.tdiv symbol.size.toNat (coding.unit * ((n : Int) + 1)) = 0 := by
    apply Int.tdiv_eq_zero_of_lt
    · omega
    · exact_mod_cast short
  simp only [readItem, kind, texts, bind, Except.bind, none_]
  rfl

end Reading

end ElementaryType

/-! ## Numbers -/

theorem toBinary32_lt (bound : bits < 2 ^ 64) (rounded : toBinary32 bits = some narrow) : narrow < 256 ^ 4 := by
  have sign : bits / 2 ^ 63 ≤ 1 := by omega
  have total (magnitude : Nat) (small : magnitude < 255 * 2 ^ 23) : bits / 2 ^ 63 * 2 ^ 31 + magnitude < 256 ^ 4 := by
    omega
  unfold toBinary32 at rounded
  simp only at rounded
  split at rounded
  · split at rounded <;> cases rounded <;> omega
  · split at rounded
    · cases rounded
      omega
    · split at rounded
      · split at rounded <;> cases rounded
        exact total _ (by assumption)
      · split at rounded <;> cases rounded
        exact total _ (by assumption)

/-- A valid number is packed into the bytes from which an equal one is
unpacked; for a `SINT` this is so where it is not negative. -/
theorem NumberType.exists_packed {t : NumberType} (valid : t.Valid value)
    (agrees : ¬ (ElementaryType.number t).Misread value) : ∃ part, PackedIn .plain t.idCtype value part := by
  cases t with
  | real =>
    obtain ⟨bits, narrow, bound, rfl, rounded, widened⟩ := valid
    refine ⟨LittleEndian.ofNat 4 narrow, ?_, LittleEndian.length_ofNat .., ?_⟩
    · simp only [idCtype, ctype, CType.format, structPack, PyVal.asFloat?, rounded]
    · have same : unpackValue .f (LittleEndian.ofNat 4 narrow) = .float bits := by
        rw [unpackValue, LittleEndian.toNat_ofNat_of_lt (toBinary32_lt bound rounded), widened]
      exact same ▸ .refl _
  | lreal =>
    obtain ⟨bits, bound, rfl⟩ := valid
    have representable : Representable .d (.float bits) :=
      ⟨bits, bound.trans_eq (by norm_num [StructFormat.size]), rfl⟩
    obtain ⟨part, packed, length, same⟩ := structPack_representable representable
    exact ⟨part, packed, length, same ▸ .refl _⟩
  | sint =>
    apply structPack_fits
    obtain ⟨canonical, i, held, left, right⟩ := valid
    obtain ⟨j, rfl, fits⟩ := held
    cases left
    have positive : 0 ≤ i := by
      by_contra negative
      exact agrees ⟨rfl, i, by omega, right⟩
    refine ⟨.int i, i, ⟨i, rfl, ?_⟩, rfl, right⟩
    have below : 2 * i < 256 ^ 1 := fits.2
    exact ⟨by simp only [Bool.false_eq_true, ↓reduceIte]; omega, by
      simp only [Bool.false_eq_true, ↓reduceIte, NumberType.idCtype, CType.format, StructFormat.size]; omega⟩
  | _ => exact structPack_fits valid .plain

/-- A `ctypes` class takes what its format packs, and has the same bytes. -/
theorem CType.fromValue_packed {ctype : CType} (packed : structPack ctype.format value = .ok part) :
    ctype.fromValue value = .ok part := by
  have integer {width : Nat} {signed : Bool} (packed : packInt width signed value = .ok part) :
      ∃ i, value.asInt? = some i ∧ part = LittleEndian.ofInt width i := by
    unfold packInt at packed
    cases worth : value.asInt? with
    | none =>
      rw [worth] at packed
      cases packed
    | some i =>
      rw [worth] at packed
      simp only at packed
      split at packed
      · cases packed
        exact ⟨i, rfl, rfl⟩
      · cases packed
  cases ctype with
  | bool => exact packed
  | float =>
    simp only [format, structPack] at packed
    cases real : value.asFloat? with
    | none =>
      rw [real] at packed
      cases packed
    | some bits =>
      rw [real] at packed
      simp only at packed
      split at packed
      · rename_i narrow rounded
        cases packed
        simp only [fromValue, real, rounded, Option.getD_some]
      · cases packed
  | double =>
    simp only [format, structPack] at packed
    cases real : value.asFloat? with
    | none =>
      rw [real] at packed
      cases packed
    | some bits =>
      rw [real] at packed
      cases packed
      simp only [fromValue, real]
  | _ =>
    obtain ⟨i, worth, rfl⟩ := integer packed
    simp only [fromValue, worth]
    rfl

/-- The request for a number carries the bytes that a list write packs. -/
theorem requestData_number {t : NumberType} (packed : PackedIn order t.idCtype value part) :
    requestData (some (.ctypes (.simple t.ctype))) value = .ok part := by
  have taken := CType.fromValue_packed packed.1
  cases t with
  | _ => exact taken

/-! ## Requests and slots -/

namespace ElementaryType

/-- The data types that a call may name for a variable of the type. -/
def Takes (type : ElementaryType) (plcDatatype : PlcDataType) : Prop :=
  match type with
  | .number t => plcDatatype = .ctypes (.simple t.ctype)
  | .string _ => typeIsString plcDatatype = true
  | .wstring _ => typeIsWstring plcDatatype = true
  | .array .. => False

section Requests
variable {type : ElementaryType} {value : PyVal}

theorem takes_plcType (valid : type.Valid value) : type.Takes type.plcType := by
  cases type with
  | number t => rfl
  | string n => rfl
  | wstring n => rfl
  | array lower upper t => exact valid.elim

theorem requestData_string (string : typeIsString plcDatatype = true)
    (encoding : EncodedIn .utf8 room value encoded) :
    requestData (some plcDatatype) value = .ok (encoded ++ [0]) := by
  obtain ⟨text, rfl, encodes, nulFree, -⟩ := encoding
  have clear : beforeZero encoded = encoded := by
    obtain ⟨chars, rfl, same⟩ := encodeUtf8_eq_ok_iff.mp encodes
    rw [same]
    exact beforeZero_encode fun member => nulFree (List.mem_map_of_mem member)
  have utf8 : encodeUtf8 text = .ok encoded := encodes
  cases plcDatatype with
  | ctypes type => simp only [requestData, string, ↓reduceIte, utf8, bind, Except.bind, clear, pure, Except.pure]
  | wstring => cases string
  | arrayFunction element => cases string

theorem requestData_wstring (wide : typeIsWstring plcDatatype = true)
    (encoding : EncodedIn .utf16 room value encoded) :
    requestData (some plcDatatype) value = .ok encoded := by
  obtain ⟨text, rfl, encodes, -, -⟩ := encoding
  cases plcDatatype with
  | wstring => exact encodes
  | ctypes type => cases wide
  | arrayFunction element => cases wide

/-- A text fills a string exactly if its encoding is as long as the string. -/
theorem fills_string_iff (encoding : EncodedIn .utf8 room value encoded) :
    (string n).Fills value ↔ encoded.length = n := by
  obtain ⟨text, rfl, encodes, -, -⟩ := encoding
  constructor
  · rintro ⟨text', encoded', same, encodes', length⟩
    cases same
    cases encodes.symm.trans encodes'
    exact length
  · intro length
    exact ⟨text, encoded, rfl, encodes, length⟩

/-- A request for one variable carries data that is read back, if a text fills
its variable and a `SINT` is not negative. -/
theorem requestData_reads (takes : type.Takes plcDatatype) (valid : type.Valid value) (agrees : ¬ type.Misread value)
    (fills : type.Fills value) : ∃ data, requestData (some plcDatatype) value = .ok data ∧ type.Reads data value := by
  cases type with
  | number t =>
    obtain ⟨part, packed⟩ := NumberType.exists_packed valid agrees
    cases takes
    refine ⟨part, requestData_number packed, reads_number ?_ packed.2.2⟩
    rw [packed.2.1, t.sizeof_idCtype]
  | string n =>
    obtain ⟨encoded, encoding⟩ := valid
    have length := (fills_string_iff encoding).mp fills
    refine ⟨_, requestData_string takes encoding, reads_text .utf8 rfl ⟨?_, encoded, [], encoding, rfl⟩⟩
    simp [length, size]
  | wstring n => exact fills.elim
  | array lower upper t => exact valid.elim

/-- Only texts may leave a part of their variable. -/
theorem text_of_unfilled (valid : type.Valid value) (unfilled : ¬ type.Fills value) : ∃ text, value = .str text := by
  cases type with
  | number t => exact absurd trivial unfilled
  | string n =>
    obtain ⟨encoded, text, same, -⟩ := valid
    exact ⟨text, same⟩
  | wstring n =>
    obtain ⟨encoded, text, same, -⟩ := valid
    exact ⟨text, same⟩
  | array lower upper t => exact valid.elim

/-- A text that does not fill its variable makes it shorter. -/
theorem requestData_short (takes : type.Takes plcDatatype) (valid : type.Valid value) (short : ¬ type.Fills value) :
    ∃ data, requestData (some plcDatatype) value = .ok data ∧ data.length < type.size := by
  cases type with
  | number t => exact absurd trivial short
  | string n =>
    obtain ⟨encoded, encoding⟩ := valid
    refine ⟨_, requestData_string takes encoding, ?_⟩
    rw [fills_string_iff encoding] at short
    obtain ⟨text, -, -, -, room⟩ := encoding
    simp only [TextCoding.unit, List.length_append, List.length_singleton, size] at room ⊢
    omega
  | wstring n =>
    obtain ⟨encoded, encoding⟩ := valid
    refine ⟨_, requestData_wstring takes encoding, ?_⟩
    obtain ⟨text, -, -, -, room⟩ := encoding
    simp only [TextCoding.unit, size] at room ⊢
    omega
  | array lower upper t => exact valid.elim

/-- A variable that a text has made shorter is read as an array without elements. -/
theorem readItem_of_short (unfilled : ¬ type.Fills value) (name : symbol.symbolType = type.name)
    (typeId : symbol.dataType.toNat = type.typeId) (short : symbol.size.toNat < type.size) :
    readItem false symbol data offset = .ok (.list []) := by
  cases type with
  | number t => exact absurd trivial unfilled
  | string n =>
    apply readItem_short .utf8 n
    · rw [name, getNumOfChars_string]
    · simpa [TextCoding.unit, size] using short
    · simp only [PyAds.itemKind, typeId, ElementaryType.typeId]
      rfl
  | wstring n =>
    apply readItem_short .utf16 n
    · rw [name, getNumOfChars_wstring]
    · simpa [TextCoding.unit, size] using short
    · simp only [PyAds.itemKind, typeId, ElementaryType.typeId]
      rfl
  | array lower upper t => exact absurd trivial unfilled

theorem readItem_congr (kind : PyAds.itemKind structured symbol = PyAds.itemKind structured other)
    (size : symbol.size = other.size) :
    readItem structured symbol data offset = readItem structured other data offset := by
  simp only [readItem, kind, size]

/-- In a list write a value that is valid leaves a slot from which it is read
back, if it is no negative `SINT`. -/
theorem exists_slot (valid : type.Valid value) (agrees : ¬ type.Misread value)
    (kind : PyAds.itemKind false symbol = .ok type.itemKind) (size : symbol.size.toNat = type.size) :
    ∃ slot, FillsSlot false symbol value slot ∧ type.Reads slot value := by
  obtain ⟨slot, back, written⟩ : ∃ slot back, WrittenItem .plain false symbol value slot back := by
    have holds := holdsElement_elementary kind size
    have text {coding : TextCoding} (texts : type.itemKind = .text coding) (fits : FitsText coding type.size value) :
        FitsItem false symbol value := by
      rw [FitsItem, kind, texts, size]
      exact fits
    cases type with
    | number t =>
      obtain ⟨part, packed⟩ := NumberType.exists_packed valid agrees
      exact ⟨_, _, writtenItem_packed kind holds packed⟩
    | string n => exact exists_writtenItem holds (text rfl valid) .plain
    | wstring n => exact exists_writtenItem holds (text rfl valid) .plain
    | array lower upper t => exact valid.elim
  refine ⟨slot, written.toFillsSlot, written.length.trans size, ?_⟩
  intro other otherKind otherSize
  refine ⟨back, ?_, written.same⟩
  rw [← written.read]
  exact readItem_congr (otherKind.trans kind.symm) (UInt32.toNat_inj.mp (otherSize.trans size.symm))

end Requests

end ElementaryType

end PyAds
