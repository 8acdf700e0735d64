import PyAds.SumReplies
import PyAds.SumWriteItems

/-! A sum write followed by a sum read. While the values are written one
after the other, everything behind the current item is still blank. A value
that fits its slot once it is encoded leaves a slot from which it is read
back, and a blank region behind it, which may have grown. -/
namespace PyAds
open Buffer Fallible SlotSequence

/-! ## Values that fit -/

/-- A NUL-free text that leaves room for its terminator once it is encoded. -/
def EncodedIn (coding : TextCoding) (room : Nat) (value : PyVal) (encoded : Bytes) : Prop :=
  ∃ text, value = .str text ∧ coding.encode text = .ok encoded ∧ .scalar '\x00' ∉ text ∧
    encoded.length + coding.unit ≤ room

def FitsText (coding : TextCoding) (room : Nat) (value : PyVal) : Prop :=
  ∃ encoded, EncodedIn coding room value encoded

/-- An integer or boolean in the range of a type. -/
def FitsNumber (ctype : CType) (value : PyVal) : Prop :=
  ∃ canonical i, Representable ctype.format canonical ∧ canonical.asInt? = some i ∧ value.asInt? = some i

/-- A value that fits its item. -/
def FitsItem (structured : Bool) (symbol : SAdsSymbolEntry) (value : PyVal) : Prop :=
  match itemKind structured symbol with
  | .ok .structured => ∃ bytes : Bytes, bytes.length = symbol.size.toNat ∧ value = .ofBytes bytes
  | .ok (.texts coding elementSize) => ∃ elements, value = .list elements ∧
      (elements.length : Int) = Int.tdiv symbol.size.toNat elementSize ∧
      ∀ element ∈ elements, FitsText coding elementSize.toNat element
  | .ok (.text coding) => FitsText coding symbol.size.toNat value
  | .ok (.array ctype count) => ∃ elements, value = .list elements ∧ elements.length = count ∧
      ∀ element ∈ elements, FitsNumber ctype element
  | .ok (.scalar ctype) => FitsNumber ctype value
  | .error _ => False

/-! ## Texts -/

namespace TextCoding

theorem encode_ofChars (coding : TextCoding) (chars : List Char) :
    ∃ encoded, coding.encode (Text.ofChars chars) = .ok encoded ∧ coding.unit * chars.length ≤ encoded.length ∧
      coding.decode encoded = .ok (Text.ofChars chars) := by
  cases coding with
  | utf8 =>
    refine ⟨_, encodeUtf8_ofChars chars, ?_, decodeUtf8_encode chars⟩
    have least := Text.Utf8.length_le_encode chars
    simp only [unit]
    omega
  | utf16 => exact ⟨_, encodeUtf16_ofChars chars, Text.Utf16.length_le_encode chars, decodeUtf16_encode chars⟩

theorem ofChars_of_encode (encoding : encode coding text = .ok encoded) :
    ∃ chars, text = Text.ofChars chars := by
  cases coding with
  | utf8 => exact (encodeUtf8_eq_ok_iff.mp encoding).imp fun _ => And.left
  | utf16 => exact (encodeUtf16_eq_ok_iff.mp encoding).imp fun _ => And.left

/-- An encoding takes at least one unit for each character and is decoded
again. -/
theorem encode_spec (encoding : encode coding text = .ok encoded) :
    coding.unit * text.length ≤ encoded.length ∧ coding.decode encoded = .ok text := by
  obtain ⟨chars, rfl⟩ := ofChars_of_encode encoding
  obtain ⟨other, same, least, decoded⟩ := encode_ofChars coding chars
  cases encoding.symm.trans same
  exact ⟨by rwa [Text.length_ofChars], decoded⟩

/-- The terminator of a NUL-free text is found right behind it. -/
theorem nullIdx_encoded (encoding : encode coding text = .ok encoded) (nulFree : .scalar '\x00' ∉ text)
    (rest : Bytes) : coding.nullIdx (encoded ++ (List.replicate coding.unit 0 ++ rest)) = .ok encoded.length := by
  obtain ⟨chars, rfl⟩ := ofChars_of_encode encoding
  have clear : '\x00' ∉ chars := fun member => nulFree (List.mem_map_of_mem member)
  cases coding with
  | utf8 =>
    cases (encodeUtf8_ofChars chars).symm.trans encoding
    have found : (Text.Utf8.encode chars ++ (List.replicate 1 0 ++ rest)).findIdx? (· == 0) =
        some (Text.Utf8.encode chars).length := by
      rw [List.findIdx?_append, List.findIdx?_eq_none_iff.mpr fun byte member => ?_]
      · simp [List.findIdx?_cons]
      · have notZero : byte ≠ 0 := by
          rintro rfl
          exact clear (Text.Utf8.zero_mem_encode member)
        simpa using notZero
    simp only [nullIdx, unit, found]
  | utf16 =>
    cases (encodeUtf16_ofChars chars).symm.trans encoding
    have found := find_encode clear rest
    simp [nullIdx, unit, List.replicate_succ, found]

end TextCoding

/-- A text in a slot with a terminator behind it. -/
def paddedText (room : Nat) (encoded : Bytes) : Bytes :=
  encoded ++ List.replicate (room - encoded.length) 0

/-- A padded text is read back, wherever the search for its terminator may
end behind its slot. -/
theorem readText_padded (encoding : coding.encode text = .ok encoded) (nulFree : .scalar '\x00' ∉ text)
    (fits : encoded.length + coding.unit ≤ room) (before after : Bytes) (reach : Nat)
    (enough : room ≤ reach) :
    readText coding (before ++ (paddedText room encoded ++ after)) before.length (before.length + reach) =
      .ok (.str text) := by
  obtain ⟨blank, split⟩ : ∃ blank, room - encoded.length = coding.unit + blank :=
    ⟨room - encoded.length - coding.unit, by omega⟩
  have shape : paddedText room encoded ++ after =
      encoded ++ (List.replicate coding.unit 0 ++ (List.replicate blank 0 ++ after)) := by
    simp only [paddedText, split, List.replicate_add, List.append_assoc]
  obtain ⟨more, window⟩ : ∃ more, reach = encoded.length + (coding.unit + more) :=
    ⟨reach - encoded.length - coding.unit, by omega⟩
  have taken : (paddedText room encoded ++ after).take reach =
      encoded ++ (List.replicate coding.unit 0 ++ (List.replicate blank 0 ++ after).take more) := by
    rw [shape, window, List.take_length_add_append]
    have terminator : (List.replicate coding.unit (0 : UInt8) ++ (List.replicate blank 0 ++ after)).take
        ((List.replicate coding.unit (0 : UInt8)).length + more) = _ := List.take_length_add_append more
    rw [List.length_replicate] at terminator
    rw [terminator]
  simp only [readText, List.take_length_add_append, List.drop_left, taken,
    TextCoding.nullIdx_encoded encoding nulFree, bind, Except.bind]
  rw [shape, List.take_left, (TextCoding.encode_spec encoding).2]
  rfl

/-- A text that fits is written in its slot, and a blank region remains. -/
theorem writeText_blank (encoding : coding.encode text = .ok encoded) (before : Bytes) (room : Nat)
    (fits : encoded.length ≤ room) (blank : room ≤ m) :
    ∃ m', m - room ≤ m' ∧ writeText coding (before ++ List.replicate m 0) before.length (.str text) =
      .ok (before ++ paddedText room encoded ++ List.replicate m' 0) := by
  have least := (TextCoding.encode_spec encoding).1
  refine ⟨m - coding.unit * text.length - (room - encoded.length), by omega, ?_⟩
  have rest : List.replicate (m - coding.unit * text.length) (0 : UInt8) =
      List.replicate (room - encoded.length) 0 ++
        List.replicate (m - coding.unit * text.length - (room - encoded.length)) 0 := by
    rw [← List.replicate_add]
    congr 1
    omega
  have written := replace_append before (List.replicate m 0) 0 (coding.unit * text.length) encoded
  rw [Nat.add_zero, replace_replicate, rest] at written
  have assigned := assignSlice_eq_replace (before ++ List.replicate m 0) before.length
    (coding.unit * text.length) encoded
  rw [written] at assigned
  simp only [writeText, encoding, bind, Except.bind, pure, Except.pure, paddedText]
  push_cast at assigned
  rw [assigned]
  simp

/-- The elements of a string array, each in a slot of its own. -/
theorem writeTexts_blank (each : List.Forall₂ (EncodedIn coding room) elements encodings) (offset i : Nat)
    (before : Bytes) (start : before.length = offset + room * i) (blank : room * elements.length ≤ m) :
    ∃ m', m - room * elements.length ≤ m' ∧
      writeTexts coding room offset elements i (before ++ List.replicate m 0) =
        .ok (before ++ (encodings.map (paddedText room)).flatten ++ List.replicate m' 0) := by
  induction each generalizing i before m with
  | nil => exact ⟨m, by simp, by simp [writeTexts]⟩
  | @cons element encoded elements encodings here _ ih =>
    obtain ⟨text, rfl, encoding, nulFree, fits⟩ := here
    rw [List.length_cons, Nat.mul_succ] at blank
    obtain ⟨middle, atLeast, written⟩ := writeText_blank encoding before room (m := m)
      (by omega) (by omega)
    have width : (paddedText room encoded).length = room := by
      simp only [paddedText, List.length_append, List.length_replicate]
      omega
    obtain ⟨m', atLeast', rest⟩ := ih (i + 1) (before ++ paddedText room encoded)
      (m := middle) (by rw [List.length_append, width, start, Nat.mul_succ, Nat.add_assoc]) (by omega)
    refine ⟨m', ?_, ?_⟩
    · rw [List.length_cons, Nat.mul_succ]
      omega
    · have position : (offset : Int) + (room : Int) * (i : Int) = (before.length : Nat) := by
        rw [start]
        push_cast
        rfl
      rw [writeTexts, position, written, bind_eq_ok]
      exact ⟨_, rfl, by rw [rest]; simp⟩

/-! ## Numbers -/

/-- The bytes of a number, from which an equal one is unpacked. -/
def PackedIn (order : KeyOrder) (ctype : CType) (value : PyVal) (part : Bytes) : Prop :=
  structPack ctype.format value = .ok part ∧ part.length = ctype.sizeof ∧
    PyVal.Same order (unpackValue ctype.format part) value

/-- A number that fits is packed into the bytes from which an equal one is
unpacked. -/
theorem structPack_fits (fits : FitsNumber ctype value) (order : KeyOrder) :
    ∃ part, PackedIn order ctype value part := by
  obtain ⟨canonical, i, held, left, right⟩ := fits
  obtain ⟨part, packed, length, back⟩ := structPack_representable held
  exact ⟨part, (structPack_congr right left ctype.format).trans packed, length.trans ctype.size_format,
    back ▸ .number left right⟩

theorem length_of_mem_packed (packed : List.Forall₂ (PackedIn order ctype) elements parts) :
    ∀ part ∈ parts, part.length = ctype.sizeof := by
  intro part member
  obtain ⟨element, -, -, width, -⟩ := exists_of_mem_right packed member
  exact width

/-- Numbers packed at the front of a blank region. -/
theorem packInto_blank {parts : List Bytes} (packed : List.Forall₂ (PackedIn order ctype) elements parts)
    (before : Bytes) (blank : elements.length * ctype.sizeof ≤ m) :
    packInto ctype.format elements.length (before ++ List.replicate m 0) before.length elements =
      .ok (before ++ parts.flatten ++ List.replicate (m - elements.length * ctype.sizeof) 0) := by
  have total : parts.flatten.length = elements.length * ctype.sizeof := by
    rw [length_flatten_blocks (length_of_mem_packed packed), packed.length_eq]
  refine packInto_eq_ok.mpr ⟨rfl, ?_, _, concatM_of_forall₂ (packed.imp fun _ _ here => here.1), ?_⟩
  · rw [CType.size_format, List.length_append, List.length_replicate]
    omega
  · have written := replace_append before (List.replicate m 0) 0 parts.flatten.length parts.flatten
    rw [Nat.add_zero, replace_replicate, total] at written
    rw [overwrite_eq_replace, total, written, List.append_assoc]

/-- The numbers packed at the front of a slot are unpacked one by one. -/
theorem unpack_parts {ctype : CType} {parts : List Bytes}
    (widths : ∀ part ∈ parts, part.length = ctype.sizeof) (rest : Bytes) :
    (List.range parts.length).mapM (fun i =>
      structUnpackFrom ctype.format (parts.flatten ++ rest) (i * ctype.sizeof)) =
      .ok (parts.map (unpackValue ctype.format)) := by
  refine mapM_eq_ok.mpr (List.forall₂_iff_get.mpr ⟨by simp, fun i before _ => ?_⟩)
  have inside : i < parts.length := by simpa using before
  have total := length_flatten_blocks widths
  have width := widths _ (List.getElem_mem inside)
  have step : i * ctype.sizeof + ctype.sizeof ≤ parts.length * ctype.sizeof := by
    rw [← Nat.succ_mul]
    exact Nat.mul_le_mul_right _ inside
  have part : ((parts.flatten ++ rest).drop (i * ctype.sizeof)).take ctype.sizeof = parts[i] := by
    rw [List.drop_append_of_le_length (by omega), drop_flatten widths inside.le, List.drop_eq_getElem_cons inside,
      List.flatten_cons, List.append_assoc, ← width, List.take_left]
  simp only [List.get_eq_getElem, List.getElem_range, List.getElem_map, structUnpackFrom, CType.size_format,
    part]
  exact if_pos (by rw [List.length_append]; omega)

/-! ## Items -/

/-- What a written item leaves behind: a slot from which its value is read
back. -/
structure WrittenItem (order : KeyOrder) (structured : Bool) (symbol : SAdsSymbolEntry) (value : PyVal)
    (slot : Bytes) (back : PyVal) : Prop extends FillsSlot structured symbol value slot where
  read : readItem structured symbol slot 0 = .ok back
  same : PyVal.Same order back value

theorem assignable_ofBytes (bytes : Bytes) : assignable (.ofBytes bytes) = .ok bytes := by
  apply mapM_eq_ok.mpr
  rw [List.forall₂_map_left_iff, List.forall₂_same]
  intro byte _
  have bound := byte.toNat_lt
  have small : (byte.toNat : Int) < 256 := by omega
  simp [PyVal.asByte, PyVal.asInt?, small]

/-- The bytes of a structure are its slot. -/
theorem writtenItem_structured (kind : itemKind structured symbol = .ok .structured)
    {bytes : Bytes} (length : bytes.length = symbol.size.toNat) (order : KeyOrder) :
    WrittenItem order structured symbol (.ofBytes bytes) bytes (.ofBytes bytes) := by
  refine ⟨⟨length, fun before m room => ⟨m - symbol.size.toNat, Nat.le_refl _, ?_⟩⟩, ?_, .refl _⟩
  · have assigned := assignSlice_eq_replace (before ++ List.replicate m 0) before.length
      symbol.size.toNat bytes
    have written := replace_append before (List.replicate m 0) 0 symbol.size.toNat bytes
    rw [Nat.add_zero, replace_replicate] at written
    rw [written] at assigned
    simp only [writeItem, kind, assignable_ofBytes, bind, Except.bind, pure, Except.pure, assigned,
      List.append_assoc]
  · simp [readItem, kind, bind, Except.bind, pure, Except.pure, ← length]

private theorem writtenItem_text (kind : itemKind structured symbol = .ok (.text coding))
    (fits : FitsText coding symbol.size.toNat value) (order : KeyOrder) :
    ∃ slot, WrittenItem order structured symbol value slot value := by
  obtain ⟨encoded, text, rfl, encoding, nulFree, room⟩ := fits
  refine ⟨paddedText symbol.size.toNat encoded, ⟨?_, fun before m blank => ?_⟩, ?_, .refl _⟩
  · simp only [paddedText, List.length_append, List.length_replicate]
    omega
  · obtain ⟨m', least, written⟩ := writeText_blank encoding before symbol.size.toNat
      (by omega) blank
    exact ⟨m', least, by simp only [writeItem, kind, bind, Except.bind, written]⟩
  · have read := readText_padded encoding nulFree room [] [] _ (Nat.le_refl _)
    simp only [List.nil_append, List.append_nil, List.length_nil] at read
    simp only [readItem, kind, bind, Except.bind, read]

private theorem length_of_mem_padded {elements : List PyVal} {encodings : List Bytes}
    (each : List.Forall₂ (EncodedIn coding room) elements encodings) :
    ∀ part ∈ encodings.map (paddedText room), part.length = room := by
  intro part member
  obtain ⟨encoded, held, rfl⟩ := List.mem_map.mp member
  obtain ⟨element, -, text, -, -, -, fits⟩ := exists_of_mem_right each held
  simp only [paddedText, List.length_append, List.length_replicate]
  omega

/-- The padded elements of a string array are read back one by one, whatever
follows them. -/
private theorem readTexts_padded {elements : List PyVal} {encodings : List Bytes}
    (each : List.Forall₂ (EncodedIn coding room) elements encodings) (rest : Bytes) :
    (List.range elements.length).mapM (fun j =>
      readText coding ((encodings.map (paddedText room)).flatten ++ rest) (room * j)
        (room * elements.length + rest.length)) = .ok elements := by
  have widths := length_of_mem_padded each
  have count := each.length_eq
  refine mapM_eq_ok.mpr (List.forall₂_iff_get.mpr ⟨by simp, fun j _ inside => ?_⟩)
  have inside' : j < encodings.length := by omega
  obtain ⟨text, same, encoding, nulFree, fits⟩ := (List.forall₂_iff_get.mp each).2 j inside inside'
  have position : j < (encodings.map (paddedText room)).length := by simpa using inside'
  have split : (encodings.map (paddedText room)).flatten =
      ((encodings.map (paddedText room)).take j).flatten ++
        (paddedText room encodings[j] ++ ((encodings.map (paddedText room)).drop (j + 1)).flatten) := by
    have halves := congrArg List.flatten (List.take_append_drop j (encodings.map (paddedText room)))
    rw [List.flatten_append, List.drop_eq_getElem_cons position, List.flatten_cons, List.getElem_map] at halves
    exact halves.symm
  have front : ((encodings.map (paddedText room)).take j).flatten.length = room * j := by
    rw [length_flatten_blocks fun part member => widths part (List.mem_of_mem_take member),
      List.length_take, Nat.min_eq_left position.le, Nat.mul_comm]
  obtain ⟨more, length⟩ : ∃ more, elements.length = j + 1 + more := ⟨elements.length - (j + 1), by omega⟩
  have reach : room * elements.length + rest.length = room * j + (room + (room * more + rest.length)) := by
    rw [length]
    ring
  have read := readText_padded encoding nulFree fits ((encodings.map (paddedText room)).take j).flatten
    (((encodings.map (paddedText room)).drop (j + 1)).flatten ++ rest)
    (room + (room * more + rest.length)) (by omega)
  rw [front, ← List.append_assoc (paddedText _ _), ← List.append_assoc, List.get_eq_getElem, ← split] at read
  simp only [List.get_eq_getElem, List.getElem_range, reach] at same ⊢
  rw [read, same]

private theorem writtenItem_texts {elementSize : Int}
    (kind : itemKind structured symbol = .ok (.texts coding elementSize)) {elements : List PyVal}
    (count : (elements.length : Int) = Int.tdiv symbol.size.toNat elementSize)
    (each : ∀ element ∈ elements, FitsText coding elementSize.toNat element) (order : KeyOrder) :
    ∃ slot, WrittenItem order structured symbol (.list elements) slot (.list elements) := by
  by_cases positive : 0 < elementSize
  · obtain ⟨room, rfl⟩ : ∃ room : Nat, elementSize = room := ⟨elementSize.toNat, by omega⟩
    rw [Int.toNat_natCast] at each
    obtain ⟨encodings, held⟩ := exists_forall₂ each
    have quotient : elements.length = symbol.size.toNat / room := by
      rw [← Int.ofNat_tdiv] at count
      exact_mod_cast count
    obtain ⟨rest, size⟩ : ∃ rest, symbol.size.toNat = room * elements.length + rest :=
      ⟨symbol.size.toNat % room, quotient ▸ (Nat.div_add_mod ..).symm⟩
    have filled : ((encodings.map (paddedText room)).flatten).length = room * elements.length := by
      rw [length_flatten_blocks (length_of_mem_padded held), List.length_map, ← held.length_eq, Nat.mul_comm]
    refine ⟨(encodings.map (paddedText room)).flatten ++ List.replicate rest 0,
      ⟨?_, fun before m blank => ?_⟩, ?_, .refl _⟩
    · rw [List.length_append, filled, List.length_replicate, size]
    · obtain ⟨m', least, written⟩ := writeTexts_blank held before.length 0 before rfl (m := m) (by omega)
      refine ⟨m' - rest, by omega, ?_⟩
      have blanks : List.replicate m' (0 : UInt8) = List.replicate rest 0 ++ List.replicate (m' - rest) 0 := by
        rw [← List.replicate_add]
        congr 1
        omega
      simp only [writeItem, kind, PyVal.iterate, bind, Except.bind, written, blanks, List.append_assoc]
    · have read := readTexts_padded held (List.replicate rest 0)
      rw [List.length_replicate, ← size] at read
      simp only [readItem, kind, bind, Except.bind, ← count, Int.toNat_natCast, Nat.cast_zero, Int.zero_add,
        Nat.zero_add, ← Nat.cast_mul, read]
      rfl
  · -- no element fits a size that is not positive
    have none_ : elements = [] := by
      have least := Int.tdiv_nonpos_of_nonneg_of_nonpos (Int.natCast_nonneg symbol.size.toNat)
        (Int.not_lt.mp positive)
      exact List.eq_nil_of_length_eq_zero (by omega)
    subst none_
    refine ⟨List.replicate symbol.size.toNat 0, ⟨by simp, fun before m blank =>
      ⟨m - symbol.size.toNat, Nat.le_refl _, ?_⟩⟩, ?_, .refl _⟩
    · have blanks : List.replicate m (0 : UInt8) =
          List.replicate symbol.size.toNat 0 ++ List.replicate (m - symbol.size.toNat) 0 := by
        rw [← List.replicate_add]
        congr 1
        omega
      simp only [writeItem, kind, PyVal.iterate, bind, Except.bind, writeTexts, blanks, List.append_assoc]
    · simp only [readItem, kind, bind, Except.bind, ← count]
      rfl

/-- Numbers that can be packed fill the front of their slot. -/
theorem writtenItem_array (kind : itemKind structured symbol = .ok (.array ctype count))
    {elements : List PyVal} (number : elements.length = count)
    (each : ∀ element ∈ elements, ∃ part, PackedIn order ctype element part) :
    ∃ slot back, WrittenItem order structured symbol (.list elements) slot back := by
  have within : count * ctype.sizeof ≤ symbol.size.toNat := by
    rw [(itemKind_array kind).1]
    exact Nat.div_mul_le_self ..
  obtain ⟨rest, size⟩ := Nat.exists_eq_add_of_le within
  obtain ⟨parts, packed⟩ := exists_forall₂ each
  have widths := length_of_mem_packed packed
  have total : parts.flatten.length = count * ctype.sizeof := by
    rw [length_flatten_blocks widths, ← packed.length_eq, number]
  refine ⟨parts.flatten ++ List.replicate rest 0, .list (parts.map (unpackValue ctype.format)),
    ⟨?_, fun before m blank => ⟨m - symbol.size.toNat, Nat.le_refl _, ?_⟩⟩, ?_, ?_⟩
  · rw [List.length_append, total, List.length_replicate, size]
  · have written := packInto_blank packed before (m := m) (by rw [number]; omega)
    have blanks : List.replicate (m - count * ctype.sizeof) (0 : UInt8) =
        List.replicate rest 0 ++ List.replicate (m - symbol.size.toNat) 0 := by
      rw [← List.replicate_add]
      congr 1
      omega
    rw [number, blanks] at written
    simp only [writeItem, kind, PyVal.iterate, bind, Except.bind, written, List.append_assoc]
  · have read := unpack_parts widths (List.replicate rest 0)
    rw [← packed.length_eq, number] at read
    have room : count * ctype.sizeof ≤ (parts.flatten ++ List.replicate rest 0).length := by
      rw [List.length_append, total]
      omega
    simp only [readItem, kind, bind, Except.bind, Nat.zero_add, if_pos room, read]
    rfl
  · refine .list (List.forall₂_map_left_iff.mpr (packed.flip.imp fun _ _ here => here.2.2))

/-- A number that can be packed fills the front of its slot. -/
theorem writtenItem_packed (kind : itemKind structured symbol = .ok (.scalar ctype))
    (holds : HoldsElement structured symbol) (packed : PackedIn order ctype value part) :
    WrittenItem order structured symbol value (part ++ List.replicate (symbol.size.toNat - ctype.sizeof) 0)
      (unpackValue ctype.format part) := by
  obtain ⟨rest, size⟩ := Nat.exists_eq_add_of_le (holds ctype kind)
  have more : symbol.size.toNat - ctype.sizeof = rest := by omega
  obtain ⟨-, width, same⟩ := id packed
  rw [more]
  refine ⟨⟨?_, fun before m blank => ⟨m - symbol.size.toNat, Nat.le_refl _, ?_⟩⟩, ?_, same⟩
  · rw [List.length_append, width, List.length_replicate, size]
  · have written := packInto_blank (.cons packed .nil) before (m := m) (by simp only [List.length_singleton]; omega)
    have blanks : List.replicate (m - 1 * ctype.sizeof) (0 : UInt8) =
        List.replicate rest 0 ++ List.replicate (m - symbol.size.toNat) 0 := by
      rw [← List.replicate_add]
      congr 1
      omega
    simp only [List.length_singleton, List.flatten_singleton, blanks] at written
    simp only [writeItem, kind, bind, Except.bind, written, List.append_assoc]
  · have room : 0 + ctype.format.size ≤ (part ++ List.replicate rest 0).length := by
      rw [CType.size_format, List.length_append, width]
      omega
    simp only [readItem, kind, bind, Except.bind]
    rw [structUnpackFrom, if_pos room, List.drop_zero, CType.size_format, ← width, List.take_left]

/-- A value that fits its item leaves a slot from which it is read back. -/
theorem exists_writtenItem (holds : HoldsElement structured symbol) (fits : FitsItem structured symbol value)
    (order : KeyOrder) : ∃ slot back, WrittenItem order structured symbol value slot back := by
  unfold FitsItem at fits
  split at fits
  · rename_i kind
    obtain ⟨bytes, length, rfl⟩ := fits
    exact ⟨bytes, _, writtenItem_structured kind length order⟩
  · rename_i coding elementSize kind
    obtain ⟨elements, rfl, count, each⟩ := fits
    obtain ⟨slot, written⟩ := writtenItem_texts kind count each order
    exact ⟨slot, _, written⟩
  · rename_i coding kind
    obtain ⟨slot, written⟩ := writtenItem_text kind fits order
    exact ⟨slot, _, written⟩
  · rename_i ctype count kind
    obtain ⟨elements, rfl, number, each⟩ := fits
    exact writtenItem_array kind number fun element member => structPack_fits (each element member) order
  · rename_i ctype kind
    obtain ⟨part, packed⟩ := structPack_fits fits order
    exact ⟨_, _, writtenItem_packed kind holds packed⟩
  · exact fits.elim

/-! ## All items -/

/-- The slot and the value read back of an item. -/
def Written (order : KeyOrder) (structuredDataNames : List String) (item : WriteItem)
    (outcome : Bytes × PyVal) : Prop :=
  WrittenItem order (item.1 ∈ structuredDataNames) item.2.1 item.2.2 outcome.1 outcome.2

private theorem read_slots (each : List.Forall₂ (Written order structuredDataNames) items outcomes) :
    (((items.map Prod.fst).zip (items.map (·.2.1))).zip ((outcomes.map Prod.fst).map (ItemReply.mk 0))).mapM
      (fun item => itemResult (item.1.1 ∈ structuredDataNames) item.1.2 item.2) =
        .ok (outcomes.map Prod.snd) := by
  induction each with
  | nil => rfl
  | @cons item outcome items outcomes here _ ih =>
    have first : itemResult (item.1 ∈ structuredDataNames) item.2.1 ⟨0, outcome.1⟩ = .ok outcome.2 := here.read
    simp only [List.map_cons, List.zip_cons_cons, List.mapM_cons, first, ih]
    rfl

private theorem same_entries (each : List.Forall₂ (Written order structuredDataNames) items outcomes) :
    List.Forall₂ (fun (entry other : String × PyVal) => entry.1 = other.1 ∧ PyVal.Same order entry.2 other.2)
      ((items.map Prod.fst).zip (outcomes.map Prod.snd)) (items.map fun item => (item.1, item.2.2)) := by
  induction each with
  | nil => exact .nil
  | cons here _ ih => exact .cons ⟨rfl, here.same⟩ ih

/-- Dictionaries with the same keys and equal values, entry by entry. -/
theorem same_dict (nodup : (second.map Prod.fst).Nodup) (order : KeyOrder)
    (each : List.Forall₂ (fun entry other => entry.1 = other.1 ∧ PyVal.Same order entry.2 other.2) first second) :
    PyVal.Same order (.dict first) (.dict second) := by
  have keys : first.map Prod.fst = second.map Prod.fst := by
    have same := List.forall₂_map_right_iff.mpr (List.forall₂_map_left_iff.mpr (each.imp fun _ _ here => here.1))
    rwa [List.forall₂_eq_eq_eq] at same
  refine .dict ?_ fun key value other left right => ?_
  · rw [keys]
    cases order with
    | ordered => rfl
    | plain => exact .refl _
  · obtain ⟨⟨key', value'⟩, held, sameKey, same⟩ := exists_of_mem_right each.flip left
    obtain rfl : key = key' := sameKey
    have found := OrderedDict.lookup_of_mem nodup held
    rw [OrderedDict.lookup_of_mem nodup right] at found
    cases found
    exact same

/-- What is written by a sum write is what a sum read of the transmitted
slots returns. -/
theorem sum_write_sum_read (order : KeyOrder) {values : OrderedDict String PyVal}
    (found : values.entries.mapM (writeItemOf dataSymbols) = .ok items)
    (holds : ∀ item ∈ items, HoldsElement (item.1 ∈ structuredDataNames) item.2.1)
    (fits : ∀ item ∈ items, FitsItem (item.1 ∈ structuredDataNames) item.2.1 item.2.2) :
    ∃ buf result, transmittedBuffer values dataSymbols structuredDataNames = .ok buf ∧
      adsSumRead (fun _ => .ok (sumReply ((slotsOf (items.map (·.2.1)) buf).map (ItemReply.mk 0))))
        values.keys dataSymbols structuredDataNames = .ok result ∧
      PyVal.Same order (.dict result.entries) (.dict values.entries) := by
  obtain ⟨outcomes, each⟩ := exists_forall₂ fun item member =>
    (show ∃ outcome, Written order structuredDataNames item outcome from
      let ⟨slot, back, written⟩ := exists_writtenItem (holds item member) (fits item member) order
      ⟨(slot, back), written⟩)
  obtain ⟨entries, symbols⟩ := items_spec found
  have fills : List.Forall₂ (fun item slot => FillsSlot (item.1 ∈ structuredDataNames) item.2.1 item.2.2 slot)
      items (outcomes.map Prod.fst) := List.forall₂_map_right_iff.mpr (each.imp fun _ _ here => here.toFillsSlot)
  obtain ⟨m', built⟩ := sumWriteBuffer_fill fills
  have transmitted : transmittedBuffer values dataSymbols structuredDataNames =
      sumWriteBuffer structuredDataNames items := by
    rw [transmittedBuffer, found]
    rfl
  have fill : List.Forall₂ (fun item slot => slot.length = item.2.1.size.toNat) items (outcomes.map Prod.fst) :=
    List.forall₂_map_right_iff.mpr (each.imp fun _ _ here => here.length)
  have names : values.keys = items.map Prod.fst := by
    rw [OrderedDict.keys, ← entries, List.map_map]
    rfl
  have cutAgain := slotsOf_headers fill (List.replicate m' 0)
  have read := read_slots each
  rw [← names] at read
  refine ⟨_, _, transmitted.trans built, (adsSumRead_replies symbols ?_ ?_).mpr ⟨_, cutAgain ▸ read, rfl⟩, ?_⟩
  · rw [cutAgain, List.forall₂_map_left_iff, List.forall₂_map_right_iff]
    exact fill
  · rw [names, List.zip_map']
    intro item member
    obtain ⟨source, held, rfl⟩ := List.mem_map.mp member
    exact holds source held
  · have length : values.keys.length = (outcomes.map Prod.snd).length := by
      rw [names, List.length_map, List.length_map, each.length_eq]
    have fresh : ((OrderedDict.empty : OrderedDict String PyVal).keys ++
        (values.keys.zip (outcomes.map Prod.snd)).map Prod.fst).Nodup := by
      rw [List.map_fst_zip length.le]
      exact values.nodup
    rw [OrderedDict.fromKeys_setAll length, OrderedDict.entries_setAll_of_nodup _ fresh]
    apply same_dict values.nodup order
    rw [names, ← entries]
    exact same_entries each

/-- A text beyond ASCII, an array of texts, numbers and a structure. -/
def panelSymbols : DataSymbols where
  entries := [("title", ⟨0x4040, 0, 6, 30, "STRING(5)".toList⟩),
    ("labels", ⟨0x4040, 6, 12, 31, "ARRAY [0..1] OF WSTRING(2)".toList⟩),
    ("counts", ⟨0x4040, 18, 4, 2, "ARRAY [0..1] OF INT".toList⟩),
    ("axis", ⟨0x4040, 22, 3, 65, "ST_Axis".toList⟩), ("lamp", ⟨0x4040, 25, 1, 33, "BOOL".toList⟩)]
  nodup := by decide

def panelValues : OrderedDict String PyVal where
  entries := [("lamp", .bool true), ("title", .str (Text.ofChars ['é', 'µ'])),
    ("labels", .list [.str (Text.ofChars ['ä']), .str (Text.ofChars ['o', 'k'])]),
    ("axis", .ofBytes [1, 0, 2]), ("counts", .list [.int 3, .int (-2)])]
  nodup := by decide

def panelItems : List WriteItem :=
  [("lamp", ⟨0x4040, 25, 1, 33, "BOOL".toList⟩, .bool true),
    ("title", ⟨0x4040, 0, 6, 30, "STRING(5)".toList⟩, .str (Text.ofChars ['é', 'µ'])),
    ("labels", ⟨0x4040, 6, 12, 31, "ARRAY [0..1] OF WSTRING(2)".toList⟩,
      .list [.str (Text.ofChars ['ä']), .str (Text.ofChars ['o', 'k'])]),
    ("axis", ⟨0x4040, 22, 3, 65, "ST_Axis".toList⟩, .ofBytes [1, 0, 2]),
    ("counts", ⟨0x4040, 18, 4, 2, "ARRAY [0..1] OF INT".toList⟩, .list [.int 3, .int (-2)])]

theorem panel_sum_write_sum_read : ∃ buf result, transmittedBuffer panelValues panelSymbols ["axis"] = .ok buf ∧
    adsSumRead (fun _ => .ok (sumReply ((slotsOf (panelItems.map (·.2.1)) buf).map (ItemReply.mk 0))))
      panelValues.keys panelSymbols ["axis"] = .ok result ∧
    PyVal.Same .ordered (.dict result.entries) (.dict panelValues.entries) := by
  apply sum_write_sum_read .ordered rfl (by decide +kernel)
  simp only [panelItems, List.forall_mem_cons]
  refine ⟨?_, ?_, ?_, ?_, ?_, by simp⟩
  · exact ⟨.bool true, 1, ⟨true, rfl⟩, rfl, rfl⟩
  · exact ⟨_, _, rfl, rfl, by decide, by decide⟩
  · refine ⟨_, rfl, by decide, ?_⟩
    simp only [List.forall_mem_cons]
    exact ⟨⟨_, _, rfl, rfl, by decide, by decide⟩, ⟨_, _, rfl, rfl, by decide, by decide⟩, by simp⟩
  · exact ⟨[1, 0, 2], rfl, rfl⟩
  · refine ⟨_, rfl, rfl, ?_⟩
    simp only [List.forall_mem_cons]
    exact ⟨⟨.int 3, 3, ⟨3, rfl, by decide⟩, rfl, rfl⟩, ⟨.int (-2), -2, ⟨-2, rfl, by decide⟩, rfl, rfl⟩, by simp⟩

/-- Any integer that is not zero is written to a `BIT` as the same byte, and
read as `True`. -/
theorem lamp_not_read_back : ∃ buf result,
    transmittedBuffer ⟨[("lamp", .int 2)], by decide⟩ panelSymbols [] = .ok buf ∧
      adsSumRead (fun _ => .ok (sumReply ((slotsOf [⟨0x4040, 25, 1, 33, "BOOL".toList⟩] buf).map
        (ItemReply.mk 0)))) ["lamp"] panelSymbols [] = .ok result ∧
      result.entries = [("lamp", .bool true)] ∧
      ¬ PyVal.Same .plain (.dict result.entries) (.dict [("lamp", .int 2)]) := by
  refine ⟨[0x40, 0x40, 0, 0, 25, 0, 0, 0, 1, 0, 0, 0, 1], ⟨[("lamp", .bool true)], by decide⟩, rfl, rfl, rfl,
    fun same => ?_⟩
  cases same with
  | number left _ => cases left
  | dict _ values =>
    have here := values "lamp" (.bool true) (.int 2) (by simp) (by simp)
    cases here with
    | number left right =>
      cases left
      cases right

end PyAds
