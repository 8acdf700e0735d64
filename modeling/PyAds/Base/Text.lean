import Mathlib.Data.List.Flatten
import PyAds.Base.LittleEndian

/-! Strings of code points and their two byte encodings. A string may hold
lone surrogates, which neither encoding accepts; on the remaining strings both
encodings are injective, strict decoding inverts them, and NUL is the only
character whose encoding contains a zero code unit. -/
namespace Text

/-- An element of a string: a Unicode scalar value, or a lone surrogate,
numbered from U+D800. -/
inductive CodePoint where
  | scalar (c : Char)
  | surrogate (index : Fin 2048)
  deriving DecidableEq, Repr

abbrev Str := List CodePoint

/-- The string with these characters. -/
def ofChars (chars : List Char) : Str := chars.map .scalar

/-- The characters of a string without lone surrogates. -/
def chars? : Str → Option (List Char)
  | [] => some []
  | .scalar c :: rest => (chars? rest).map (c :: ·)
  | .surrogate _ :: _ => none

@[simp] theorem chars?_ofChars (chars : List Char) : chars? (ofChars chars) = some chars := by
  induction chars with
  | nil => rfl
  | cons c chars ih =>
    have tail : chars? (chars.map .scalar) = some chars := ih
    simp [ofChars, chars?, tail]

theorem chars?_eq_some_iff : chars? text = some chars ↔ text = ofChars chars := by
  constructor
  · intro held
    induction text generalizing chars with
    | nil => cases held; rfl
    | cons point rest ih =>
      cases point with
      | surrogate index => cases held
      | scalar c =>
        simp only [chars?, Option.map_eq_some_iff] at held
        obtain ⟨tail, found, rfl⟩ := held
        rw [ih found]
        rfl
  · rintro rfl
    exact chars?_ofChars chars

@[simp] theorem length_ofChars (chars : List Char) : (ofChars chars).length = chars.length := by
  simp [ofChars]

theorem ofChars_injective (same : ofChars first = ofChars second) : first = second := by
  have decoded := congrArg chars? same
  simpa using decoded

/-- No character beyond U+007F. -/
def Ascii (text : Str) : Prop := ∀ point ∈ text, ∃ c : Char, point = .scalar c ∧ c.toNat < 128

theorem ascii_ofChars : Ascii (ofChars chars) ↔ ∀ c ∈ chars, c.toNat < 128 := by
  simp [Ascii, ofChars]

/-- No character beyond the basic multilingual plane. -/
def Basic (text : Str) : Prop := ∀ point ∈ text, ∃ c : Char, point = .scalar c ∧ c.toNat < 0x10000

theorem basic_ofChars : Basic (ofChars chars) ↔ ∀ c ∈ chars, c.toNat < 0x10000 := by
  simp [Basic, ofChars]

/-! ## UTF-8 -/

namespace Utf8

def encode (chars : List Char) : List UInt8 := chars.flatMap String.utf8EncodeChar

/-- Strict decoding: overlong forms, surrogates and truncated sequences are
all refused. -/
def decode (bytes : List UInt8) : Option (List Char) :=
  bytes.toByteArray.utf8Decode?.map Array.toList

theorem decode_encode (chars : List Char) : decode (encode chars) = some chars := by
  have read : (encode chars).toByteArray.utf8Decode? = some chars.toArray :=
    List.utf8Decode?_utf8Encode
  simp [decode, read]

theorem encode_of_decode (read : decode bytes = some chars) : encode chars = bytes := by
  unfold decode at read
  cases found : bytes.toByteArray.utf8Decode? with
  | none => simp [found] at read
  | some decoded =>
    simp only [found, Option.map_some, Option.some.injEq] at read
    have back := ByteArray.utf8Encode_get_utf8Decode? (b := bytes.toByteArray)
      (h := by simp [found])
    simp only [found, Option.get_some, read] at back
    exact List.toByteArray_inj.mp back

@[simp] theorem encode_nil : encode [] = [] := rfl

theorem encode_cons (c : Char) (chars : List Char) :
    encode (c :: chars) = String.utf8EncodeChar c ++ encode chars := rfl

/-- A character takes one byte exactly when it is ASCII. -/
theorem length_le_encode (chars : List Char) : chars.length ≤ (encode chars).length := by
  induction chars with
  | nil => simp
  | cons c chars ih =>
    have wide := c.utf8Size_pos
    simp only [encode_cons, List.length_cons, List.length_append, String.length_utf8EncodeChar]
    omega

theorem length_encode_eq_iff (chars : List Char) :
    (encode chars).length = chars.length ↔ ∀ c ∈ chars, c.toNat < 128 := by
  induction chars with
  | nil => simp
  | cons c chars ih =>
    have least := length_le_encode chars
    have wide := c.utf8Size_pos
    have ascii : c.utf8Size = 1 ↔ c.toNat < 128 := by
      rw [Char.utf8Size_eq_one_iff, UInt32.le_iff_toNat_le]
      exact Nat.lt_succ_iff.symm
    simp only [encode_cons, List.length_append, String.length_utf8EncodeChar, List.length_cons,
      List.forall_mem_cons, ← ih, ← ascii]
    omega

/-- Each character is told by its own bytes, so a prefix of the bytes is one of
the characters. -/
theorem prefix_of_encode_prefix (front : encode chars <+: encode whole) : chars <+: whole := by
  induction chars generalizing whole with
  | nil => exact List.nil_prefix
  | cons c chars ih =>
    obtain ⟨rest, split⟩ := front
    cases whole with
    | nil =>
      have wide := c.utf8Size_pos
      have length := congrArg List.length split
      simp only [encode_cons, List.length_append, String.length_utf8EncodeChar, encode_nil, List.length_nil] at length
      omega
    | cons d whole =>
      rw [encode_cons, encode_cons, List.append_assoc] at split
      have first := congrArg (fun bytes => bytes.toByteArray.utf8DecodeChar? 0) split
      simp only [List.toByteArray_append, ByteArray.utf8DecodeChar?_utf8EncodeChar_append, Option.some.injEq] at first
      subst first
      exact List.cons_prefix_cons.mpr ⟨rfl, ih ⟨rest, List.append_cancel_left split⟩⟩

private theorem ascii_bytes_of_char (c : Char) :
    (∀ byte ∈ String.utf8EncodeChar c, byte.toNat < 128) ↔ c.toNat < 128 := by
  have whole : c.toNat = c.val.toNat := rfl
  have small := c.val.toNat_lt
  unfold String.utf8EncodeChar
  simp only
  split
  · simp only [List.forall_mem_singleton, UInt8.toNat_ofNat', whole]
    omega
  · split
    · simp only [List.forall_mem_cons, UInt8.toNat_ofNat', whole]
      omega
    · split
      · simp only [List.forall_mem_cons, UInt8.toNat_ofNat', whole]
        omega
      · simp only [List.forall_mem_cons, UInt8.toNat_ofNat', whole]
        omega

/-- Bytes below 128 are the ASCII characters, and no part of any other. -/
theorem ascii_bytes_iff (chars : List Char) :
    (∀ byte ∈ encode chars, byte.toNat < 128) ↔ ∀ c ∈ chars, c.toNat < 128 := by
  induction chars with
  | nil => simp
  | cons c chars ih =>
    rw [encode_cons, List.forall_mem_append, ascii_bytes_of_char, ih, List.forall_mem_cons]
private theorem zero_byte_of_char (member : (0 : UInt8) ∈ String.utf8EncodeChar c) : c = '\x00' := by
  have zero {n : Nat} (eq : (0 : UInt8) = UInt8.ofNat n) : n % 256 = 0 := by
    have := congrArg UInt8.toNat eq
    simpa using this.symm
  have small := c.val.toNat_lt
  unfold String.utf8EncodeChar at member
  simp only at member
  split at member
  · simp only [List.mem_singleton] at member
    have low := zero member
    apply Char.toNat_inj.mp
    change c.val.toNat = 0
    omega
  · exfalso
    split at member
    · simp only [List.mem_cons, List.not_mem_nil, or_false] at member
      rcases member with eq | eq <;> have low := zero eq <;> omega
    · split at member
      · simp only [List.mem_cons, List.not_mem_nil, or_false] at member
        rcases member with eq | eq | eq <;> have low := zero eq <;> omega
      · simp only [List.mem_cons, List.not_mem_nil, or_false] at member
        rcases member with eq | eq | eq | eq <;> have low := zero eq <;> omega

/-- Multi-byte sequences contain no zero byte. -/
theorem zero_mem_encode (member : (0 : UInt8) ∈ encode chars) : '\x00' ∈ chars := by
  obtain ⟨c, held, inside⟩ := List.mem_flatMap.mp member
  rwa [← zero_byte_of_char inside]

end Utf8

/-! ## UTF-16, little-endian -/

namespace Utf16

/-- The code units of a character: itself, or a surrogate pair. -/
def units (c : Char) : List Nat :=
  if c.toNat < 0x10000 then [c.toNat]
  else [0xD800 + (c.toNat - 0x10000) / 0x400, 0xDC00 + (c.toNat - 0x10000) % 0x400]

def unitBytes (unit : Nat) : List UInt8 := [UInt8.ofNat unit, UInt8.ofNat (unit / 256)]

def encode (chars : List Char) : List UInt8 := (chars.flatMap units).flatMap unitBytes

/-- A code unit that stands for a character by itself. -/
def Plain (unit : Nat) : Prop := unit < 0xD800 ∨ 0xDFFF < unit

instance : Decidable (Plain unit) := inferInstanceAs (Decidable (_ ∨ _))

/-- The character of a surrogate pair. -/
def joined (high low : Nat) : Char :=
  Char.ofNat (0x10000 + (high - 0xD800) * 0x400 + (low - 0xDC00))

/-- Strict decoding of code units: a surrogate must be the half of a pair. -/
def decodeUnits : List Nat → Option (List Char)
  | [] => some []
  | [unit] => if Plain unit then some [Char.ofNat unit] else none
  | high :: low :: rest =>
    if Plain high then (decodeUnits (low :: rest)).map (Char.ofNat high :: ·)
    else if high < 0xDC00 ∧ 0xDC00 ≤ low ∧ low ≤ 0xDFFF then
      (decodeUnits rest).map (joined high low :: ·)
    else none

/-- The code units of a byte sequence; an odd byte is left over. -/
def pairUp : List UInt8 → Option (List Nat)
  | [] => some []
  | [_] => none
  | low :: high :: rest => (pairUp rest).map ((low.toNat + 256 * high.toNat) :: ·)

def decode (bytes : List UInt8) : Option (List Char) := (pairUp bytes).bind decodeUnits

@[simp] theorem encode_nil : encode [] = [] := rfl

theorem encode_cons (c : Char) (chars : List Char) :
    encode (c :: chars) = (units c).flatMap unitBytes ++ encode chars := by
  simp [encode]

@[simp] theorem length_unitBytes (unit : Nat) : (unitBytes unit).length = 2 := rfl

theorem length_flatMap_unitBytes (seq : List Nat) : (seq.flatMap unitBytes).length = 2 * seq.length := by
  induction seq with
  | nil => rfl
  | cons unit seq ih =>
    simp only [List.flatMap_cons, List.length_append, length_unitBytes, ih, List.length_cons]
    omega

theorem length_encode (chars : List Char) : (encode chars).length = 2 * (chars.flatMap units).length :=
  length_flatMap_unitBytes _

private theorem char_bound (c : Char) : c.toNat < 0xD800 ∨ 0xDFFF < c.toNat ∧ c.toNat < 0x110000 :=
  c.valid

private theorem toNat_ofNat (valid : n.isValidChar) : (Char.ofNat n).toNat = n := by
  rw [Char.ofNat, dif_pos valid]
  rfl

theorem units_bound (member : unit ∈ units c) : unit < 65536 := by
  have valid := char_bound c
  unfold units at member
  split at member <;>
    simp only [List.mem_cons, List.not_mem_nil, or_false] at member <;> omega

/-- A zero code unit is the encoding of NUL, never a half of a pair. -/
theorem zero_mem_units : 0 ∈ units c ↔ c = '\x00' := by
  constructor
  · intro member
    apply Char.toNat_inj.mp
    change c.toNat = 0
    unfold units at member
    split at member <;>
      simp only [List.mem_cons, List.not_mem_nil, or_false] at member <;> omega
  · rintro rfl
    decide

theorem pairUp_unitBytes (seq : List Nat) (bounded : ∀ unit ∈ seq, unit < 65536) (rest : List UInt8) :
    pairUp (seq.flatMap unitBytes ++ rest) = (pairUp rest).map (seq ++ ·) := by
  induction seq with
  | nil => simp
  | cons unit seq ih =>
    have small := bounded unit (by simp)
    have value : unit % 256 + 256 * (unit / 256 % 256) = unit := by omega
    have tail := ih (fun other member => bounded other (by simp [member]))
    simp only [List.flatMap_cons, unitBytes, List.cons_append, List.nil_append, pairUp,
      UInt8.toNat_ofNat', Nat.reducePow, value, tail, Option.map_map]
    rfl

private theorem decodeUnits_plain (plain : Plain unit) (rest : List Nat) :
    decodeUnits (unit :: rest) = (decodeUnits rest).map (Char.ofNat unit :: ·) := by
  cases rest with
  | nil => simp [decodeUnits, plain]
  | cons next rest => rw [decodeUnits, if_pos plain]

private theorem decodeUnits_cons (c : Char) (rest : List Nat) :
    decodeUnits (units c ++ rest) = (decodeUnits rest).map (c :: ·) := by
  have valid := char_bound c
  unfold units
  split
  · have plain : Plain c.toNat := by unfold Plain; omega
    rw [List.singleton_append, decodeUnits_plain plain, Char.ofNat_toNat]
  · have value : 0x10000 + (0xD800 + (c.toNat - 0x10000) / 0x400 - 0xD800) * 0x400
        + (0xDC00 + (c.toNat - 0x10000) % 0x400 - 0xDC00) = c.toNat := by omega
    simp only [List.cons_append, List.nil_append]
    rw [decodeUnits, if_neg (by unfold Plain; omega), if_pos (by omega), joined, value,
      Char.ofNat_toNat]

theorem decodeUnits_units (chars : List Char) : decodeUnits (chars.flatMap units) = some chars := by
  induction chars with
  | nil => rfl
  | cons c chars ih => simp [decodeUnits_cons, ih]

theorem bounded_units (chars : List Char) : ∀ unit ∈ chars.flatMap units, unit < 65536 := by
  intro unit member
  obtain ⟨c, _, inside⟩ := List.mem_flatMap.mp member
  exact units_bound inside

theorem decode_encode (chars : List Char) : decode (encode chars) = some chars := by
  have paired := pairUp_unitBytes _ (bounded_units chars) []
  simp only [List.append_nil, pairUp, Option.map_some] at paired
  simp [decode, encode, paired, decodeUnits_units]

private theorem unitBytes_of_bytes (low high : UInt8) :
    unitBytes (low.toNat + 256 * high.toNat) = [low, high] := by
  have first := low.toNat_lt
  have second := high.toNat_lt
  have split : (low.toNat + 256 * high.toNat) / 256 = high.toNat := by omega
  have residue : UInt8.ofNat (low.toNat + 256 * high.toNat) = low := by
    apply UInt8.toNat_inj.mp
    simp only [UInt8.toNat_ofNat']
    omega
  simp [unitBytes, split, residue]

theorem flatMap_of_pairUp (paired : pairUp bytes = some seq) : seq.flatMap unitBytes = bytes := by
  induction bytes using pairUp.induct generalizing seq with
  | case1 => cases paired; rfl
  | case2 => cases paired
  | case3 low high rest ih =>
    simp only [pairUp, Option.map_eq_some_iff] at paired
    obtain ⟨tail, found, rfl⟩ := paired
    simp [unitBytes_of_bytes, ih found]

theorem pairUp_bounded (paired : pairUp bytes = some seq) : ∀ unit ∈ seq, unit < 65536 := by
  induction bytes using pairUp.induct generalizing seq with
  | case1 => cases paired; simp
  | case2 => cases paired
  | case3 low high rest ih =>
    simp only [pairUp, Option.map_eq_some_iff] at paired
    obtain ⟨tail, found, rfl⟩ := paired
    have first := low.toNat_lt
    have second := high.toNat_lt
    intro unit member
    rcases List.mem_cons.mp member with rfl | member
    · omega
    · exact ih found unit member

private theorem units_of_plain (plain : Plain unit) (small : unit < 65536) :
    units (Char.ofNat unit) = [unit] := by
  have value : (Char.ofNat unit).toNat = unit :=
    toNat_ofNat (by unfold Plain at plain; unfold Nat.isValidChar; omega)
  simp [units, value, small]

private theorem units_of_joined (lead : ¬ Plain high ∧ high < 0xDC00) (trail : 0xDC00 ≤ low ∧ low ≤ 0xDFFF) :
    units (joined high low) = [high, low] := by
  unfold Plain at lead
  have value : (joined high low).toNat = 0x10000 + (high - 0xD800) * 0x400 + (low - 0xDC00) :=
    toNat_ofNat (by unfold Nat.isValidChar; omega)
  have first : 0xD800 + (0x10000 + (high - 0xD800) * 0x400 + (low - 0xDC00) - 0x10000) / 0x400 =
      high := by omega
  have second : 0xDC00 + (0x10000 + (high - 0xD800) * 0x400 + (low - 0xDC00) - 0x10000) % 0x400 =
      low := by omega
  rw [units, value, if_neg (by omega), first, second]

private theorem units_of_decodeUnits (bounded : ∀ unit ∈ seq, unit < 65536)
    (read : decodeUnits seq = some chars) : chars.flatMap units = seq := by
  induction seq using decodeUnits.induct generalizing chars with
  | case1 => cases read; rfl
  | case2 unit plain =>
    simp only [decodeUnits, plain, ↓reduceIte, Option.some.injEq] at read
    subst read
    simp [units_of_plain plain (bounded unit (by simp))]
  | case3 unit surrogate => simp [decodeUnits, surrogate] at read
  | case4 high low rest plain ih =>
    rw [decodeUnits, if_pos plain] at read
    obtain ⟨tail, found, rfl⟩ := Option.map_eq_some_iff.mp read
    have back := ih (fun unit member => bounded unit (List.mem_cons_of_mem _ member)) found
    rw [List.flatMap_cons, units_of_plain plain (bounded high (by simp)), back]
    rfl
  | case5 high low rest lead pair ih =>
    rw [decodeUnits, if_neg lead, if_pos pair] at read
    obtain ⟨tail, found, rfl⟩ := Option.map_eq_some_iff.mp read
    have back := ih (fun unit member => bounded unit (by simp [member])) found
    rw [List.flatMap_cons, units_of_joined ⟨lead, pair.1⟩ pair.2, back]
    rfl
  | case6 high low rest lead broken => simp [decodeUnits, lead, broken] at read

theorem encode_of_decode (read : decode bytes = some chars) : encode chars = bytes := by
  obtain ⟨seq, paired, units⟩ := Option.bind_eq_some_iff.mp read
  rw [encode, units_of_decodeUnits (pairUp_bounded paired) units, flatMap_of_pairUp paired]

/-- A character takes one unit exactly when it lies in the basic plane. -/
theorem length_units (c : Char) : (units c).length = if c.toNat < 0x10000 then 1 else 2 := by
  unfold units
  split <;> rfl

theorem length_le_encode (chars : List Char) : 2 * chars.length ≤ (encode chars).length := by
  rw [length_encode]
  induction chars with
  | nil => simp
  | cons c chars ih =>
    simp only [List.flatMap_cons, List.length_append, List.length_cons, length_units]
    split <;> omega

theorem length_encode_eq_iff (chars : List Char) :
    (encode chars).length = 2 * chars.length ↔ ∀ c ∈ chars, c.toNat < 0x10000 := by
  induction chars with
  | nil => simp
  | cons c chars ih =>
    have least := length_le_encode chars
    have grown : (encode (c :: chars)).length = 2 * (units c).length + (encode chars).length := by
      rw [encode_cons, List.length_append, length_flatMap_unitBytes]
    rw [grown, length_units, List.forall_mem_cons, ← ih, List.length_cons]
    split <;> rename_i plane
    · simp only [plane, true_and]
      omega
    · simp only [plane, false_and, iff_false]
      omega

end Utf16

end Text
