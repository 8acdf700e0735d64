import Mathlib.Data.List.TakeWhile
import PyAds.Constants

/-! The two text heuristics of `utils.py`: the search for the terminator of a
WSTRING, and the number of characters a type name promises. -/
namespace PyAds

/-- The index of the first aligned pair of zero bytes. -/
def findWstringNullTerminator : Bytes → Option Nat
  | low :: high :: rest =>
    if low = 0 ∧ high = 0 then some 0 else (findWstringNullTerminator rest).map (· + 2)
  | _ => none

/-- `data[:find_wstring_null_terminator(data)]`; without a terminator the
index is None and the slice takes everything. -/
def beforeTerminator (data : Bytes) : Bytes :=
  data.take ((findWstringNullTerminator data).getD data.length)

/-- `data.partition(b"\0")[0]` -/
def beforeZero (data : Bytes) : Bytes := data.takeWhile (· != 0)

/-- `str.upper` on the windows-1252 characters, the only ones a type name can
contain; the sharp s becomes two letters. -/
def upperChar (c : Char) : List Char :=
  if 'a' ≤ c ∧ c ≤ 'z' then [Char.ofNat (c.toNat - 32)]
  else if c = 'ß' then ['S', 'S']
  else if 'à' ≤ c ∧ c ≤ 'þ' ∧ c ≠ '÷' then [Char.ofNat (c.toNat - 32)]
  else if c = 'ÿ' then ['Ÿ']
  else if c = 'µ' then ['Μ']
  else if c = 'ƒ' then ['Ƒ']
  else if c = 'š' then ['Š']
  else if c = 'œ' then ['Œ']
  else if c = 'ž' then ['Ž']
  else [c]

def upper (text : List Char) : List Char := text.flatMap upperChar

/-- `text.find(needle)` for a non-empty needle. -/
def findText (needle : List Char) : List Char → Option Nat
  | [] => none
  | c :: rest => if needle.isPrefixOf (c :: rest) then some 0 else (findText needle rest).map (· + 1)

/-- Whitespace that `int` strips. -/
def isIntSpace (c : Char) : Bool :=
  c == ' ' || ('\t' ≤ c && c ≤ '\r') || c == '\u0085' || c == '\u00a0'

/-- Decimal digits, where single underscores may separate digits. -/
def parseDigits (value : Nat) (afterDigit : Bool) : List Char → Option Nat
  | [] => if afterDigit then some value else none
  | c :: rest =>
    if c.isDigit then parseDigits (10 * value + (c.toNat - '0'.toNat)) true rest
    else if c = '_' ∧ afterDigit then parseDigits value false rest
    else none

/-- `int(text)`, `none` where it raises `ValueError`. -/
def parseInt (text : List Char) : Option Int :=
  let stripped := ((text.dropWhile isIntSpace).reverse.dropWhile isIntSpace).reverse
  match stripped with
  | '-' :: digits => (parseDigits 0 false digits).map fun n => -(n : Int)
  | '+' :: digits => (parseDigits 0 false digits).map fun n => (n : Int)
  | digits => (parseDigits 0 false digits).map fun n => (n : Int)

def PLC_STRING_TYPE_NAME : List Char := ['S', 'T', 'R', 'I', 'N', 'G']

/-- The number of characters of a string type by its name, `-1` if the name
does not contain the word. The position is that of the upper-case name, the
slice is taken from the name itself. -/
def getNumOfChars (symbolTypeStr : List Char) : Int :=
  match findText PLC_STRING_TYPE_NAME (upper symbolTypeStr) with
  | none => -1
  | some posOfStringInName =>
    let startIndex := posOfStringInName + PLC_STRING_TYPE_NAME.length + 1
    match parseInt ((symbolTypeStr.take (symbolTypeStr.length - 1)).drop startIndex) with
    | some count => count
    | none => PLC_DEFAULT_STRING_SIZE

example : getNumOfChars "WSTRING(35)".toList = 35 := by decide
example : getNumOfChars "ARRAY [0..3] OF STRING(7)".toList = 7 := by decide
example : getNumOfChars "STRING".toList = 80 := by decide

/-! ## Decimal numbers -/

theorem parseDigits_append (found : parseDigits value afterDigit first = some result) (second : List Char) :
    parseDigits value afterDigit (first ++ second) = parseDigits result true second := by
  induction first generalizing value afterDigit with
  | nil =>
    cases afterDigit with
    | false => cases found
    | true =>
      cases found
      rfl
  | cons c first ih =>
    rw [parseDigits] at found
    rw [List.cons_append, parseDigits]
    split
    · rename_i digit
      rw [if_pos digit] at found
      exact ih found
    · rename_i other
      rw [if_neg other] at found
      split
      · rename_i underscore
        rw [if_pos underscore] at found
        exact ih found
      · rename_i neither
        rw [if_neg neither] at found
        cases found

private theorem parseDigits_digitChar (value : Nat) (afterDigit : Bool) (small : n < 10) :
    parseDigits value afterDigit [n.digitChar] = some (10 * value + n) := by
  have digit : n.digitChar.isDigit = true := by simpa using small
  have worth : n.digitChar.toNat - '0'.toNat = n := Nat.toNat_digitChar_sub_48_of_lt_ten small
  rw [parseDigits, if_pos digit, worth]
  rfl

theorem parseDigits_toDigits (n : Nat) : parseDigits 0 false (Nat.toDigits 10 n) = some n := by
  induction n using Nat.strongRecOn with
  | ind n ih =>
    rw [Nat.toDigits_eq_if (by decide)]
    split
    · rename_i small
      rw [parseDigits_digitChar 0 false small, Nat.mul_zero, Nat.zero_add]
    · rename_i large
      have small : n % 10 < 10 := Nat.mod_lt n (by decide)
      rw [parseDigits_append (ih (n / 10) (by omega)), parseDigits_digitChar _ _ small, Nat.div_add_mod]

private theorem isDigit_bounds {c : Char} (digit : c.isDigit = true) : 48 ≤ c.toNat ∧ c.toNat ≤ 57 := by
  simpa [Char.isDigit, UInt32.le_iff_toNat_le] using digit

private theorem not_isIntSpace {c : Char} (digit : c.isDigit = true) : isIntSpace c = false := by
  have bounds := isDigit_bounds digit
  have differs (other : Char) (outside : other.toNat < 48 ∨ 57 < other.toNat) : (c == other) = false := by
    apply beq_eq_false_iff_ne.mpr
    rintro rfl
    omega
  have behind : (c ≤ '\r') = False := by
    apply eq_false
    intro before
    have small : c.toNat ≤ '\r'.toNat := before
    have value : '\r'.toNat = 13 := rfl
    omega
  simp [isIntSpace, differs, behind]

/-- `int(str(n)) == n` -/
theorem parseInt_toDigits (n : Nat) : parseInt (Nat.toDigits 10 n) = some (n : Int) := by
  have decimal : ∀ c ∈ Nat.toDigits 10 n, c.isDigit = true :=
    fun c member => Nat.isDigit_of_mem_toDigits (by decide) (by decide) member
  have kept {text : List Char} (digits : ∀ c ∈ text, c.isDigit = true) : text.dropWhile isIntSpace = text := by
    cases text with
    | nil => rfl
    | cons c text => rw [List.dropWhile_cons_of_neg (by simp [not_isIntSpace (digits c (by simp))])]
  have stripped : (((Nat.toDigits 10 n).dropWhile isIntSpace).reverse.dropWhile isIntSpace).reverse =
      Nat.toDigits 10 n := by
    rw [kept decimal, kept fun c member => decimal c (List.mem_reverse.mp member), List.reverse_reverse]
  have parsed := parseDigits_toDigits n
  unfold parseInt
  rw [stripped]
  dsimp only
  split
  · rename_i digits same
    have sign := isDigit_bounds (decimal '-' (by simp [same]))
    simp at sign
  · rename_i digits same
    have sign := isDigit_bounds (decimal '+' (by simp [same]))
    simp at sign
  · rw [parsed]
    rfl

/-! ## The terminator search -/

theorem beforeZero_append (nonzero : (0 : UInt8) ∉ data) (rest : Bytes) :
    beforeZero (data ++ 0 :: rest) = data := by
  induction data with
  | nil => rfl
  | cons byte data ih =>
    have notZero : byte ≠ 0 := fun eq => nonzero (by simp [eq])
    have tail := ih fun member => nonzero (List.mem_cons_of_mem _ member)
    unfold beforeZero at tail ⊢
    simp [notZero, tail]

/-- A NUL-free text has no zero byte. -/
theorem beforeZero_encode {chars : List Char} (nulFree : '\x00' ∉ chars) :
    beforeZero (Text.Utf8.encode chars) = Text.Utf8.encode chars := by
  apply List.takeWhile_eq_self_iff.mpr
  intro byte member
  have notZero : byte ≠ 0 := by
    rintro rfl
    exact nulFree (Text.Utf8.zero_mem_encode member)
  simpa using notZero

open Text.Utf16 (unitBytes)

theorem unitBytes_ne_zero (bound : unit < 65536) (nonzero : unit ≠ 0) :
    ¬ (UInt8.ofNat unit = 0 ∧ UInt8.ofNat (unit / 256) = 0) := by
  rintro ⟨low, high⟩
  have lowZero := congrArg UInt8.toNat low
  have highZero := congrArg UInt8.toNat high
  simp only [UInt8.toNat_ofNat', UInt8.toNat_zero] at lowZero highZero
  omega

theorem beforeZero_padded (nonzero : (0 : UInt8) ∉ data) (count : Nat) :
    beforeZero (data ++ List.replicate count 0) = data := by
  cases count with
  | succ count => exact beforeZero_append nonzero _
  | zero =>
    rw [List.replicate_zero, List.append_nil]
    apply List.takeWhile_eq_self_iff.mpr
    intro byte member
    have notZero : byte ≠ 0 := by
      rintro rfl
      exact nonzero member
    simpa using notZero

theorem beforeZero_append_zeros (data : Bytes) (count : Nat) :
    beforeZero (data ++ List.replicate count 0) = beforeZero data := by
  induction data with
  | nil =>
    cases count with
    | zero => rfl
    | succ count => rfl
  | cons byte data ih =>
    rw [List.cons_append, beforeZero, beforeZero, List.takeWhile_cons, List.takeWhile_cons]
    split
    · exact congrArg (byte :: ·) ih
    · rfl

theorem zero_not_mem_beforeZero (data : Bytes) : (0 : UInt8) ∉ beforeZero data := by
  intro member
  have nonzero := List.mem_takeWhile_imp member
  simp at nonzero

/-- Nonzero code units are skipped. -/
theorem find_unitBytes {seq : List Nat} (bounded : ∀ unit ∈ seq, unit < 65536) (nonzero : 0 ∉ seq) (rest : Bytes) :
    findWstringNullTerminator (seq.flatMap unitBytes ++ rest) =
      (findWstringNullTerminator rest).map (· + 2 * seq.length) := by
  induction seq with
  | nil => simp
  | cons unit seq ih =>
    have notZero : unit ≠ 0 := fun eq => nonzero (by simp [eq])
    have tail := ih (fun other member => bounded other (List.mem_cons_of_mem _ member))
      fun member => nonzero (List.mem_cons_of_mem _ member)
    simp only [List.flatMap_cons, unitBytes, List.cons_append, List.nil_append,
      findWstringNullTerminator, unitBytes_ne_zero (bounded unit (by simp)) notZero, ↓reduceIte,
      tail, Option.map_map, List.length_cons]
    congr 1

/-- A NUL-free text has no zero unit. -/
theorem zero_not_mem_units {chars : List Char} (nulFree : '\x00' ∉ chars) : 0 ∉ chars.flatMap Text.Utf16.units := by
  intro member
  obtain ⟨c, held, inside⟩ := List.mem_flatMap.mp member
  exact nulFree (Text.Utf16.zero_mem_units.mp inside ▸ held)

/-- The terminator of a NUL-free text is found right behind it. -/
theorem find_encode (nulFree : '\x00' ∉ chars) (rest : Bytes) :
    findWstringNullTerminator (Text.Utf16.encode chars ++ 0 :: 0 :: rest) =
      some (Text.Utf16.encode chars).length := by
  rw [Text.Utf16.length_encode]
  have found := find_unitBytes (Text.Utf16.bounded_units chars) (zero_not_mem_units nulFree) (0 :: 0 :: rest)
  rw [Text.Utf16.encode, found]
  simp [findWstringNullTerminator]

/-- Everything before the terminator is nonzero code units. -/
theorem before_terminator (found : findWstringNullTerminator data = some index) :
    ∃ (seq : List Nat) (rest : Bytes), data = seq.flatMap unitBytes ++ 0 :: 0 :: rest ∧ index = 2 * seq.length ∧
      (∀ unit ∈ seq, unit < 65536) ∧ 0 ∉ seq := by
  induction data using findWstringNullTerminator.induct generalizing index with
  | case1 low high rest zero =>
    obtain ⟨rfl, rfl⟩ := zero
    simp only [findWstringNullTerminator, and_self, ↓reduceIte, Option.some.injEq] at found
    exact ⟨[], rest, rfl, found.symm, by simp, by simp⟩
  | case2 low high rest nonzero ih =>
    simp only [findWstringNullTerminator, nonzero, ↓reduceIte, Option.map_eq_some_iff] at found
    obtain ⟨position, inner, rfl⟩ := found
    obtain ⟨seq, tail, rfl, rfl, bounded, clear⟩ := ih inner
    have first := low.toNat_lt
    have second := high.toNat_lt
    refine ⟨(low.toNat + 256 * high.toNat) :: seq, tail, ?_, ?_, ?_, ?_⟩
    · have paired : [low.toNat + 256 * high.toNat].flatMap unitBytes = [low, high] :=
        Text.Utf16.flatMap_of_pairUp rfl
      rw [List.flatMap_singleton] at paired
      rw [List.flatMap_cons, paired]
      rfl
    · simp only [List.length_cons]
      omega
    · intro unit member
      rcases List.mem_cons.mp member with rfl | member
      · omega
      · exact bounded unit member
    · intro member
      rcases List.mem_cons.mp member with zero | member
      · apply nonzero
        constructor <;> apply UInt8.toNat_inj.mp <;> simp only [UInt8.toNat_zero] <;> omega
      · exact clear member
  | case3 data short =>
    unfold findWstringNullTerminator at found
    split at found
    · exact absurd rfl (short _ _ _)
    · cases found

@[simp] theorem beforeTerminator_nil : beforeTerminator [] = [] := rfl

@[simp] theorem beforeTerminator_zeros (data : Bytes) : beforeTerminator (0 :: 0 :: data) = [] := by
  simp [beforeTerminator, findWstringNullTerminator]

theorem beforeTerminator_cons (nonzero : ¬ (low = 0 ∧ high = 0)) (data : Bytes) :
    beforeTerminator (low :: high :: data) = low :: high :: beforeTerminator data := by
  simp only [beforeTerminator, findWstringNullTerminator, nonzero, ↓reduceIte]
  cases findWstringNullTerminator data <;> simp

theorem beforeTerminator_encode (nulFree : '\x00' ∉ chars) (rest : Bytes) :
    beforeTerminator (Text.Utf16.encode chars ++ 0 :: 0 :: rest) = Text.Utf16.encode chars := by
  simp [beforeTerminator, find_encode nulFree]

/-- Padding with zeros in place of what follows the terminator. -/
theorem beforeTerminator_padded (data : Bytes) :
    beforeTerminator (beforeTerminator data ++
      List.replicate (data.length - (beforeTerminator data).length) 0) = beforeTerminator data := by
  cases found : findWstringNullTerminator data with
  | none =>
    have whole : beforeTerminator data = data := by simp [beforeTerminator, found]
    simp [whole]
  | some index =>
    obtain ⟨seq, rest, rfl, rfl, bounded, clear⟩ := before_terminator found
    have cut : beforeTerminator (seq.flatMap unitBytes ++ 0 :: 0 :: rest) = seq.flatMap unitBytes := by
      rw [beforeTerminator, found, ← Text.Utf16.length_flatMap_unitBytes]
      simp
    have room : (seq.flatMap unitBytes ++ 0 :: 0 :: rest).length - (seq.flatMap unitBytes).length =
        rest.length + 1 + 1 := by
      simp
    rw [cut, room, List.replicate_succ, List.replicate_succ, beforeTerminator,
      find_unitBytes bounded clear]
    simp [findWstringNullTerminator, ← Text.Utf16.length_flatMap_unitBytes]

/-- Behind zeros, only the empty text is still read. -/
theorem beforeTerminator_shifted (behind : 0 < count) (room : 2 ≤ width) (even : encoded.length = 2 * n)
    (same : beforeTerminator ((List.replicate count 0 ++ (encoded ++ more)).take width) = encoded) :
    encoded = [] := by
  obtain ⟨width, rfl⟩ := Nat.exists_eq_add_of_le' room
  match count, encoded with
  | 0, _ => simp at behind
  | _, [] => rfl
  | _, [_] => simp at even; omega
  | count + 2, low :: high :: rest =>
    simp [List.replicate_succ] at same
  | 1, low :: high :: rest =>
    simp only [List.replicate_one, List.cons_append, List.nil_append, List.take_succ_cons] at same
    by_cases zero : low = 0
    · simp [zero] at same
    · rw [beforeTerminator_cons (by simp [zero])] at same
      exact absurd (List.cons.inj same).1.symm zero

end PyAds
