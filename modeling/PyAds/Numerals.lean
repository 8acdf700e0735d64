import PyAds.Utils
import PyAds.Values

/-! `int` of the values that a read can return. A text is first brought to
ASCII, as `int` accepts the spaces and the decimal digits of all scripts. -/
namespace PyAds

/-- The zeros of the decimal digits of Unicode 15.1; nine digits follow each. -/
def decimalZeros : List Nat :=
  [48, 1632, 1776, 1984, 2406, 2534, 2662, 2790, 2918, 3046, 3174, 3302, 3430, 3558, 3664, 3792, 3872,
   4160, 4240, 6112, 6160, 6470, 6608, 6784, 6800, 6992, 7088, 7232, 7248, 42528, 43216, 43264, 43472,
   43504, 43600, 44016, 65296, 66720, 68912, 69734, 69872, 69942, 70096, 70384, 70736, 70864, 71248,
   71360, 71472, 71904, 72016, 72784, 73040, 73120, 73552, 92768, 92864, 93008, 120782, 120792, 120802,
   120812, 120822, 123200, 123632, 124144, 125264, 130032]

/-- The digit that a code point stands for. -/
def decimalDigit? (point : Nat) : Option Nat :=
  (decimalZeros.find? fun start => start ≤ point ∧ point < start + 10).map (point - ·)

/-- The whitespace beyond ASCII. -/
def isUnicodeSpace (point : Nat) : Bool :=
  point ∈ [133, 160, 5760, 8232, 8233, 8239, 8287, 12288] || (8192 ≤ point && point ≤ 8202)

/-- One code point in the form that `int` parses. -/
def asciiChar : Text.CodePoint → Char
  | .scalar c =>
    if c.toNat < 127 then c
    else if isUnicodeSpace c.toNat then ' '
    else
      match decimalDigit? c.toNat with
      | some digit => Char.ofNat (48 + digit)
      | none => '?'
  | .surrogate _ => '?'

/-- `int(text)`, of any length. -/
def intOfText (text : Text.Str) : Result Int :=
  match parseInt (text.map asciiChar) with
  | some i => .ok i
  | none => .error (.valueError "invalid literal for int() with base 10")

/-- `int(x)` of a `float`, which drops the fraction. -/
def intOfFloat (bits : Nat) : Result Int :=
  let exponent := bits / 2 ^ 52 % 2048
  let fraction := bits % 2 ^ 52
  if exponent = 2047 then
    if fraction = 0 then .error .overflowError
    else .error (.valueError "cannot convert float NaN to integer")
  else
    let magnitude : Nat :=
      if exponent = 0 then 0
      else if 1075 ≤ exponent then (2 ^ 52 + fraction) * 2 ^ (exponent - 1075)
      else (2 ^ 52 + fraction) / 2 ^ (1075 - exponent)
    .ok (if bits / 2 ^ 63 % 2 = 1 then -(magnitude : Int) else magnitude)

/-- `int(value)` -/
def PyVal.int? : PyVal → Result Int
  | .bool b => .ok (if b then 1 else 0)
  | .int i => .ok i
  | .float bits => intOfFloat bits
  | .str text => intOfText text
  | .none | .list _ | .dict _ => .error .typeError

/-- `int(str(n)) == n` -/
theorem intOfText_toString (n : Nat) : intOfText (Text.ofChars (toString n).toList) = .ok (n : Int) := by
  have digits : (toString n).toList = Nat.toDigits 10 n := String.toList_ofList
  have kept : (Text.ofChars (Nat.toDigits 10 n)).map asciiChar = (Nat.toDigits 10 n).map id := by
    rw [Text.ofChars, List.map_map]
    apply List.map_congr_left
    intro c member
    have digit := Nat.isDigit_of_mem_toDigits (by decide) (by decide) member
    have bounds : 48 ≤ c.toNat ∧ c.toNat ≤ 57 := by simpa [Char.isDigit, UInt32.le_iff_toNat_le] using digit
    exact if_pos (by omega)
  rw [intOfText, digits, kept, List.map_id, parseInt_toDigits]

/-! ## Texts that are no numbers -/

/-- The code points that begin the texts of messages, an apostrophe or letters.
No number begins with one of them, and all are ASCII. -/
def OpensMessage (c : Char) : Prop := c.toNat = 39 ∨ 58 ≤ c.toNat ∧ c.toNat < 127

theorem ne_of_opensMessage (opens : OpensMessage c) (other : ¬ OpensMessage d) : c ≠ d := by
  rintro rfl
  exact other opens

theorem not_space_of_opensMessage (opens : OpensMessage c) : isIntSpace c = false := by
  have notSpace : c ≠ ' ' := ne_of_opensMessage opens (by simp [OpensMessage])
  have notNextLine : c ≠ '\u0085' := ne_of_opensMessage opens (by simp [OpensMessage])
  have notNoBreak : c ≠ '\u00a0' := ne_of_opensMessage opens (by simp [OpensMessage])
  have notControl : ¬ c ≤ '\r' := by
    intro le
    have bound : c.toNat ≤ 13 := le
    rcases opens with apostrophe | ⟨low, _⟩
    · omega
    · omega
  simp [isIntSpace, notSpace, notNextLine, notNoBreak, notControl]

theorem not_digit_of_opensMessage (opens : OpensMessage c) : c.isDigit = false := by
  rw [Char.isDigit, Bool.and_eq_false_iff]
  rcases opens with apostrophe | ⟨low, _⟩
  · left
    have below : ¬ 48 ≤ c.val := by
      intro le
      have bound : 48 ≤ c.toNat := le
      omega
    simpa using below
  · right
    have above : ¬ c.val ≤ 57 := by
      intro le
      have bound : c.toNat ≤ 57 := le
      omega
    simpa using above

/-- A text that begins like a message is no number. -/
theorem parseInt_message (opens : OpensMessage c) (rest : List Char) : parseInt (c :: rest) = none := by
  have notSpace := not_space_of_opensMessage opens
  have kept : (c :: rest).dropWhile isIntSpace = c :: rest := by simp [notSpace]
  obtain ⟨middle, stripped⟩ : ∃ middle,
      ((c :: rest).reverse.dropWhile isIntSpace).reverse = c :: middle := by
    rw [List.reverse_cons, List.dropWhile_append]
    split
    · exact ⟨[], by simp [notSpace]⟩
    · exact ⟨(rest.reverse.dropWhile isIntSpace).reverse, by simp⟩
  have noDigits : parseDigits 0 false (c :: middle) = none := by
    simp [parseDigits, not_digit_of_opensMessage opens]
  have notMinus : c ≠ '-' := ne_of_opensMessage opens (by simp [OpensMessage])
  have notPlus : c ≠ '+' := ne_of_opensMessage opens (by simp [OpensMessage])
  simp only [parseInt, kept, stripped]
  split
  · rename_i digits same
    exact absurd (List.cons.inj same).1 notMinus
  · rename_i digits same
    exact absurd (List.cons.inj same).1 notPlus
  · rw [noDigits]
    rfl

/-- `int` raises `ValueError` for such a text. -/
theorem int?_message (opens : OpensMessage c) (rest : List Char) :
    PyVal.int? (.str (Text.ofChars (c :: rest))) =
      .error (.valueError "invalid literal for int() with base 10") := by
  have ascii : c.toNat < 127 := by
    rcases opens with apostrophe | ⟨_, high⟩
    · omega
    · exact high
  have first : asciiChar (.scalar c) = c := if_pos ascii
  have noNumber : parseInt ((Text.ofChars (c :: rest)).map asciiChar) = none := by
    rw [Text.ofChars, List.map_cons, List.map_cons, first]
    exact parseInt_message opens _
  simp only [PyVal.int?, intOfText, noNumber]

end PyAds
