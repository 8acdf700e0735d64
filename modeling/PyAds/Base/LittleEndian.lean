import Mathlib.Tactic.Ring
import Mathlib.Tactic.Linarith

/-! Fixed-width little-endian integers. A width in bytes fixes both the range
of representable numbers and the number of bytes; within that range writing
and reading are inverse to each other in both directions, for unsigned
numbers and for two's complement ones. -/
namespace LittleEndian

/-- The `width` low bytes of `n`, least significant first. -/
def ofNat : Nat → Nat → List UInt8
  | 0, _ => []
  | width + 1, n => UInt8.ofNat n :: ofNat width (n / 256)

/-- The number a byte sequence denotes, least significant byte first. -/
def toNat : List UInt8 → Nat
  | [] => 0
  | byte :: rest => byte.toNat + 256 * toNat rest

/-- Two's complement: a negative number is written modulo `256 ^ width`. -/
def ofInt (width : Nat) (i : Int) : List UInt8 :=
  ofNat width (i % 256 ^ width).toNat

/-- The upper half of the unsigned range denotes the negative numbers. -/
def toInt (bytes : List UInt8) : Int :=
  if 2 * toNat bytes < 256 ^ bytes.length then toNat bytes
  else (toNat bytes : Int) - 256 ^ bytes.length

@[simp] theorem length_ofNat (width n : Nat) : (ofNat width n).length = width := by
  induction width generalizing n with
  | zero => rfl
  | succ width ih => simp [ofNat, ih]

@[simp] theorem length_ofInt (width : Nat) (i : Int) : (ofInt width i).length = width :=
  length_ofNat _ _

theorem toNat_lt (bytes : List UInt8) : toNat bytes < 256 ^ bytes.length := by
  induction bytes with
  | nil => simp [toNat]
  | cons byte rest ih =>
    have bound := byte.toNat_lt
    simp only [toNat, List.length_cons, Nat.pow_succ]
    omega

/-- Reading back keeps exactly the bits the width has room for. -/
theorem toNat_ofNat (width n : Nat) : toNat (ofNat width n) = n % 256 ^ width := by
  induction width generalizing n with
  | zero => simp [ofNat, toNat, Nat.mod_one]
  | succ width ih =>
    have low : (UInt8.ofNat n).toNat = n % 256 := by simp
    rw [ofNat, toNat, ih, low, Nat.pow_succ', Nat.mod_mul]

theorem toNat_ofNat_of_lt (bound : n < 256 ^ width) : toNat (ofNat width n) = n := by
  rw [toNat_ofNat, Nat.mod_eq_of_lt bound]

theorem ofNat_toNat (bytes : List UInt8) : ofNat bytes.length (toNat bytes) = bytes := by
  induction bytes with
  | nil => rfl
  | cons byte rest ih =>
    have bound := byte.toNat_lt
    have high : (byte.toNat + 256 * toNat rest) / 256 = toNat rest := by omega
    have low : UInt8.ofNat (byte.toNat + 256 * toNat rest) = byte := by
      apply UInt8.toNat_inj.mp
      simp only [UInt8.toNat_ofNat']
      omega
    simp only [toNat, List.length_cons, ofNat, high, low, ih]

theorem toInt_ofInt (low : -(256 ^ width : Int) ≤ 2 * i) (high : 2 * i < 256 ^ width) :
    toInt (ofInt width i) = i := by
  have positive : (0 : Int) < 256 ^ width := by positivity
  have residue : ((i % 256 ^ width).toNat : Int) = i % 256 ^ width :=
    Int.toNat_of_nonneg (Int.emod_nonneg _ positive.ne')
  have bound : (i % 256 ^ width).toNat < 256 ^ width := by
    have below := Int.emod_lt_of_pos i positive
    zify
    omega
  have cast : ((256 ^ width : Nat) : Int) = 256 ^ width := by push_cast; rfl
  simp only [toInt, ofInt, length_ofNat, toNat_ofNat_of_lt bound, residue]
  by_cases negative : i < 0
  · have wrapped : i % 256 ^ width = i + 256 ^ width := by
      rw [← Int.add_emod_right, Int.emod_eq_of_lt (by omega) (by omega)]
    rw [if_neg (by zify; omega), wrapped]
    omega
  · have kept : i % 256 ^ width = i := Int.emod_eq_of_lt (by omega) (by omega)
    rw [if_pos (by zify; omega), kept]

theorem toInt_bounds (bytes : List UInt8) :
    -(256 ^ bytes.length : Int) ≤ 2 * toInt bytes ∧ 2 * toInt bytes < 256 ^ bytes.length := by
  have bound : (toNat bytes : Int) < 256 ^ bytes.length := by exact_mod_cast toNat_lt bytes
  have cast : ((256 ^ bytes.length : Nat) : Int) = 256 ^ bytes.length := by push_cast; rfl
  unfold toInt
  split
  · rename_i upper
    zify at upper
    constructor <;> omega
  · rename_i lower
    zify at lower
    constructor <;> omega

theorem ofInt_toInt (bytes : List UInt8) : ofInt bytes.length (toInt bytes) = bytes := by
  have bound : (toNat bytes : Int) < 256 ^ bytes.length := by exact_mod_cast toNat_lt bytes
  have residue : toInt bytes % 256 ^ bytes.length = (toNat bytes : Int) := by
    unfold toInt
    split
    · exact Int.emod_eq_of_lt (by omega) bound
    · rw [← Int.add_emod_right, Int.sub_add_cancel, Int.emod_eq_of_lt (by omega) bound]
  rw [ofInt, residue, Int.toNat_natCast, ofNat_toNat]

end LittleEndian
