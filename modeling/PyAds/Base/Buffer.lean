import Mathlib.Data.List.Basic

/-! Assignments to slices of a growable buffer. A slice may be replaced by a
sequence of another length; indices beyond the end are cut back to it and
negative ones count from there. An assignment is in place if it neither grows
nor shrinks the buffer. -/
namespace Buffer

/-- The position a slice index denotes. -/
def clampIndex (length : Nat) (i : Int) : Nat :=
  if i < 0 then (i + length).toNat else min i.toNat length

/-- `buf[start:stop] = value` -/
def assignSlice (buf : List α) (start stop : Int) (value : List α) : List α :=
  let first := clampIndex buf.length start
  let last := max first (clampIndex buf.length stop)
  buf.take first ++ value ++ buf.drop last

/-- Replaces as many elements as are written. -/
def overwrite (buf : List α) (offset : Nat) (value : List α) : List α :=
  buf.take offset ++ value ++ buf.drop (offset + value.length)

/-- `count` elements from `start` on are replaced. -/
def replace (buf : List α) (start count : Nat) (value : List α) : List α :=
  buf.take start ++ value ++ buf.drop (start + count)

theorem overwrite_eq_replace (buf : List α) (offset : Nat) (value : List α) :
    overwrite buf offset value = replace buf offset value.length value := rfl

/-- With non-negative indices the end of the buffer makes no difference. -/
theorem assignSlice_eq_replace (buf : List α) (start count : Nat) (value : List α) :
    assignSlice buf start (start + count) value = replace buf start count value := by
  have first : clampIndex buf.length start = min start buf.length := by
    unfold clampIndex
    rw [if_neg (by omega)]
    omega
  have last : clampIndex buf.length (start + count : Int) = min (start + count) buf.length := by
    unfold clampIndex
    rw [if_neg (by omega)]
    omega
  have span : max (min start buf.length) (min (start + count) buf.length) =
      min (start + count) buf.length := by omega
  rw [assignSlice, first, last, span, replace]
  congr 1
  · simp
  · by_cases inside : start + count ≤ buf.length
    · rw [Nat.min_eq_left inside]
    · rw [Nat.min_eq_right (by omega), List.drop_length, List.drop_eq_nil_of_le (by omega)]

/-- Replacing a slice by at least as many elements never shrinks the buffer,
and keeps its length exactly if the slice lies within it and its length too. -/
theorem length_replace (buf : List α) (start : Nat) (enough : count ≤ value.length) :
    buf.length ≤ (replace buf start count value).length ∧
      ((replace buf start count value).length = buf.length ↔
        value.length = count ∧ (count = 0 ∨ start + count ≤ buf.length)) := by
  simp only [replace, List.length_append, List.length_take, List.length_drop]
  omega

/-- Replacing a part of what lies behind a prefix. -/
theorem replace_append (done data : List α) (start count : Nat) (value : List α) :
    replace (done ++ data) (done.length + start) count value = done ++ replace data start count value := by
  simp only [replace, Nat.add_assoc, List.take_length_add_append, List.drop_length_add_append,
    List.append_assoc]

/-- A replacement within a part of a buffer leaves what surrounds the part. -/
theorem replace_frame (before : List α) {data : List α} (after : List α) {start count : Nat}
    (inside : start + count ≤ data.length) (value : List α) :
    replace (before ++ data ++ after) (before.length + start) count value =
      before ++ replace data start count value ++ after := by
  rw [List.append_assoc, replace_append, replace, replace, List.take_append_of_le_length (by omega),
    List.drop_append_of_le_length inside]
  simp only [List.append_assoc]

/-- A replacement in place decides the positions of its slice. -/
theorem getElem?_replace {buf value : List α} (exact_ : value.length = count) (inside : start + count ≤ buf.length)
    (p : Nat) : (replace buf start count value)[p]? =
      if start ≤ p ∧ p < start + count then value[p - start]? else buf[p]? := by
  have front : (buf.take start).length = start := by simp only [List.length_take]; omega
  rw [replace, List.append_assoc]
  by_cases early : p < start
  · rw [List.getElem?_append_left (by omega), List.getElem?_take_of_lt early, if_neg (by omega)]
  · rw [List.getElem?_append_right (by omega), front]
    by_cases within : p < start + count
    · rw [List.getElem?_append_left (by omega), if_pos (by omega)]
    · rw [List.getElem?_append_right (by omega), if_neg (by omega), List.getElem?_drop]
      congr 1
      omega

/-- At the front of a blank region. -/
theorem replace_replicate (a : α) (m count : Nat) (value : List α) :
    replace (List.replicate m a) 0 count value = value ++ List.replicate (m - count) a := by
  simp [replace]

/-- An empty slice replaced by nothing, wherever its index points. -/
theorem assignSlice_nil (buf : List α) (start : Int) : assignSlice buf start start [] = buf := by
  simp [assignSlice]

@[simp] theorem replace_nil (buf : List α) (start : Nat) : replace buf start 0 [] = buf := by
  simp [replace]

end Buffer
