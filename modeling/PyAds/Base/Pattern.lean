import Mathlib.Data.List.Basic

/-! Backtracking patterns on texts. A pattern is matched together with what
has to follow it: a repetition takes as much as it can and gives back only
what the rest of the pattern needs. A match is anchored at the front of the
text and may leave a rest. -/
namespace Pattern

variable {α : Type*}

/-- A fixed text. -/
def literal (expected : List Char) (next : List Char → Option α) (text : List Char) : Option α :=
  if expected.isPrefixOf text then next (text.drop expected.length) else none

/-- `.` -/
def anyChar (next : List Char → Option α) : List Char → Option α
  | [] => none
  | c :: rest => if c = '\n' then none else next rest

/-- `(\d+)`, for what counts as a digit. -/
def digits (isDigit : Char → Bool) : (List Char → List Char → Option α) → List Char → Option α
  | _, [] => none
  | next, c :: rest =>
    if isDigit c then
      match digits isDigit (fun group rest => next (c :: group) rest) rest with
      | some result => some result
      | none => next [c] rest
    else none

/-- `(.*)` -/
def anyChars : (List Char → List Char → Option α) → List Char → Option α
  | next, [] => next [] []
  | next, c :: rest =>
    if c = '\n' then next [] (c :: rest)
    else
      match anyChars (fun group rest => next (c :: group) rest) rest with
      | some result => some result
      | none => next [] (c :: rest)

/-! ## What a match consists of -/

theorem of_literal {next : List Char → Option α} (matched : literal expected next text = some result) :
    ∃ rest, text = expected ++ rest ∧ next rest = some result := by
  unfold literal at matched
  split at matched
  · rename_i front
    obtain ⟨rest, rfl⟩ := List.isPrefixOf_iff_prefix.mp front
    rw [List.drop_left] at matched
    exact ⟨rest, rfl, matched⟩
  · cases matched

theorem of_anyChar {next : List Char → Option α} (matched : anyChar next text = some result) :
    ∃ c rest, text = c :: rest ∧ next rest = some result := by
  cases text with
  | nil => cases matched
  | cons c rest =>
    rw [anyChar] at matched
    split at matched
    · cases matched
    · exact ⟨c, rest, rfl, matched⟩

theorem of_digits {next : List Char → List Char → Option α} (matched : digits isDigit next text = some result) :
    ∃ group rest, text = group ++ rest ∧ next group rest = some result := by
  induction text generalizing next with
  | nil => cases matched
  | cons c text ih =>
    rw [digits] at matched
    split at matched
    · split at matched
      · rename_i longer
        cases matched
        obtain ⟨group, rest, rfl, continued⟩ := ih longer
        exact ⟨c :: group, rest, rfl, continued⟩
      · exact ⟨[c], text, rfl, matched⟩
    · cases matched

theorem of_anyChars {next : List Char → List Char → Option α} (matched : anyChars next text = some result) :
    ∃ group rest, text = group ++ rest ∧ next group rest = some result := by
  induction text generalizing next with
  | nil => exact ⟨[], [], rfl, matched⟩
  | cons c text ih =>
    rw [anyChars] at matched
    split at matched
    · exact ⟨[], c :: text, rfl, matched⟩
    · split at matched
      · rename_i longer
        cases matched
        obtain ⟨group, rest, rfl, continued⟩ := ih longer
        exact ⟨c :: group, rest, rfl, continued⟩
      · exact ⟨[], c :: text, rfl, matched⟩

/-! ## Matches that succeed -/

theorem literal_append (expected : List Char) (next : List Char → Option α) (rest : List Char) :
    literal expected next (expected ++ rest) = next rest := by
  rw [literal, if_pos (List.isPrefixOf_iff_prefix.mpr (List.prefix_append ..)), List.drop_left]

theorem anyChar_cons {c : Char} (other : c ≠ '\n') (next : List Char → Option α) (rest : List Char) :
    anyChar next (c :: rest) = next rest :=
  if_neg other

/-- All digits up to another character are taken first. -/
theorem digits_append {next : List Char → List Char → Option α} {group : List Char}
    (decimal : ∀ c ∈ group, isDigit c) (some_ : group ≠ []) (stop : ∀ c ∈ rest.head?, ¬ isDigit c)
    (matched : next group rest = some result) : digits isDigit next (group ++ rest) = some result := by
  induction group generalizing next with
  | nil => exact absurd rfl some_
  | cons c group ih =>
    obtain ⟨here, later⟩ := List.forall_mem_cons.mp decimal
    rw [List.cons_append, digits, if_pos here]
    by_cases last : group = []
    · subst last
      have none_ : digits isDigit (fun group rest => next (c :: group) rest) rest = none := by
        cases rest with
        | nil => rfl
        | cons other rest => rw [digits, if_neg (stop other (by simp))]
      rw [List.nil_append, none_]
      exact matched
    · have longer : digits isDigit (fun group rest => next (c :: group) rest) (group ++ rest) = some result :=
        ih later last matched
      rw [longer]

/-- The longest group with which the rest of the pattern matches is taken. -/
theorem anyChars_append {next : List Char → List Char → Option α} {group : List Char} (line : '\n' ∉ group)
    (longest : ∀ more rest', rest = more ++ rest' → more ≠ [] → next (group ++ more) rest' = none)
    (matched : next group rest = some result) : anyChars next (group ++ rest) = some result := by
  induction group generalizing next with
  | nil =>
    cases rest with
    | nil => exact matched
    | cons c rest =>
      rw [List.nil_append, anyChars]
      by_cases newline : c = '\n'
      · rw [if_pos newline, matched]
      · rw [if_neg newline]
        have none_ : anyChars (fun group rest => next (c :: group) rest) rest = none := by
          by_contra other
          obtain ⟨result', found⟩ := Option.ne_none_iff_exists'.mp other
          obtain ⟨more, rest', rfl, continued⟩ := of_anyChars found
          cases (longest (c :: more) rest' rfl (by simp)).symm.trans continued
        rw [none_]
        exact matched
  | cons c group ih =>
    obtain ⟨here, later⟩ := not_or.mp (List.mem_cons.not.mp line)
    have longer : anyChars (fun group rest => next (c :: group) rest) (group ++ rest) = some result :=
      ih later longest matched
    rw [List.cons_append, anyChars, if_neg (Ne.symm here), longer]

end Pattern
