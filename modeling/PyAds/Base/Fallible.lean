import Mathlib.Data.List.Forall2

/-! Computations that return a value or an error, run one after the other.
What returned as a whole returned in each of its steps. -/
namespace Fallible

/-- A computation that returns has returned from its first step. -/
theorem bind_eq_ok {first : Except ε α} {next : α → Except ε β} :
    (first >>= next) = .ok result ↔ ∃ value, first = .ok value ∧ next value = .ok result := by
  cases first <;> simp [bind, Except.bind]

/-- Two computations of which neither needs the other's result. -/
theorem both_eq_ok {first : Except ε α} {second : Except ε β} {combine : α → β → γ} :
    (do
      let a ← first
      let b ← second
      return combine a b) = .ok c ↔ ∃ a b, first = .ok a ∧ second = .ok b ∧ c = combine a b := by
  simp only [bind_eq_ok, pure, Except.pure, Except.ok.injEq]
  constructor
  · rintro ⟨a, left, b, right, rfl⟩
    exact ⟨a, b, left, right, rfl⟩
  · rintro ⟨a, b, left, right, rfl⟩
    exact ⟨a, left, b, right, rfl⟩

/-- Two computations that return the same values fail together. -/
theorem toOption_congr {first second : Except ε α} (same : ∀ value, first = .ok value ↔ second = .ok value) :
    first.toOption = second.toOption := by
  cases first with
  | ok value => rw [(same value).mp rfl]
  | error e =>
    cases second with
    | ok value => cases (same value).mpr rfl
    | error e' => rfl

theorem map_eq_ok {first : Except ε α} {f : α → β} :
    first.map f = .ok result ↔ ∃ value, first = .ok value ∧ f value = result := by
  cases first <;> simp [Except.map]

/-- A map returns the results of its elements. -/
theorem mapM_eq_ok {f : α → Except ε β} {values : List α} :
    values.mapM f = .ok results ↔ List.Forall₂ (fun value result => f value = .ok result) values results := by
  induction values generalizing results with
  | nil => simp [pure, Except.pure, eq_comm]
  | cons value values ih =>
    rw [List.mapM_cons, List.forall₂_cons_left_iff, bind_eq_ok]
    simp only [bind_eq_ok, ih, pure, Except.pure, Except.ok.injEq]
    constructor
    · rintro ⟨head, first, tail, rest, rfl⟩
      exact ⟨head, tail, first, rest, rfl⟩
    · rintro ⟨head, tail, first, rest, rfl⟩
      exact ⟨head, first, tail, rest, rfl⟩

theorem mapM_congr {f g : α → Except ε β} {values : List α} (same : ∀ value ∈ values, f value = g value) :
    values.mapM f = values.mapM g := by
  induction values with
  | nil => rfl
  | cons value values ih =>
    rw [List.mapM_cons, List.mapM_cons, same value (by simp),
      ih fun other member => same other (List.mem_cons_of_mem _ member)]

/-- A map returns exactly if it returns for each element. -/
theorem exists_mapM_eq_ok {f : α → Except ε β} {values : List α} :
    (∃ results, values.mapM f = .ok results) ↔ ∀ value ∈ values, ∃ result, f value = .ok result := by
  induction values with
  | nil => simp [pure, Except.pure]
  | cons value values ih =>
    rw [List.forall_mem_cons, ← ih, List.mapM_cons]
    simp only [bind_eq_ok, pure, Except.pure, Except.ok.injEq]
    constructor
    · rintro ⟨_, head, first, tail, rest, -⟩
      exact ⟨⟨head, first⟩, tail, rest⟩
    · rintro ⟨⟨head, first⟩, tail, rest⟩
      exact ⟨_, head, first, tail, rest, rfl⟩

theorem forall₂_append_left {relates : α → β → Prop} {first second : List α} {others : List β} :
    List.Forall₂ relates (first ++ second) others ↔ ∃ head tail, List.Forall₂ relates first head ∧
      List.Forall₂ relates second tail ∧ others = head ++ tail := by
  constructor
  · intro related
    induction first generalizing others with
    | nil => exact ⟨[], others, .nil, related, rfl⟩
    | cons value first ih =>
      obtain ⟨other, rest, here, there, rfl⟩ := List.forall₂_cons_left_iff.mp related
      obtain ⟨head, tail, one, two, rfl⟩ := ih there
      exact ⟨other :: head, tail, .cons here one, two, rfl⟩
  · rintro ⟨head, tail, one, two, rfl⟩
    exact List.rel_append one two

theorem forall₂_congr {first second : α → β → Prop} {values : List α}
    (same : ∀ value ∈ values, ∀ other, first value other ↔ second value other) :
    List.Forall₂ first values others ↔ List.Forall₂ second values others := by
  induction values generalizing others with
  | nil => simp
  | cons value values ih =>
    obtain ⟨here, later⟩ := List.forall_mem_cons.mp same
    rw [List.forall₂_cons_left_iff, List.forall₂_cons_left_iff]
    simp only [here, ih later]

theorem exists_forall₂ {relates : α → β → Prop} {values : List α}
    (each : ∀ value ∈ values, ∃ other, relates value other) : ∃ others, List.Forall₂ relates values others := by
  induction values with
  | nil => exact ⟨[], .nil⟩
  | cons value values ih =>
    obtain ⟨⟨other, here⟩, later⟩ := List.forall_mem_cons.mp each
    obtain ⟨others, there⟩ := ih later
    exact ⟨other :: others, .cons here there⟩

theorem exists_of_mem_right {relates : α → β → Prop} (related : List.Forall₂ relates values others)
    (member : other ∈ others) : ∃ value ∈ values, relates value other := by
  induction related with
  | nil => cases member
  | cons here _ ih =>
    rcases List.mem_cons.mp member with rfl | member
    · exact ⟨_, List.mem_cons_self, here⟩
    · obtain ⟨value, held, relation⟩ := ih member
      exact ⟨value, List.mem_cons_of_mem _ held, relation⟩

end Fallible
