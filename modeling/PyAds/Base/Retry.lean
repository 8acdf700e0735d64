import Mathlib.Data.List.Basic

/-! Attempts that are made one after the other, until one of them says that it
is not to be followed by the next. An attempt may take effect, and the effect has
a result of its own, which need not be what the attempt ends with. -/
namespace Retry
variable {ε : Type u} {α : Type v}

/-- How an attempt ends: for good, or with the error that lets the next one follow. -/
inductive Ending (ε : Type u) (α : Type v) where
  | done (outcome : Except ε α)
  | again (error : ε)

/-- The result of its effect, if there is one, and how the attempt ends. -/
structure Attempt (ε : Type u) (α : Type v) where
  effect : Option (Except ε α)
  ending : Ending ε α

/-- The effects of all attempts that are made, and the outcome of the last one. -/
def run : List (Attempt ε α) → ε → List (Except ε α) × Except ε α
  | [], lastError => ([], .error lastError)
  | attempt :: attempts, _ =>
    match attempt.ending with
    | .done outcome => (attempt.effect.toList, outcome)
    | .again error =>
      let (effects, outcome) := run attempts error
      (attempt.effect.toList ++ effects, outcome)

/-- There is one effect at most, and its result is a value that is also the outcome. -/
def Delivered (effects : List (Except ε α)) (outcome : Except ε α) : Prop :=
  effects.length ≤ 1 ∧ ∀ result ∈ effects, ∃ value, result = .ok value ∧ outcome = .ok value

/-- All attempts before this one let the next one follow. -/
def Made (attempts : List (Attempt ε α)) (attempt : Attempt ε α) : Prop :=
  ∃ before after, attempts = before ++ attempt :: after ∧ ∀ earlier ∈ before, ∃ error, earlier.ending = .again error

namespace Attempt

/-- If the attempt takes effect, it ends for good with the result. -/
def Sound (attempt : Attempt ε α) : Prop :=
  ∀ result, attempt.effect = some result → ∃ value, result = .ok value ∧ attempt.ending = .done (.ok value)

/-- The attempt does not end with a value unless it takes effect. -/
def Honest (attempt : Attempt ε α) : Prop :=
  ∀ value, attempt.ending = .done (.ok value) → ∃ result, attempt.effect = some result

end Attempt

theorem made_head (attempt : Attempt ε α) (attempts : List (Attempt ε α)) : Made (attempt :: attempts) attempt :=
  ⟨[], attempts, rfl, by simp⟩

/-- Behind an attempt that ends for good none is made. -/
theorem made_cons_done {attempt : Attempt ε α} (ended : attempt.ending = .done outcome) :
    Made (attempt :: attempts) other ↔ other = attempt := by
  constructor
  · rintro ⟨before, after, split, follow⟩
    cases before with
    | nil =>
      cases split
      rfl
    | cons first before =>
      cases split
      obtain ⟨error, again⟩ := follow _ List.mem_cons_self
      rw [ended] at again
      cases again
  · rintro rfl
    exact made_head ..

theorem made_cons_again {attempt : Attempt ε α} (again : attempt.ending = .again error) :
    Made (attempt :: attempts) other ↔ other = attempt ∨ Made attempts other := by
  constructor
  · rintro ⟨before, after, split, follow⟩
    cases before with
    | nil =>
      cases split
      exact .inl rfl
    | cons first before =>
      cases split
      exact .inr ⟨before, after, rfl, fun earlier member => follow earlier (List.mem_cons_of_mem _ member)⟩
  · rintro (rfl | ⟨before, after, rfl, follow⟩)
    · exact made_head ..
    · refine ⟨attempt :: before, after, rfl, ?_⟩
      intro earlier member
      rcases List.mem_cons.mp member with rfl | member
      · exact ⟨error, again⟩
      · exact follow earlier member

/-- A run of honest attempts that ends with a value has an effect. -/
theorem effects_of_value {attempts : List (Attempt ε α)} (honest : ∀ attempt ∈ attempts, attempt.Honest)
    (ended : (run attempts lastError).2 = .ok value) : (run attempts lastError).1 ≠ [] := by
  induction attempts generalizing lastError with
  | nil => cases ended
  | cons attempt attempts ih =>
    rw [run] at ended ⊢
    cases ending : attempt.ending with
    | done outcome =>
      rw [ending] at ended
      have value_ : outcome = .ok value := ended
      obtain ⟨result, effect⟩ := honest attempt List.mem_cons_self value (by rw [ending, value_])
      simp [effect]
    | again error =>
      rw [ending] at ended
      have later := ih (fun other member => honest other (List.mem_cons_of_mem _ member)) ended
      simp [later]

/-- The one effect is delivered exactly if every attempt that is made and takes
effect ends with its result: neither is it lost in an error, nor does an error
that comes after the effect let another attempt follow. -/
theorem delivered_iff {attempts : List (Attempt ε α)} (honest : ∀ attempt ∈ attempts, attempt.Honest) (lastError : ε) :
    Delivered (run attempts lastError).1 (run attempts lastError).2 ↔
      ∀ attempt, Made attempts attempt → attempt.Sound := by
  induction attempts generalizing lastError with
  | nil => simp [run, Delivered, Made]
  | cons attempt attempts ih =>
    have later := ih fun other member => honest other (List.mem_cons_of_mem _ member)
    rw [run]
    cases ending : attempt.ending with
    | done outcome =>
      simp only [made_cons_done ending, forall_eq]
      cases effect : attempt.effect <;> simp [Delivered, Attempt.Sound, effect, ending]
    | again error =>
      simp only [made_cons_again ending, forall_eq_or_imp, ← later error]
      cases effect : attempt.effect with
      | none => simp [Attempt.Sound, effect]
      | some result =>
        -- what follows cannot deliver this result without an effect of its own
        apply iff_of_false
        · rintro ⟨once, delivered⟩
          obtain ⟨value, -, ended⟩ := delivered result (by simp)
          have more := effects_of_value (fun other member => honest other (List.mem_cons_of_mem _ member)) ended
          apply more
          simpa using once
        · rintro ⟨sound, -⟩
          obtain ⟨value, -, ended⟩ := sound result effect
          rw [ending] at ended
          cases ended

end Retry
