/-! Runs of a state machine over a list of inputs. What one step preserves holds
in all states of a run; where a step keeps the invariant exactly under some
condition, a run keeps it exactly if each of its steps meets the condition. -/
namespace Runs

section Machine
variable (step : σ → ι → σ)

/-- All states of a run, the first one included. -/
def states (s : σ) : List ι → List σ
  | [] => [s]
  | i :: is => s :: states (step s i) is

theorem foldl_mem_states (s : σ) (is : List ι) : is.foldl step s ∈ states step s is := by
  induction is generalizing s with
  | nil => exact List.mem_singleton.mpr rfl
  | cons i is ih => exact List.mem_cons_of_mem _ (ih (step s i))

/-- The invariant holds in all states of a run. -/
def Throughout (inv : σ → Prop) (s : σ) (is : List ι) : Prop := ∀ t ∈ states step s is, inv t

/-- Each input satisfies the condition in the state that it meets. -/
def Along (condition : σ → ι → Prop) (s : σ) : List ι → Prop
  | [] => True
  | i :: is => condition s i ∧ Along condition (step s i) is

instance decidableAlong (condition : σ → ι → Prop) [∀ s i, Decidable (condition s i)] :
    ∀ s is, Decidable (Along step condition s is)
  | _, [] => isTrue trivial
  | s, i :: is =>
    have := decidableAlong condition (step s i) is
    inferInstanceAs (Decidable (condition s i ∧ Along step condition (step s i) is))

end Machine

variable {step : σ → ι → σ}

theorem along_iff {inv : σ → Prop} {lawful first second : σ → ι → Prop}
    (same : ∀ s i, inv s → lawful s i → (first s i ↔ second s i))
    (kept : ∀ s i, inv s → lawful s i → second s i → inv (step s i)) {is : List ι} (start : inv s)
    (law : Along step lawful s is) : Along step first s is ↔ Along step second s is := by
  induction is generalizing s with
  | nil => exact Iff.rfl
  | cons i is ih =>
    obtain ⟨here, later⟩ := law
    constructor
    · rintro ⟨holds, rest⟩
      have met := (same s i start here).mp holds
      exact ⟨met, (ih (kept s i start here met) later).mp rest⟩
    · rintro ⟨met, rest⟩
      exact ⟨(same s i start here).mpr met, (ih (kept s i start here met) later).mpr rest⟩

theorem throughout_iff {inv : σ → Prop} {is : List ι} :
    Throughout step inv s is ↔ inv s ∧ Along step (fun s i => inv (step s i)) s is := by
  unfold Throughout
  induction is generalizing s with
  | nil => simp [states, Along]
  | cons i is ih =>
    rw [states, List.forall_mem_cons, ih, Along]

theorem along_of_throughout {inv : σ → Prop} {is : List ι} (held : Throughout step inv s is) :
    Along step (fun s _ => inv s) s is := by
  induction is generalizing s with
  | nil => trivial
  | cons i is ih =>
    unfold Throughout at held ih
    rw [states, List.forall_mem_cons] at held
    exact ⟨held.1, ih held.2⟩

theorem along_true {is : List ι} : Along step (fun _ _ => True) s is := by
  induction is generalizing s with
  | nil => trivial
  | cons i is ih => exact ⟨trivial, ih⟩

theorem along_append {condition : σ → ι → Prop} {first second : List ι} : Along step condition s (first ++ second) ↔
    Along step condition s first ∧ Along step condition (first.foldl step s) second := by
  induction first generalizing s with
  | nil => simp [Along]
  | cons i is ih => rw [List.cons_append, Along, Along, ih, List.foldl_cons, and_assoc]

theorem along_and {first second : σ → ι → Prop} {is : List ι} :
    Along step (fun s i => first s i ∧ second s i) s is ↔ Along step first s is ∧ Along step second s is := by
  induction is generalizing s with
  | nil => simp [Along]
  | cons i is ih =>
    simp only [Along, ih]
    constructor
    · rintro ⟨⟨one, two⟩, ones, twos⟩
      exact ⟨⟨one, ones⟩, two, twos⟩
    · rintro ⟨⟨one, ones⟩, two, twos⟩
      exact ⟨⟨one, two⟩, ones, twos⟩

/-- A condition that no step changes is one on the inputs. -/
theorem along_iff_forall {inv : σ → Prop} {good : σ → ι → Prop} {fixed : ι → Prop}
    (same : ∀ s i, inv s → (good s i ↔ fixed i)) (kept : ∀ s i, inv s → inv (step s i)) {is : List ι}
    (start : inv s) : Along step good s is ↔ ∀ i ∈ is, fixed i := by
  induction is generalizing s with
  | nil => simp [Along]
  | cons i is ih => rw [Along, List.forall_mem_cons, same s i start, ih (kept s i start)]

theorem along_of_forall {fixed : ι → Prop} {is : List ι} (each : ∀ i ∈ is, fixed i) :
    Along step (fun _ i => fixed i) s is := by
  induction is generalizing s with
  | nil => trivial
  | cons i is ih =>
    obtain ⟨here, rest⟩ := List.forall_mem_cons.mp each
    exact ⟨here, ih rest⟩

/-- What a step can only lose holds after a run exactly if it held before, and
each step has met its condition. -/
theorem last_iff {inv : σ → Prop} {lawful good : σ → ι → Prop}
    (exact_ : ∀ s i, lawful s i → (inv (step s i) ↔ inv s ∧ good s i)) {is : List ι}
    (law : Along step lawful s is) : inv (is.foldl step s) ↔ inv s ∧ Along step good s is := by
  induction is generalizing s with
  | nil => exact (and_iff_left trivial).symm
  | cons i is ih =>
    obtain ⟨here, later⟩ := law
    rw [List.foldl_cons, ih later, exact_ s i here, and_assoc]
    exact Iff.rfl

/-- What each step keeps holds in all states of a run. -/
theorem throughout_of_kept {inv : σ → Prop} {lawful : σ → ι → Prop}
    (kept : ∀ s i, inv s → lawful s i → inv (step s i)) {is : List ι} (start : inv s)
    (law : Along step lawful s is) : Throughout step inv s is := by
  refine throughout_iff.mpr ⟨start, ?_⟩
  exact (along_iff (fun s i held lawful => iff_of_true (kept s i held lawful) trivial)
    (fun s i held lawful _ => kept s i held lawful) start law).mpr along_true

/-- A run keeps an invariant exactly if each of its steps does. -/
theorem invariant_iff {inv : σ → Prop} {lawful good : σ → ι → Prop}
    (exact_ : ∀ s i, inv s → lawful s i → (inv (step s i) ↔ good s i)) {is : List ι} (start : inv s)
    (law : Along step lawful s is) : Throughout step inv s is ↔ Along step good s is := by
  rw [throughout_iff, and_iff_right start]
  exact along_iff exact_ (fun s i inv law met => (exact_ s i inv law).mpr met) start law

/-- Where a property can only be lost together with the invariant behind it, a
run has it throughout exactly if each step meets the condition. -/
theorem throughout_iff_of_lost {inv property : σ → Prop} {lawful good : σ → ι → Prop}
    (holds : ∀ s, inv s → property s) (kept : ∀ s i, inv s → lawful s i → good s i → inv (step s i))
    (lost : ∀ s i, inv s → lawful s i → ¬ good s i → ¬ property (step s i)) {is : List ι} (start : inv s)
    (law : Along step lawful s is) : Throughout step property s is ↔ Along step good s is := by
  induction is generalizing s with
  | nil =>
    refine iff_of_true ?_ trivial
    intro t member
    cases List.mem_singleton.mp member
    exact holds s start
  | cons i is ih =>
    obtain ⟨here, later⟩ := law
    have split : Throughout step property s (i :: is) ↔ property s ∧ Throughout step property (step s i) is := by
      unfold Throughout
      rw [states, List.forall_mem_cons]
    rw [split, and_iff_right (holds s start), Along]
    by_cases met : good s i
    · rw [and_iff_right met, ih (kept s i start here met) later]
    · refine iff_of_false ?_ fun both => met both.1
      intro throughout
      have first := throughout_iff.mp throughout
      exact lost s i start here met first.1

end Runs
