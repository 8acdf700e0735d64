import Mathlib.Data.List.Infix

/-! Polling with a deadline. In each turn the state is read at some instant,
which may decide the outcome; behind the read the clock is compared with the
deadline, and only then comes a pause. -/
namespace Polling

/-- When the state is read, and what the clock says behind the read. -/
structure Turn where
  observed : Nat
  clock : Nat
  deriving DecidableEq, Repr

/-- How polling ends, with the clock behind the last read. -/
inductive Outcome (β : Type) where
  | decided (clock : Nat) (value : β)
  | expired (clock : Nat)
  | waiting
  deriving DecidableEq, Repr

def Expires (deadline : Option Nat) (clock : Nat) : Prop := ∃ instant ∈ deadline, instant ≤ clock

instance : Decidable (Expires deadline clock) :=
  decidable_of_iff (deadline.any (decide <| · ≤ clock) = true) <| by
    cases deadline <;> simp [Expires]

section
variable (decision : Nat → Option β) (deadline : Option Nat)

/-- The outcome of the turns; without an outcome there are more to come. -/
def poll : List Turn → Outcome β
  | [] => .waiting
  | turn :: turns =>
    match decision turn.observed with
    | some value => .decided turn.clock value
    | none => if Expires deadline turn.clock then .expired turn.clock else poll turns

end

variable {decision : Nat → Option β} {deadline : Option Nat} {turns : List Turn}

theorem undecided_of_waiting (waiting : poll decision deadline turns = .waiting) :
    ∀ turn ∈ turns, decision turn.observed = none := by
  induction turns with
  | nil => simp
  | cons first turns ih =>
    rw [poll] at waiting
    split at waiting
    · cases waiting
    · rename_i nothing
      split at waiting
      · cases waiting
      · exact List.forall_mem_cons.mpr ⟨nothing, ih waiting⟩

/-! ## Turns on time -/

/-- A read begins within the latency from the instant that is given, and ends
within the latency again; the next one begins behind the pause. -/
def Paced (latency interval : Nat) : Nat → List Turn → Prop
  | _, [] => True
  | start, turn :: turns =>
    start ≤ turn.observed ∧ turn.observed ≤ start + latency ∧ turn.observed ≤ turn.clock ∧
      turn.clock ≤ turn.observed + latency ∧ Paced latency interval (turn.clock + interval) turns

instance decidablePaced (latency interval : Nat) : ∀ start turns, Decidable (Paced latency interval start turns)
  | _, [] => isTrue trivial
  | start, turn :: turns =>
    have := decidablePaced latency interval (turn.clock + interval) turns
    inferInstanceAs (Decidable (start ≤ turn.observed ∧ turn.observed ≤ start + latency ∧ turn.observed ≤ turn.clock ∧
      turn.clock ≤ turn.observed + latency ∧ Paced latency interval (turn.clock + interval) turns))

section
variable {latency interval start settled : Nat} (paced : Paced latency interval start turns)
include paced

theorem Paced.le_observed (member : turn ∈ turns) : start ≤ turn.observed := by
  induction turns generalizing start with
  | nil => cases member
  | cons first turns ih =>
    obtain ⟨after, -, read, -, rest⟩ := paced
    rcases List.mem_cons.mp member with rfl | later
    · exact after
    · have behind := ih rest later
      omega

theorem Paced.reaches (many : turns.length = n + 1) : ∃ turn ∈ turns, start + n * interval ≤ turn.observed := by
  induction turns generalizing start n with
  | nil => cases many
  | cons first turns ih =>
    obtain ⟨after, -, read, -, rest⟩ := paced
    cases n with
    | zero => exact ⟨first, List.mem_cons_self .., by omega⟩
    | succ n =>
      obtain ⟨turn, member, late⟩ := ih rest (Nat.succ.inj many)
      refine ⟨turn, List.mem_cons_of_mem _ member, ?_⟩
      rw [Nat.add_mul, Nat.one_mul]
      omega

variable (decided : ∀ turn ∈ turns, settled < turn.observed → decision turn.observed ≠ none)
include decided

/-- A state that is settled early enough before the deadline is not missed: the
first turn that finds it decides the outcome. -/
theorem Paced.outcome (early : ∀ instant ∈ deadline, settled + latency < instant) :
    poll decision deadline turns = .waiting ∨ ∃ turn ∈ turns, ∃ value, decision turn.observed = some value ∧
      poll decision deadline turns = .decided turn.clock value ∧
      turn.clock ≤ max start (settled + latency + interval) + 2 * latency := by
  induction turns generalizing start with
  | nil => exact .inl rfl
  | cons first turns ih =>
    obtain ⟨after, soon, read, back, rest⟩ := paced
    obtain ⟨own, others⟩ := List.forall_mem_cons.mp decided
    rw [poll]
    cases found : decision first.observed with
    | some value => exact .inr ⟨first, List.mem_cons_self .., value, found, rfl, by omega⟩
    | none =>
      have unsettled : first.observed ≤ settled := by
        by_contra late
        exact own (Nat.lt_of_not_le late) found
      have alive : ¬ Expires deadline first.clock := by
        rintro ⟨instant, given, passed⟩
        have := early instant given
        omega
      dsimp only
      rw [if_neg alive]
      rcases ih rest others with waiting | ⟨turn, member, value, settles, outcome, prompt⟩
      · exact .inl waiting
      · exact .inr ⟨turn, List.mem_cons_of_mem _ member, value, settles, outcome, by omega⟩

/-- There is an outcome as soon as there are turns enough. -/
theorem Paced.not_waiting (many : turns.length = n + 1) (long : settled < start + n * interval) :
    poll decision deadline turns ≠ .waiting := by
  intro waiting
  obtain ⟨turn, member, late⟩ := paced.reaches many
  exact decided turn member (long.trans_le late) (undecided_of_waiting waiting turn member)

end

end Polling
