import PyAds.Base.Runs

/-! A buffered value beside a fallible transfer. An operation either assigns what
it has transferred, or assigns first and transfers then; the buffer should hold
the value transferred last, which a record of the transfers tells. -/
namespace LoggedBuffer
open Runs

/-! ## Assignments -/

/-- `value = transfer()`: nothing is assigned where the transfer fails. -/
def assignAfter (transfer : Except ε α) (buffered : α) : Except ε α × α :=
  match transfer with
  | .error e => (.error e, buffered)
  | .ok value => (.ok value, value)

/-- `value = newValue`, and then the transfer of it. -/
def assignBefore (transfer : Except ε Unit) (newValue : α) : Except ε α × α :=
  (transfer.map fun _ => newValue, newValue)

/-- An operation that succeeds leaves in the buffer what it has transferred. -/
def Honest (outcome : Except ε α × α) : Prop := ∀ value, outcome.1 = .ok value → outcome.2 = value

/-- An operation that fails leaves the buffer as it was. -/
def Keeps (buffered : α) (outcome : Except ε α × α) : Prop := ∀ e, outcome.1 = .error e → outcome.2 = buffered

theorem honest_assignAfter (transfer : Except ε α) (buffered : α) : Honest (assignAfter transfer buffered) := by
  rintro value succeeded
  cases transfer with
  | error e => cases succeeded
  | ok result => exact Except.ok.inj succeeded

theorem keeps_assignAfter (transfer : Except ε α) (buffered : α) : Keeps buffered (assignAfter transfer buffered) := by
  rintro e failed
  cases transfer with
  | error e => rfl
  | ok result => cases failed

theorem honest_assignBefore (transfer : Except ε Unit) (newValue : α) : Honest (assignBefore transfer newValue) := by
  rintro value succeeded
  cases transfer with
  | error e => cases succeeded
  | ok _ => exact Except.ok.inj succeeded

/-- Assigned too early, another value stays behind where the transfer fails. -/
theorem keeps_assignBefore_iff {transfer : Except ε Unit} {newValue buffered : α} :
    Keeps buffered (assignBefore transfer newValue) ↔ newValue = buffered ∨ transfer = .ok () := by
  cases transfer with
  | error e => simp [Keeps, assignBefore, Except.map]
  | ok _ => simp [Keeps, assignBefore, Except.map]

/-! ## Runs -/

/-- The buffered value, and the values that have been transferred, the last one
first. -/
structure Logged (α : Type) where
  value : α
  transferred : List α

namespace Logged
variable {α : Type}

/-- Before the first transfer. -/
def start (initial : α) : Logged α := ⟨initial, []⟩

/-- The state after an operation with this outcome. -/
def record (s : Logged α) (outcome : Except ε α × α) : Logged α :=
  ⟨outcome.2, outcome.1.toOption.toList ++ s.transferred⟩

/-- The buffer holds the value transferred last, or still the initial one. -/
def HoldsLast (initial : α) (s : Logged α) : Prop := s.value = s.transferred.headD initial

theorem holdsLast_record_iff {s : Logged α} {outcome : Except ε α × α} (holds : s.HoldsLast initial)
    (honest : Honest outcome) : (s.record outcome).HoldsLast initial ↔ Keeps s.value outcome := by
  obtain ⟨result, value⟩ := outcome
  cases result with
  | error e =>
    have unchanged : (s.record ((.error e : Except ε α), value)).HoldsLast initial ↔ value = s.value := by
      rw [HoldsLast] at holds
      rw [holds]
      rfl
    rw [unchanged]
    simp [Keeps]
  | ok transferred =>
    have new : value = transferred := honest transferred rfl
    exact iff_of_true new (by rintro e ⟨⟩)

end Logged

/-- A run of honest operations has the last transferred value in the buffer all
the time exactly if each operation that fails keeps the buffer. -/
theorem throughout_holdsLast_iff {perform : ι → α → Except ε α × α} (honest : ∀ i value, Honest (perform i value))
    (initial : α) (is : List ι) :
    Throughout (fun s i => s.record (perform i s.value)) (Logged.HoldsLast initial) (Logged.start initial) is ↔
      Along (fun s i => s.record (perform i s.value)) (fun s i => Keeps s.value (perform i s.value))
        (Logged.start initial) is := by
  refine invariant_iff ?_ rfl along_true
  intro s i holds _
  exact Logged.holdsLast_record_iff holds (honest i s.value)

end LoggedBuffer
