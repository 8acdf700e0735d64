import Mathlib.Data.List.Induction
import Mathlib.Logic.Function.Basic

/-! Values under keys, as a log of writes leaves them: each key has the value
that was written to it last, or its initial one. -/
namespace WriteLog

variable {ι β : Type} [DecidableEq ι]

/-- The value of a key behind the writes of a log. -/
def lastWritten (initial : ι → β) (log : List (ι × β)) (key : ι) : β :=
  (((log.filter (·.1 = key)).getLast?).map Prod.snd).getD (initial key)

@[simp] theorem lastWritten_nil (initial : ι → β) : lastWritten initial [] = initial := rfl

/-- The last write decides about its own key only. -/
theorem lastWritten_concat (initial : ι → β) (log : List (ι × β)) (key : ι) (value : β) :
    lastWritten initial (log ++ [(key, value)]) = Function.update (lastWritten initial log) key value := by
  funext other
  by_cases same : key = other
  · subst same
    simp [lastWritten]
  · simp [lastWritten, same, Ne.symm same]

/-- A log goes on where the one before it has ended. -/
theorem lastWritten_append (initial : ι → β) (log more : List (ι × β)) :
    lastWritten initial (log ++ more) = lastWritten (lastWritten initial log) more := by
  induction more using List.reverseRecOn with
  | nil => simp
  | append_singleton more write ih =>
    rw [← List.append_assoc, lastWritten_concat, ih, lastWritten_concat]

theorem lastWritten_cons (initial : ι → β) (key : ι) (value : β) (log : List (ι × β)) :
    lastWritten initial ((key, value) :: log) = lastWritten (Function.update initial key value) log := by
  have first := lastWritten_concat initial [] key value
  rw [List.nil_append, lastWritten_nil] at first
  rw [← List.singleton_append, lastWritten_append, first]

/-! ## Changes -/

section Changes
variable [DecidableEq β]

/-- The values by which a log changes a key, one after the other. -/
def changes (key : ι) : β → List (ι × β) → List β
  | _, [] => []
  | value, (other, new) :: log =>
    if other = key ∧ value ≠ new then new :: changes key new log else changes key value log

/-- The last change leaves what was written last. -/
theorem getLast?_changes (initial : ι → β) (key : ι) (log : List (ι × β)) :
    (changes key (initial key) log).getLast?.getD (initial key) = lastWritten initial log key := by
  induction log generalizing initial with
  | nil => rfl
  | cons write log ih =>
    obtain ⟨other, new⟩ := write
    have later := ih (Function.update initial other new)
    rw [lastWritten_cons, ← later, changes]
    by_cases same : other = key
    · subst same
      by_cases differs : initial other = new
      · have unchanged : Function.update initial other new other = initial other :=
          (Function.update_self ..).trans differs.symm
        rw [if_neg (fun both => both.2 differs), unchanged]
      · rw [if_pos ⟨rfl, differs⟩, Function.update_self, List.getLast?_cons]
        rfl
    · rw [if_neg (fun both => same both.1), Function.update_of_ne (Ne.symm same)]

theorem changes_append (initial : ι → β) (key : ι) (log more : List (ι × β)) :
    changes key (initial key) (log ++ more) =
      changes key (initial key) log ++ changes key (lastWritten initial log key) more := by
  induction log generalizing initial with
  | nil => rfl
  | cons write log ih =>
    obtain ⟨other, new⟩ := write
    have later := ih (Function.update initial other new)
    rw [List.cons_append, lastWritten_cons, changes, changes]
    by_cases same : other = key
    · subst same
      rw [Function.update_self] at later
      by_cases differs : initial other = new
      · rw [if_neg (fun both => both.2 differs), if_neg (fun both => both.2 differs), differs, later]
      · rw [if_pos ⟨rfl, differs⟩, if_pos ⟨rfl, differs⟩, later, List.cons_append]
    · rw [Function.update_of_ne (Ne.symm same)] at later
      rw [if_neg (fun both => same both.1), if_neg (fun both => same both.1), later]

end Changes

end WriteLog
