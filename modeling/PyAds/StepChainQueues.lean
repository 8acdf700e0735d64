import Mathlib.Data.List.Count
import PyAds.StepChainTransitions

/-! The queue of a connection and the calls that its operations have submitted:
no call is lost, and none is in the queue twice. -/
namespace PyAds

/-- The calls that an operation has in the queue of its connection. -/
def StepChainOperation.calls (op : StepChainOperation) : Nat × List Request := (op.connection, op.submitted)

namespace StepChainSystem
variable {objectName methodName : String} {s t : StepChainSystem}

/-- The queue of its connection names an operation once for each call that it
has submitted, and no other queue names it. -/
def Queued (s : StepChainSystem) : Prop :=
  ∀ k connection, (s.queues connection).count k =
    match s.operations[k]? with
    | none => 0
    | some op => if connection = op.connection then op.submitted.length else 0

theorem Queued.of_count (held : s.Queued) (current : s.operations[k]? = some op) (connection : Nat) :
    (s.queues connection).count k = if connection = op.connection then op.submitted.length else 0 := by
  rw [held k connection, current]

/-- Changes outside of the queues and the submitted calls. -/
theorem Queued.congr (held : s.Queued) (queues : t.queues = s.queues)
    (calls : ∀ k : Nat, (t.operations[k]?).map StepChainOperation.calls =
      (s.operations[k]?).map StepChainOperation.calls) : t.Queued := by
  intro k connection
  rw [queues, held k connection]
  have same := calls k
  cases before : s.operations[k]? with
  | none =>
    rw [before, Option.map_none, Option.map_eq_none_iff] at same
    rw [same]
  | some op =>
    rw [before, Option.map_some, Option.map_eq_some_iff] at same
    obtain ⟨after, there, equal⟩ := same
    simp only [StepChainOperation.calls, Prod.mk.injEq] at equal
    rw [there]
    simp only [equal]

/-- What an operation does without submitting a call. -/
theorem Queued.modify (held : s.Queued) (calls : ∀ op : StepChainOperation,
    (f op).calls = op.calls) : (s.modify k f).Queued := by
  refine held.congr rfl fun j => ?_
  simp only [StepChainSystem.modify, List.getElem?_modify]
  cases s.operations[j]? with
  | none => rfl
  | some op => by_cases here : k = j <;> simp only [here, if_true, if_false, Option.map_some,
    Option.map_eq_map, calls]

theorem Queued.setBlock (held : s.Queued) (block : FunctionBlock) : (s.setBlock block).Queued := by
  refine held.congr rfl fun j => ?_
  simp only [StepChainSystem.setBlock, List.getElem?_map, Option.map_map]
  rfl

theorem Queued.plcStep (held : s.Queued) (block : FunctionBlock) : (s.plcStep block).Queued := by
  unfold StepChainSystem.plcStep
  split
  · exact held.setBlock block
  · exact (held.setBlock block).modify fun _ => rfl

theorem Queued.start (held : s.Queued) (k : Nat) (op : StepChainOperation) (forceError : Bool) :
    (s.start k op forceError).Queued := by
  unfold StepChainSystem.start
  simp only
  split
  · have begun : ((s.setBlock (s.block.start (udint op.requestId) forceError).2).modify k fun op =>
        { op with answer := some true, chain := some .running }).Queued := (held.setBlock _).modify fun _ => rfl
    exact begun
  · exact held.modify fun _ => rfl

theorem calls_stop (op : StepChainOperation) : op.stop.calls = op.calls := rfl

theorem calls_receive (op : StepChainOperation)
    (seen : StatusRead) : (op.receive seen).calls = op.calls := by
  unfold StepChainOperation.receive
  split <;> rfl

theorem Queued.execute (held : s.Queued) (k : Nat) (op : StepChainOperation) (request : Request) (fault : Fault)
    (forceError : Bool) : (s.execute k op request fault forceError).Queued := by
  unfold StepChainSystem.execute
  split
  · exact held.modify fun _ => rfl
  · exact held.modify fun _ => rfl
  · exact held.start k op forceError
  · exact held.start k op forceError
  · exact (held.start k op forceError).modify calls_stop
  · exact held.modify fun op => calls_receive op _
  · exact held.modify fun op => calls_receive op _
  · exact held.modify calls_stop

/-- The first call of a queue is taken. -/
theorem Queued.take (held : s.Queued) (next : s.queues connection = k :: rest)
    (current : s.operations[k]? = some op)
    (calls : op.submitted = request :: later) :
    { s with
      operations := s.operations.set k { op with submitted := later }
      queues := Function.update s.queues connection rest }.Queued := by
  have own : connection = op.connection := by
    by_contra other
    have count := held.of_count current connection
    rw [if_neg other, next, List.count_cons_self] at count
    omega
  intro j c
  simp only [List.getElem?_set]
  by_cases here : k = j
  · subst here
    rw [if_pos rfl, if_pos (List.getElem?_eq_some_iff.mp current).1]
    simp only
    have count := held.of_count current c
    by_cases same : c = connection
    · subst same
      rw [Function.update_self]
      rw [next, List.count_cons_self, if_pos own, calls, List.length_cons] at count
      rw [if_pos own]
      omega
    · rw [Function.update_of_ne same, count, if_neg (by rwa [← own]), if_neg (by rwa [← own])]
  · rw [if_neg here, ← held j c]
    by_cases same : c = connection
    · subst same
      rw [Function.update_self, next, List.count_cons_of_ne here]
    · rw [Function.update_of_ne same]

/-- The queue of a connection holds only calls that are submitted. -/
theorem Queued.takeCall (held : s.Queued) (connection : Nat)
    (run : StepChainSystem → Nat → StepChainOperation → Request → StepChainSystem)
    (kept : ∀ (taken : StepChainSystem) (k : Nat) (op : StepChainOperation) (request : Request), taken.Queued →
      (run taken k op request).Queued) :
    (s.takeCall connection run).Queued := by
  unfold StepChainSystem.takeCall
  split
  · exact held
  · rename_i k rest next
    have count := held k connection
    rw [next, List.count_cons_self] at count
    simp only
    split
    · rename_i none
      rw [none] at count
      simp at count
    · rename_i op current
      rw [current] at count
      split
      · rename_i calls
        simp [calls] at count
      · rename_i request later calls
        rw [modify_of_current (by exact current)]
        exact kept _ k op request (held.take next current calls)

/-- The calls that an operation submits join the queue. -/
theorem Queued.modifySubmitting (held : s.Queued)
    (joins : ∀ op : StepChainOperation, (f op).connection = op.connection ∧
      op.submitted.length ≤ (f op).submitted.length) :
    (s.modifySubmitting k f).Queued := by
  unfold StepChainSystem.modifySubmitting
  split
  · exact held
  · rename_i op current
    obtain ⟨own, longer⟩ := joins op
    intro j c
    simp only [modify_of_current current, List.getElem?_set]
    by_cases here : k = j
    · subst here
      rw [if_pos rfl, if_pos (List.getElem?_eq_some_iff.mp current).1]
      simp only [own]
      have count := held.of_count current c
      by_cases same : c = op.connection
      · subst same
        rw [if_pos rfl] at count ⊢
        rw [Function.update_self, List.count_append, List.count_replicate_self, count]
        omega
      · rw [Function.update_of_ne same, count, if_neg same, if_neg same]
    · rw [if_neg here, ← held j c]
      by_cases same : c = op.connection
      · subst same
        rw [Function.update_self, List.count_append, List.count_replicate,
          if_neg (by simpa using here), Nat.add_zero]
      · rw [Function.update_of_ne same]

theorem calls_resume (op : StepChainOperation) : (op.resume methodName).connection = op.connection ∧
    op.submitted.length ≤ (op.resume methodName).submitted.length := by
  unfold StepChainOperation.resume
  split
  · split
    · exact ⟨rfl, le_refl _⟩
    · split
      · exact ⟨rfl, by simp [StepChainOperation.submitRead]⟩
      · exact ⟨rfl, le_refl _⟩
  · exact ⟨rfl, le_refl _⟩

theorem calls_proceed (op : StepChainOperation) : op.proceed.connection = op.connection ∧
    op.submitted.length ≤ op.proceed.submitted.length := by
  unfold StepChainOperation.proceed
  split
  · exact ⟨rfl, by simp [StepChainOperation.submitRead]⟩
  · split
    · exact ⟨rfl, le_refl _⟩
    · exact ⟨rfl, by simp [StepChainOperation.submitRead]⟩
  · exact ⟨rfl, le_refl _⟩

theorem calls_examine (op : StepChainOperation) : (op.examine objectName methodName).calls = op.calls := by
  unfold StepChainOperation.examine
  split
  · split <;> rfl
  · rfl

theorem calls_enqueueEvent (op : StepChainOperation) : op.enqueueEvent.calls = op.calls := by
  unfold StepChainOperation.enqueueEvent
  split <;> rfl

theorem Queued.invoke (held : s.Queued) (connection : Nat) (requestId : Int) (mode : Mode) :
    (s.step objectName methodName (.invoke connection requestId mode)).Queued := by
  intro j c
  simp only [step]
  have unnamed : ∀ c, (s.queues c).count s.operations.length = 0 := by
    intro c
    rw [held, List.getElem?_eq_none (le_refl _)]
  rcases Nat.lt_trichotomy j s.operations.length with old | new | beyond
  · rw [List.getElem?_append_left old, ← held j c]
    by_cases same : c = connection
    · subst same
      rw [Function.update_self, List.count_append, List.count_replicate,
        if_neg (by simpa using (Nat.ne_of_lt old).symm),
        Nat.add_zero]
    · rw [Function.update_of_ne same]
  · subst new
    rw [List.getElem?_concat_length]
    change _ = if c = connection then (StepChainOperation.invoked connection requestId mode).submitted.length else 0
    by_cases same : c = connection
    · subst same
      rw [Function.update_self, List.count_append, List.count_replicate_self, unnamed, Nat.zero_add, if_pos rfl]
    · rw [Function.update_of_ne same, unnamed, if_neg same]
  · rw [List.getElem?_eq_none (by simp; omega)]
    have absent : (s.queues c).count j = 0 := by
      rw [held, List.getElem?_eq_none (by omega)]
    by_cases same : c = connection
    · subst same
      rw [Function.update_self, List.count_append, List.count_replicate,
        if_neg (by simpa using (Nat.ne_of_lt beyond)),
        absent]
    · rw [Function.update_of_ne same, absent]

theorem Queued.step (held : s.Queued) (a : ChainAction) : (s.step objectName methodName a).Queued := by
  cases a with
  | invoke connection requestId mode => exact held.invoke connection requestId mode
  | work connection fault forceError =>
    exact held.takeCall connection _ fun taken k op request held => held.execute k op request fault forceError
  | skip connection =>
    apply held.takeCall connection _
    intro taken k op request kept
    split
    · exact held
    · exact kept
  | resume k => exact held.modifySubmitting calls_resume
  | examine k => exact held.modify calls_examine
  | proceed k => exact held.modifySubmitting calls_proceed
  | stop k => exact held.modify calls_stop
  | cycle timers => exact held.plcStep _
  | abort => exact held.plcStep _
  | callback k another => exact held.modify fun _ => rfl
  | enqueueEvent k => exact held.modify calls_enqueueEvent

end StepChainSystem
end PyAds
