import PyAds.StepChainTransitions

/-! The status keeps the result of a chain only until the next start is accepted.
An operation that has not read its result by then never completes. -/
namespace PyAds
open FunctionBlock

namespace StepChainOperation
variable {objectName methodName : String} {op moved : StepChainOperation} {block : FunctionBlock}

/-- A status read of the operation has seen the end of its chain, and its result
is on its way. -/
def Seen (op : StepChainOperation) : Prop := ∃ seen, op.stage = .examining seen ∧ op.FindsEnd seen

/-- An accepted operation that is pending can still complete. -/
def Completable (status : StepStatus) (op : StepChainOperation) : Prop :=
  op.answer = some true → op.stage.pending = true →
    op.chain = some .running ∨ (status.udiRequestId : Int) = op.requestId ∨ op.Seen

/-- The operation does not need the status of another request id. -/
def Indifferent (requestId : Nat) (op : StepChainOperation) : Prop :=
  op.answer = some true → op.stage.pending = true → op.Seen ∨ (requestId : Int) = op.requestId

theorem not_seen (stage : ∀ seen, op.stage ≠ .examining seen) : ¬ op.Seen := fun ⟨seen, examining, _⟩ =>
  stage seen examining

theorem pending_stop (op : StepChainOperation) : op.stop.stage.pending = false := by
  simp only [stop]
  split
  · rfl
  · simp_all

/-- An operation that moves on and stays pending keeps the result that it has seen. -/
theorem Move.pending (move : op.Move objectName methodName block finds moved) (accepted : moved.answer = some true)
    (pending : moved.stage.pending = true) :
    op.answer = some true ∧ op.stage.pending = true ∧ (op.Seen → moved.Seen) := by
  cases move with
  | skipped taken finished => exact ⟨accepted, pending, id⟩
  | failed taken => simp [pending_stop] at pending
  | registered taken => exact ⟨accepted, pending, id⟩
  | refused taken busy => simp at accepted
  | refusedFailed taken busy => simp [pending_stop] at pending
  | read taken seen found =>
    revert accepted pending
    unfold StepChainOperation.receive
    split <;> intro accepted pending
    · rename_i reading
      have reads : op.stage = .reading := reading
      exact ⟨accepted, by rw [reads]; rfl, fun seen => absurd seen (not_seen (by simp [reads]))⟩
    · exact ⟨accepted, pending, id⟩
  | stop => simp [pending_stop] at pending
  | resume =>
    revert accepted pending
    unfold StepChainOperation.resume
    split
    · rename_i answer starting answered
      split
      · exact fun accepted pending => ⟨accepted, pending, id⟩
      · split <;> intro accepted pending
        · exact ⟨accepted, by rw [starting]; rfl, fun seen => absurd seen (not_seen (by simp [starting]))⟩
        · simp [Stage.pending] at pending
    · exact fun accepted pending => ⟨accepted, pending, id⟩
  | examine =>
    revert accepted pending
    unfold StepChainOperation.examine
    split
    · rename_i seen examining
      split <;> intro accepted pending
      · simp [Stage.pending] at pending
      · rename_i incomplete
        refine ⟨accepted, by rw [examining]; rfl, ?_⟩
        rintro ⟨other, same, terminal⟩
        obtain rfl := Stage.examining.inj (examining.symm.trans same)
        exact absurd terminal (not_findsEnd incomplete)
      · simp [Stage.pending] at pending
    · exact fun accepted pending => ⟨accepted, pending, id⟩
  | proceed =>
    revert accepted pending
    unfold StepChainOperation.proceed
    split
    · rename_i waiting _
      intro accepted pending
      exact ⟨accepted, by rw [waiting]; rfl, fun seen => absurd seen (not_seen (by simp [waiting]))⟩
    · rename_i waiting _
      split <;> intro accepted pending
      · exact ⟨accepted, pending, id⟩
      · exact ⟨accepted, by rw [waiting]; rfl, fun seen => absurd seen (not_seen (by simp [waiting]))⟩
    · exact fun accepted pending => ⟨accepted, pending, id⟩
  | callback another => exact ⟨accepted, pending, id⟩
  | enqueueEvent =>
    revert accepted pending
    unfold StepChainOperation.enqueueEvent
    split <;> exact fun accepted pending => ⟨accepted, pending, id⟩

end StepChainOperation
namespace StepChainSystem
variable {objectName methodName : String} {s t : StepChainSystem}

def Completable (s : StepChainSystem) : Prop :=
  ∀ (k : Nat) (op : StepChainOperation), s.operations[k]? = some op → op.Completable s.block.stStepStatus

/-- No start is accepted while another operation has yet to read the result of
its chain; and no chain ends under an id that is not its operation's, because it
is not of type UDINT. -/
def KeepsResults (s : StepChainSystem) (a : ChainAction) : Prop :=
  (∀ (j : Nat) (new : StepChainOperation), s.acceptedStart a = some j → s.operations[j]? = some new →
      ∀ (k : Nat) (op : StepChainOperation), k ≠ j → s.operations[k]? = some op →
        op.Indifferent (udint new.requestId)) ∧
    (s.endsChain a → ∀ (k : Nat) (op : StepChainOperation), s.owner = some k → s.operations[k]? = some op →
      op.Indifferent (udint op.requestId))

theorem keepsResults_of_quiet (quiet : s.acceptedStart a = none ∧ ¬ s.endsChain a) : s.KeepsResults a :=
  ⟨fun j _ accepted => by simp [quiet.1] at accepted, fun ends => absurd ends quiet.2⟩

/-- The function block shows the request id and the chain of its owner. -/
theorem Consistent.shows_of_owner (held : s.Consistent) (owner : s.owner = some k) {op : StepChainOperation}
    (current : s.operations[k]? = some op) : ∃ chain, op.chain = some chain ∧
      s.block.Shows (udint op.requestId) chain := by
  obtain ⟨op', chain, there, began, shows_⟩ := held.owner k owner
  obtain rfl : op = op' := Option.some.inj (current.symm.trans there)
  exact ⟨chain, began, shows_⟩

theorem Consistent.running_iff (held : s.Consistent) (owner : s.owner = some k) {op : StepChainOperation}
    (current : s.operations[k]? = some op) : op.chain = some .running ↔ s.block.busy = true := by
  obtain ⟨chain, began, shows_⟩ := held.shows_of_owner owner current
  rw [began, shows_.busy, Option.some_inj]

/-- A step of the PLC that accepts no start keeps the request id. -/
theorem Consistent.requestId_kept (held : s.Consistent) {k : Nat} {op : StepChainOperation}
    (current : s.operations[k]? = some op) (accepted : op.answer = some true)
    (continues : s.block.Continues t.block) :
    t.block.stStepStatus.udiRequestId = s.block.stStepStatus.udiRequestId := by
  have consistent := held.operations k op current
  obtain ⟨j, owner⟩ := Option.ne_none_iff_exists'.mp (consistent.owned (consistent.accepted.mp accepted))
  obtain ⟨own, chain, there, began, shows_⟩ := held.owner j owner
  rw [(continues _ _ shows_).requestId, shows_.requestId]

theorem completable_of_moved (held : s.Completable) {op moved : StepChainOperation}
    (current : s.operations[k]? = some op)
    (move : op.Move objectName methodName s.block finds moved) (operations : t.operations = s.operations.set k moved)
    (block : t.block = s.block) : t.Completable := by
  intro j after there
  rw [operations] at there
  rw [block]
  rcases getElem?_set_moved there with ⟨rfl, rfl⟩ | ⟨_, old⟩
  · intro accepted pending
    obtain ⟨before, waiting, seen⟩ := move.pending accepted pending
    obtain ⟨requestId, _, chain⟩ := move.frame
    rw [chain, requestId]
    exact (held j op current before waiting).imp_right (Or.imp_right seen)
  · exact held j after old

theorem completable_of_progressed (consistent : s.Consistent) (held : s.Completable)
    (ends : s.endsChain a ↔ s.block.busy = true ∧ t.block.busy = false)
    (continues : s.block.Continues t.block)
    (operations : ∀ j : Nat, t.operations[j]? = (s.operations[j]?).map fun (op : StepChainOperation) =>
      op.progress (s.changes t.block) (if s.owner = some j then op.chain.map (s.block.endOf t.block) else op.chain))
    (unaccepted : s.acceptedStart a = none) : t.Completable ↔ s.KeepsResults a := by
  constructor
  · intro after
    refine ⟨fun j _ accepted => by simp [unaccepted] at accepted,
      fun ended k op owner current accepted pending => ?_⟩
    obtain ⟨busy, finished⟩ := ends.mp ended
    have running := (consistent.running_iff owner current).mpr busy
    obtain ⟨chain, began, shows_⟩ := consistent.shows_of_owner owner current
    have there := operations k
    rw [current, Option.map_some, if_pos owner, running, Option.map_some] at there
    rcases after k _ there accepted pending with still | same | seen
    · have ended : s.block.endOf t.block .running = .running := Option.some.inj still
      rw [endOf, if_pos ⟨busy, finished⟩] at ended
      split at ended <;> contradiction
    · rw [(continues _ _ shows_).requestId] at same
      exact .inr same
    · exact .inl seen
  · rintro ⟨_, kept⟩ j after there accepted pending
    rw [operations] at there
    obtain ⟨op, current, rfl⟩ := Option.map_eq_some_iff.mp there
    rcases held j op current accepted pending with running | same | seen
    · have owner := (consistent.operations j op current).running running
      have busy := (consistent.running_iff owner current).mp running
      cases finished : t.block.busy with
      | true =>
        left
        simp only [StepChainOperation.progress, if_pos owner, running, Option.map_some, endOf]
        rw [if_neg (by simp [finished])]
      | false =>
        right
        obtain ⟨chain, began, shows_⟩ := consistent.shows_of_owner owner current
        rw [(continues _ _ shows_).requestId]
        exact (kept (ends.mpr ⟨busy, finished⟩) j op owner current accepted pending).symm
    · rw [← consistent.requestId_kept current accepted continues] at same
      exact .inr (.inl same)
    · exact .inr (.inr seen)

theorem completable_of_accepted (consistent : s.Consistent) {op moved : StepChainOperation}
    (accepted : s.acceptedStart a = some k) (quiet : ¬ s.endsChain a) (current : s.operations[k]? = some op)
    (idle : s.block.busy = false) (shown : t.block.Shows (udint op.requestId) .running)
    (began : moved.chain = some .running)
    (operations : ∀ j : Nat, t.operations[j]? =
      if j = k then some moved else (s.operations[j]?).map (·.observe (s.changes t.block))) :
    t.Completable ↔ s.KeepsResults a := by
  constructor
  · intro after
    refine ⟨fun j new first new_ => ?_, fun ended => absurd ended quiet⟩
    obtain rfl : k = j := Option.some.inj (accepted.symm.trans first)
    obtain rfl : op = new := Option.some.inj (current.symm.trans new_)
    intro j other distinct there waits pending
    have there' := operations j
    rw [if_neg distinct, there, Option.map_some] at there'
    rcases after j _ there' waits pending with running | same | seen
    · have ended : other.chain ≠ some .running := consistent.not_running idle there
      exact absurd running ended
    · rw [shown.requestId] at same
      exact .inr same
    · exact .inl seen
  · rintro ⟨kept, _⟩ j after there waits pending
    rw [operations] at there
    split at there
    · obtain rfl := Option.some.inj there
      exact .inl began
    · rename_i other
      obtain ⟨before, current', rfl⟩ := Option.map_eq_some_iff.mp there
      rw [shown.requestId]
      exact .inr (kept k op accepted current j before other current' waits pending).symm

/-- A step keeps all pending operations completable exactly if it overwrites no
result that has still to be read. -/
theorem completable_step_iff (s : StepChainSystem) (a : ChainAction) (held : s.Completable)
    (consistent : s.Consistent) :
    (s.step objectName methodName a).Completable ↔ s.KeepsResults a := by
  have transition : Transition objectName methodName s a (s.step objectName methodName a) := transition_step s a
  cases transition with
  | idle quiet operations block owner =>
    refine iff_of_true ?_ (keepsResults_of_quiet quiet)
    unfold Completable
    rw [operations, block]
    exact held
  | invoked quiet connection requestId mode action operations block owner =>
    refine iff_of_true ?_ (keepsResults_of_quiet quiet)
    intro j after there
    rw [operations] at there
    rw [block]
    rcases getElem?_append_invoked there with old | ⟨_, rfl⟩
    · exact held j after old
    · intro accepted
      simp [StepChainOperation.invoked] at accepted
  | moved quiet k op moved current move operations block owner =>
    exact iff_of_true (completable_of_moved held current move operations block) (keepsResults_of_quiet quiet)
  | progressed unaccepted ends continues operations owner =>
    exact completable_of_progressed consistent held ends continues operations unaccepted
  | accepted k op moved later accepted quiet current taken idle shown moved_ operations owner =>
    have began : moved.chain = some .running := by
      rcases moved_ with rfl | rfl <;> rfl
    exact completable_of_accepted consistent accepted quiet current idle shown began operations

theorem completable_fresh : fresh.Completable := fun _ _ there => by simp [fresh] at there

/-- Every pending operation can still complete throughout a run exactly if no
step of it overwrites a result that has still to be read. -/
theorem completable_run_iff (objectName methodName : String) (actions : List ChainAction) :
    Runs.Throughout (step objectName methodName) Completable fresh actions ↔
      Runs.Along (step objectName methodName) KeepsResults fresh actions :=
  Runs.invariant_iff completable_step_iff completable_fresh
    (Runs.along_of_throughout (consistent_run objectName methodName actions))

/-- An operation has read its status while its chain was running. Before it reads
again, the chain is done, and the start of another operation is accepted. -/
def overwritten : List ChainAction :=
  [.invoke 0 1 .poll, .work 0 .none false, .resume 0, .work 0 .none false, .examine 0,
    .cycle ⟨true, true, true, true⟩,
    .cycle ⟨true, true, true, true⟩, .cycle ⟨true, true, true, true⟩, .cycle ⟨true, true, true, true⟩,
    .invoke 0 2 .poll, .work 0 .none false]

theorem overwritten_result_lost :
    ¬ Runs.Throughout (step "GVL.fbStepChain" "m_xStartStepChain") Completable fresh overwritten := by
  intro all
  have last : (overwritten.foldl (step "GVL.fbStepChain" "m_xStartStepChain") fresh).Completable :=
    all _ (Runs.foldl_mem_states _ _ _)
  obtain ⟨op, there⟩ : ∃ op,
      (overwritten.foldl (step "GVL.fbStepChain" "m_xStartStepChain") fresh).operations[0]? = some op :=
    ⟨_, rfl⟩
  have known : op.answer = some true ∧ op.stage = .waiting ∧ op.chain = some .done ∧ op.requestId = 1 := by
    cases there
    exact ⟨rfl, rfl, rfl, rfl⟩
  obtain ⟨accepted, waiting, ended, requestId⟩ := known
  rcases last 0 op there accepted (by rw [waiting]; rfl) with running | same | ⟨seen, examining, _⟩
  · rw [ended] at running
    cases running
  · rw [requestId] at same
    cases same
  · rw [waiting] at examining
    cases examining

end StepChainSystem
end PyAds
