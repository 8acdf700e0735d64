import Mathlib.Data.List.Nodup
import PyAds.StepChainTransitions

/-! The completion of a chain goes to the operation that started it. The status
holds the request id of the start that was accepted last, so a status read that
finds the id of an operation shows how the chain of this operation stands. -/
namespace PyAds
open FunctionBlock

/-! ## Request ids -/

/-- `AsyncConnection._next_request_id`, with the counter of the connection. -/
def nextRequestId (counter : Nat) : Int × Nat := ((counter &&& 0xFFFFFFFF : Nat), counter + 1)

/-- The ids that follow each other from a counter on. -/
def requestIdsFrom (counter : Nat) : Nat → List Int
  | 0 => []
  | n + 1 => (nextRequestId counter).1 :: requestIdsFrom (nextRequestId counter).2 n

@[simp] theorem udint_natCast (n : Nat) : udint n = n % 2 ^ 32 := by
  simp only [udint]
  omega

theorem udint_nextRequestId (counter : Nat) : udint (nextRequestId counter).1 = counter % 2 ^ 32 := by
  have masked : counter &&& 0xFFFFFFFF = counter % 2 ^ 32 := Nat.and_two_pow_sub_one_eq_mod counter 32
  rw [nextRequestId, udint_natCast, masked, Nat.mod_mod]

theorem mem_requestIdsFrom (member : i ∈ requestIdsFrom counter n) : ∃ j < n, udint i =
    (counter + j) % 2 ^ 32 := by
  induction n generalizing counter with
  | zero => simp [requestIdsFrom] at member
  | succ n ih =>
    rw [requestIdsFrom, List.mem_cons] at member
    rcases member with rfl | later
    · exact ⟨0, by omega, udint_nextRequestId counter⟩
    · obtain ⟨j, bound, same⟩ := ih later
      exact ⟨j + 1, by omega, by rw [same, nextRequestId, Nat.add_assoc, Nat.add_comm 1 j]⟩

/-- At most 2³² consecutive ids of a connection are pairwise distinct. -/
theorem nodup_requestIdsFrom (counter : Nat) (bound : n ≤ 2 ^ 32) :
    ((requestIdsFrom counter n).map udint).Nodup := by
  induction n generalizing counter with
  | zero => simp [requestIdsFrom]
  | succ n ih =>
    rw [requestIdsFrom, List.map_cons, List.nodup_cons]
    refine ⟨fun member => ?_, ih (counter + 1) (by omega)⟩
    obtain ⟨i, later, same⟩ := List.mem_map.mp member
    obtain ⟨j, below, id⟩ := mem_requestIdsFrom later
    rw [id, udint_nextRequestId, nextRequestId] at same
    simp only at same
    omega

/-- The request ids of the operations that the actions invoke. -/
def invokedIds (actions : List ChainAction) : List Int :=
  actions.filterMap fun
    | .invoke _ requestId _ => some requestId
    | _ => none

namespace StepChainSystem
variable {objectName methodName : String} {s t : StepChainSystem}

def requestIds (s : StepChainSystem) : List Int := s.operations.map (·.requestId)

theorem Transition.requestIds_eq (transition : Transition objectName methodName s a t)
    (other : ∀ connection requestId mode, a ≠ .invoke connection requestId mode) : t.requestIds =
      s.requestIds := by
  apply List.ext_getElem?
  intro j
  simp only [requestIds, List.getElem?_map]
  cases transition with
  | idle quiet operations block owner => rw [operations]
  | invoked quiet connection requestId mode action => exact absurd action (other connection requestId mode)
  | moved quiet k op moved current move operations block owner =>
    rw [operations, List.getElem?_set]
    split
    · rename_i here
      subst here
      obtain ⟨bound, there⟩ := List.getElem?_eq_some_iff.mp current
      simp [bound, there, move.frame.1]
    · rfl
  | progressed unaccepted ends continues operations owner =>
    rw [operations, Option.map_map]
    rfl
  | accepted k op moved later accepted quiet current taken idle shown moved_ operations owner =>
    rw [operations]
    split
    · rename_i here
      subst here
      rcases moved_ with rfl | rfl <;> rw [current] <;> rfl
    · rw [Option.map_map]
      rfl

theorem requestIds_step (s : StepChainSystem) (a : ChainAction) :
    (s.step objectName methodName a).requestIds = s.requestIds ++ invokedIds [a] := by
  have transition : Transition objectName methodName s a (s.step objectName methodName a) := transition_step s a
  cases a with
  | invoke connection requestId mode => simp [step, requestIds, invokedIds, StepChainOperation.invoked]
  | _ => simpa [invokedIds] using transition.requestIds_eq (by simp)

/-- Ids that are distinct in a whole run are distinct in each of its states. -/
theorem distinct_run {actions : List ChainAction}
    (distinct : ((s.requestIds ++ invokedIds actions).map udint).Nodup) :
    Runs.Along (step objectName methodName) (fun s _ => (s.requestIds.map udint).Nodup) s actions := by
  induction actions generalizing s with
  | nil => trivial
  | cons a actions ih =>
    constructor
    · rw [List.map_append] at distinct
      exact distinct.of_append_left
    · apply ih
      rw [requestIds_step, List.append_assoc]
      have split_ : invokedIds (a :: actions) = invokedIds [a] ++ invokedIds actions := by
        simp only [invokedIds, ← List.filterMap_append, List.singleton_append]
      rw [← split_]
      exact distinct

end StepChainSystem

/-! ## The end of an operation and its chain -/

namespace StepChainOperation
variable {objectName methodName : String} {op moved : StepChainOperation} {block : FunctionBlock}
  {finds : StatusRead → Prop} {owner : Option Nat} {k : Nat}

/-- The status does not belong to the operation, or its flags are those of the
operation's chain. -/
def Fits (op : StepChainOperation) (status : StepStatus) : Prop :=
  (status.udiRequestId : Int) = op.requestId →
    (status.xDone = true → op.chain = some .done) ∧ (status.xError = true → op.chain = some .failed)

/-- What the coroutine has seen is true of the operation's own start. -/
def Informed (op : StepChainOperation) : Prop :=
  match op.stage with
  | .starting | .reading | .waiting | .stopped => True
  | .examining seen => op.Fits seen.status ∧ seen.failed = []
  | .completed _ => op.chain = some .done
  | .raised (.failed _ _ _) => op.chain = some .failed
  | .raised (.rejected _) => op.answer = some false
  | .raised (.timedOut _ _) | .raised (.raised _) => False

theorem Informed.stop (held : op.Informed) : op.stop.Informed := by
  cases pending : op.stage.pending with
  | true => simp [Informed, StepChainOperation.stop, pending]
  | false =>
    have same : op.stop = op := by simp [StepChainOperation.stop, pending]
    rw [same]
    exact held

/-- An operation whose start has no answer has not ended with a result. -/
theorem Informed.unanswered (held : op.Informed) (consistent : op.Consistent owner k)
    (answer : op.answer = none)
    (chain : op.chain = none) : op.stage = .starting ∨ op.stage = .stopped := by
  have reads := consistent.reads
  rw [answer] at reads
  unfold Informed at held
  rw [answer, chain] at held
  cases stage : op.stage with
  | raised e => cases e <;> simp [stage] at held
  | _ => simp_all [Stage.reads]

theorem Informed.of_ended (stage : op.stage = .starting ∨ op.stage = .stopped) : op.Informed := by
  unfold Informed
  rcases stage with stage | stage <;> simp [stage]

theorem Informed.examine (held : op.Informed) : (op.examine objectName methodName).Informed := by
  unfold StepChainOperation.examine
  split
  · rename_i seen examining
    obtain ⟨status, failed⟩ := seen
    obtain ⟨fits, rfl⟩ : op.Fits status ∧ failed = [] := by simpa only [Informed, examining] using held
    rw [check_eq]
    by_cases own : (status.udiRequestId : Int) = op.requestId
    · rw [if_pos own]
      cases error : status.xError with
      | true =>
        simp only [if_true, Informed]
        exact (fits own).2 error
      | false =>
        cases done : status.xDone with
        | true => exact (fits own).1 done
        | false => trivial
    · rw [if_neg own]
      trivial
  · exact held

theorem Informed.resume (held : op.Informed) : (op.resume methodName).Informed := by
  unfold StepChainOperation.resume
  split
  · rename_i accepted starting answer
    split
    · exact held
    · split
      · trivial
      · rename_i no
        simp only [Informed, answer]
        simpa using no
  · exact held

theorem Informed.proceed (held : op.Informed) : op.proceed.Informed := by
  unfold StepChainOperation.proceed
  split
  · trivial
  · split
    · exact held
    · trivial
  · exact held

theorem Move.informed (move : op.Move objectName methodName block finds moved)
    (whole : ∀ seen, finds seen → seen = ⟨block.stStepStatus, []⟩) (held : op.Informed)
    (consistent : op.Consistent owner k) (fits : op.answer = some true → op.Fits block.stStepStatus) : moved.Informed := by
  cases move with
  | skipped taken finished => exact held
  | failed taken => exact Informed.stop held
  | registered taken => exact held
  | refused taken busy => 
    obtain ⟨_, unanswered, unstarted⟩ := consistent.unanswered taken
    exact .of_ended (held.unanswered consistent unanswered unstarted)
  | refusedFailed taken busy =>
    obtain ⟨_, unanswered, unstarted⟩ := consistent.unanswered taken
    exact Informed.stop (.of_ended (held.unanswered consistent unanswered unstarted))
  | read taken seen found =>
    obtain rfl := whole seen found
    unfold StepChainOperation.receive
    split
    · rename_i reading
      exact ⟨fits (consistent.reads (by rw [show op.stage = .reading from reading]; rfl)), rfl⟩
    · exact held
  | stop => exact held.stop
  | resume => exact held.resume
  | examine => exact held.examine
  | proceed => exact held.proceed
  | callback another => exact held
  | enqueueEvent =>
    unfold StepChainOperation.enqueueEvent
    split <;> exact held

/-- A step of the PLC ends a chain only while it is running. -/
theorem Informed.progress (held : op.Informed) {chain : Option Chain}
    (kept : ∀ ended, op.chain = some ended → ended ≠ .running → chain = some ended) :
    (op.progress changed chain).Informed := by
  unfold Informed at held ⊢
  change match op.stage with
    | .starting | .reading | .waiting | .stopped => True
    | .examining seen => (op.progress changed chain).Fits seen.status ∧ seen.failed = []
    | .completed _ => chain = some .done
    | .raised (.failed _ _ _) => chain = some .failed
    | .raised (.rejected _) => op.answer = some false
    | .raised (.timedOut _ _) | .raised (.raised _) => False
  split <;> rename_i stage
  · trivial
  · trivial
  · trivial
  · trivial
  · rw [stage] at held
    refine ⟨fun own => ?_, held.2⟩
    obtain ⟨done, error⟩ := held.1 own
    exact ⟨fun flag => kept .done (done flag) (by simp), fun flag => kept .failed (error flag) (by simp)⟩
  · rw [stage] at held
    exact kept .done held (by simp)
  · rw [stage] at held
    exact kept .failed held (by simp)
  · rw [stage] at held
    exact held
  · rw [stage] at held
    exact held
  · rw [stage] at held
    exact held

end StepChainOperation

namespace StepChainSystem
variable {objectName methodName : String} {s t : StepChainSystem}

/-- With distinct ids, the status fits each operation whose start was accepted. -/
theorem Consistent.fits (held : s.Consistent) (distinct : (s.requestIds.map udint).Nodup) {k : Nat}
    {op : StepChainOperation}
    (current : s.operations[k]? = some op)
    (accepted : op.answer = some true) : op.Fits s.block.stStepStatus := by
  intro own
  have consistent := held.operations k op current
  have started := consistent.accepted.mp accepted
  obtain ⟨j, owner⟩ := Option.ne_none_iff_exists'.mp (consistent.owned started)
  obtain ⟨op', chain, there, began, shows_⟩ := held.owner j owner
  have same : udint op.requestId = udint op'.requestId := by
    rw [← own, shows_.requestId]
    simp only [udint]
    omega
  have index : k = j := by
    have bound : k < (s.requestIds.map udint).length := by
      simpa [requestIds] using (List.getElem?_eq_some_iff.mp current).1
    exact (List.getElem?_inj bound distinct).mp (by simp [requestIds, current, there, same])
  subst index
  obtain rfl : op = op' := Option.some.inj (current.symm.trans there)
  rw [began]
  exact ⟨fun flag => by rw [shows_.done.mp flag], fun flag => by rw [shows_.error.mp flag]⟩

theorem Transition.informed (transition : Transition objectName methodName s a t) (held : s.Consistent)
    (distinct : (s.requestIds.map udint).Nodup) (whole : a.failed = [])
    (informed : ∀ (j : Nat) (op : StepChainOperation), s.operations[j]? = some op → op.Informed) :
    ∀ (j : Nat) (op : StepChainOperation), t.operations[j]? = some op → op.Informed := by
  intro j after there
  cases transition with
  | idle quiet operations block owner =>
    rw [operations] at there
    exact informed j after there
  | invoked quiet connection requestId mode action operations block owner =>
    rw [operations] at there
    rcases getElem?_append_invoked there with old | ⟨_, rfl⟩
    · exact informed j after old
    · trivial
  | moved quiet k op moved current move operations block owner =>
    rw [operations] at there
    rcases getElem?_set_moved there with ⟨rfl, rfl⟩ | ⟨_, old⟩
    · exact move.informed (fun seen executed => whole ▸ statusRead_eq executed) (informed j op current)
        (held.operations j op current) (held.fits distinct current)
    · exact informed j after old
  | progressed unaccepted ends continues operations owner =>
    rw [operations] at there
    obtain ⟨op, current, rfl⟩ := Option.map_eq_some_iff.mp there
    apply (informed j op current).progress
    intro ended chain finished
    split
    · rename_i own
      obtain ⟨op', chain', there', began, shows_⟩ := held.owner j own
      obtain rfl : op = op' := Option.some.inj (current.symm.trans there')
      obtain rfl : ended = chain' := Option.some.inj (chain.symm.trans began)
      rw [chain, Option.map_some, endOf, if_neg]
      rintro ⟨busy, _⟩
      exact finished (shows_.busy.mp busy)
    · exact chain
  | accepted k op moved later accepted quiet current taken idle shown moved_ operations owner =>
    rw [operations] at there
    split at there
    · rename_i here
      subst here
      obtain rfl := Option.some.inj there
      have consistent := held.operations j op current
      obtain ⟨_, unanswered, unstarted⟩ := consistent.unanswered taken
      have stage := (informed j op current).unanswered consistent unanswered unstarted
      have began : ({ op with submitted := later }.begin (s.changes t.block)).Informed := .of_ended stage
      rcases moved_ with rfl | rfl
      · exact began
      · exact began.stop
    · obtain ⟨before, current', rfl⟩ := Option.map_eq_some_iff.mp there
      exact informed j before current'

end StepChainSystem

/-- The result of an operation is that of its own start: it completes only when
its chain is done, it fails only when its chain ended with an error, and it is
rejected only when the PLC refused its start. -/
structure StepChainOperation.Attributed (op : StepChainOperation) : Prop where
  completed : ∀ values, op.stage = .completed values → op.answer = some true ∧ op.chain = some .done
  failed : ∀ methodName requestId errorCode, op.stage = .raised (.failed methodName requestId errorCode) →
    op.answer = some true ∧ op.chain = some .failed
  rejected : ∀ methodName, op.stage = .raised (.rejected methodName) → op.answer = some false

theorem StepChainOperation.Informed.attributed {op : StepChainOperation} (held : op.Informed)
    (consistent : op.Consistent owner k) :
    op.Attributed := by
  have accepted := consistent.accepted
  unfold Informed at held
  constructor
  · intro values stage
    rw [stage] at held
    exact ⟨accepted.mpr (by rw [held]; simp), held⟩
  · intro methodName requestId errorCode stage
    rw [stage] at held
    exact ⟨accepted.mpr (by rw [held]; simp), held⟩
  · intro methodName stage
    rw [stage] at held
    exact held

namespace StepChainSystem

theorem attributed_run {actions : List ChainAction} (distinct : ((invokedIds actions).map udint).Nodup)
    (whole : ∀ a ∈ actions, a.failed = []) :
    Runs.Throughout (step objectName methodName) (fun s => ∀ op ∈ s.operations,
      op.Attributed) fresh actions := by
  have kept : Runs.Throughout (step objectName methodName)
      (fun s => s.Consistent ∧ ∀ (j : Nat) (op : StepChainOperation),
        s.operations[j]? = some op → op.Informed) fresh actions := by
    have ids : Runs.Along (step objectName methodName) (fun s _ => (s.requestIds.map udint).Nodup) fresh actions :=
      distinct_run distinct
    have lawful := Runs.along_and.mpr ⟨ids, Runs.along_of_forall whole⟩
    refine Runs.throughout_of_kept (fun s a held lawful => ?_)
      ⟨consistent_fresh, fun j op there => by simp [fresh] at there⟩ lawful
    have transition : Transition objectName methodName s a (s.step objectName methodName a) :=
      transition_step s a
    exact ⟨transition.consistent held.1, transition.informed held.1 lawful.1 lawful.2 held.2⟩
  intro s reached op member
  obtain ⟨consistent, informed⟩ := kept s reached
  obtain ⟨k, there⟩ := List.mem_iff_getElem?.mp member
  exact (informed k op there).attributed (consistent.operations k op there)

/-- In every run whose status reads are whole and whose request ids are distinct
as UDINT, no result goes to another request; the ids that a connection generates
are distinct so far. -/
theorem completion_attributed (objectName methodName : String) :
    (∀ (actions : List ChainAction), ((invokedIds actions).map udint).Nodup → (∀ a ∈ actions, a.failed = []) →
        Runs.Throughout (step objectName methodName) (fun s => ∀ op ∈ s.operations,
          op.Attributed) fresh actions) ∧
      ∀ counter n, n ≤ 2 ^ 32 → ((requestIdsFrom counter n).map udint).Nodup :=
  ⟨fun _ => attributed_run, fun counter _ => nodup_requestIdsFrom counter⟩

/-- Two connections start a chain each; the second start is refused. -/
def overlapping : List ChainAction :=
  [.invoke 0 1 .notify, .invoke 1 2 .poll, .work 0 .none false, .work 0 .none true,
    .work 1 .none false, .resume 1,
    .abort, .resume 0, .work 0 .none false, .examine 0]

theorem overlapping_attributed :
    Runs.Throughout (step "GVL.fbStepChain" "m_xStartStepChain") (fun s => ∀ op ∈ s.operations, op.Attributed) fresh
        overlapping ∧
      ((requestIdsFrom 4294967295 2).map udint).Nodup :=
  have both := completion_attributed "GVL.fbStepChain" "m_xStartStepChain"
  ⟨both.1 overlapping (by decide) (by simp [overlapping, ChainAction.failed, Fault.failed]),
    both.2 4294967295 2 (by omega)⟩

/-- A chain is aborted. Before its operation reads the status, another one is
started under an id that is the same as UDINT, and done. -/
def sameUdint : List ChainAction :=
  [.invoke 0 1 .poll, .work 0 .none false, .resume 0, .abort, .invoke 1 4294967297 .poll, .work 1 .none false,
    .cycle ⟨true, true, true, true⟩, .cycle ⟨true, true, true, true⟩, .cycle ⟨true, true, true, true⟩,
    .cycle ⟨true, true, true, true⟩, .work 0 .none false, .examine 0]

/-- The operation of the aborted chain completes with the end of the other. -/
theorem sameUdint_completes_aborted : (invokedIds sameUdint).Nodup ∧ (∀ a ∈ sameUdint, a.failed = []) ∧
    ¬ Runs.Throughout (step "GVL.fbStepChain" "m_xStartStepChain") (fun s => ∀ op ∈ s.operations, op.Attributed) fresh
      sameUdint := by
  refine ⟨by decide, by simp [sameUdint, ChainAction.failed, Fault.failed], fun all => ?_⟩
  have last := all _ (Runs.foldl_mem_states _ _ _)
  obtain ⟨op, there⟩ : ∃ op,
      (sameUdint.foldl (step "GVL.fbStepChain" "m_xStartStepChain") fresh).operations[0]? = some op := ⟨_, rfl⟩
  have known : (∃ values, op.stage = .completed values) ∧ op.chain = some .failed := by
    cases there
    exact ⟨⟨_, rfl⟩, rfl⟩
  obtain ⟨⟨values, completed⟩, aborted⟩ := known
  cases aborted.symm.trans ((last op (List.mem_of_getElem? there)).completed values completed).2

end StepChainSystem
end PyAds
