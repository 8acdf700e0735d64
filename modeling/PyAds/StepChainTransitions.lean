import PyAds.StepChainOperations

/-! What one step can do to the operations on a function block: one of them
moves on, the PLC goes on with a chain, or the PLC accepts a start. From this
follows how the operations and the function block belong together. -/
namespace PyAds
open FunctionBlock

namespace StepChainOperation
variable (objectName methodName : String)

/-- How an operation moves on in a step that does not change the function block,
and in which a status read of it finds something. -/
inductive Move (block : FunctionBlock) (finds : StatusRead → Prop) (op : StepChainOperation) :
    StepChainOperation → Prop
  | skipped (taken : op.submitted = request :: later) (finished : op.stage.pending = false) :
      Move block finds op { op with submitted := later }
  | failed (taken : op.submitted = request :: later) : Move block finds op { op with submitted := later }.stop
  | registered (taken : op.submitted = .register :: later) :
      Move block finds op { op with submitted := later, registered := true }
  | refused (taken : op.submitted = .start :: later) (busy : block.busy = true) :
      Move block finds op { op with submitted := later, answer := some false }
  | refusedFailed (taken : op.submitted = .start :: later) (busy : block.busy = true) :
      Move block finds op { op with submitted := later, answer := some false }.stop
  | read (taken : op.submitted = .read :: later) (seen : StatusRead) (found : finds seen) :
      Move block finds op ({ op with submitted := later }.receive seen)
  | stop : Move block finds op op.stop
  | resume : Move block finds op (op.resume methodName)
  | examine : Move block finds op (op.examine objectName methodName)
  | proceed : Move block finds op op.proceed
  | callback (another : Bool) : Move block finds op (op.callback another)
  | enqueueEvent : Move block finds op op.enqueueEvent

/-- The operation after a step of the PLC. -/
def progress (op : StepChainOperation) (changed : Bool) (chain : Option Chain) : StepChainOperation :=
  { op.observe changed with chain }

/-- The operation after the PLC has accepted its start. -/
def begin (op : StepChainOperation) (changed : Bool) : StepChainOperation :=
  { op.observe changed with answer := some true, chain := some .running }

/-- The status is terminal for the request of the operation. -/
def Terminal (op : StepChainOperation) (status : StepStatus) : Prop :=
  (status.udiRequestId : Int) = op.requestId ∧ (status.xDone = true ∨ status.xError = true)

/-- A status read shows that the status is terminal for the request. -/
def FindsEnd (op : StepChainOperation) (seen : StatusRead) : Prop :=
  op.Terminal seen.status ∧ seen.Has "udiRequestId"

variable {objectName methodName}

theorem check_eq (op : StepChainOperation) (status : StepStatus) :
    op.check objectName methodName ⟨status, []⟩ =
      if (status.udiRequestId : Int) = op.requestId then
        if status.xError then .error (.failed methodName op.requestId (some (.int status.diErrorCode)))
        else .ok status.xDone
      else .ok false :=
  StepChainObject.isCompleted_snapshot objectName op.mode.completion status methodName op.requestId

/-- What asks for another read has not shown the end of the request. -/
theorem not_findsEnd {op : StepChainOperation} (incomplete : op.check objectName methodName seen = .ok false) :
    ¬ op.FindsEnd seen := fun ⟨⟨own, ended⟩, has⟩ =>
  StepChainObject.isCompleted_conclusive objectName op.mode.completion methodName has own ended incomplete

end StepChainOperation

namespace StepChainSystem
variable (objectName methodName : String)

/-- The operation whose start is accepted in a step. -/
def acceptedStart (s : StepChainSystem) : ChainAction → Option Nat
  | .work connection fault _ =>
    if fault = .before ∨ s.block.busy then none
    else (s.queues connection).head?.filter fun k =>
      (s.operations[k]?).any fun op => op.submitted.head? = some .start
  | _ => none

/-- The operation whose status read is executed in a step, and what it finds. -/
def statusRead (s : StepChainSystem) : ChainAction → Option (Nat × StatusRead)
  | .work connection .none _ => (nextRead s connection).map (·, ⟨s.block.stStepStatus, []⟩)
  | .work connection (.items failed) _ => (nextRead s connection).map (·, ⟨s.block.stStepStatus, failed⟩)
  | _ => none
where
  nextRead (s : StepChainSystem) (connection : Nat) : Option Nat :=
    (s.queues connection).head?.filter fun k => (s.operations[k]?).any fun op => op.submitted.head? = some .read

/-- The chain that is running ends in a step. -/
def endsChain (s : StepChainSystem) : ChainAction → Prop
  | .cycle timers => s.block.busy = true ∧ (s.block.cycle timers).busy = false
  | .abort => s.block.busy = true ∧ s.block.abort.2.busy = false
  | _ => False

/-- Whether a new function block has another status. -/
def changes (s : StepChainSystem) (block : FunctionBlock) : Bool :=
  decide (block.stStepStatus ≠ s.block.stStepStatus)

theorem statusRead_eq {s : StepChainSystem} (executed : s.statusRead a = some (k, seen)) :
    seen = ⟨s.block.stStepStatus, a.failed⟩ := by
  cases a with
  | work connection fault forceError =>
    cases fault with
    | none | items failed =>
      obtain ⟨_, _, same⟩ := Option.map_eq_some_iff.mp executed
      exact (Prod.mk.inj same).2.symm
    | before | after => cases executed
  | _ => cases executed

/-- What a step does to the operations, the function block and its owner. -/
inductive Transition (s : StepChainSystem) (a : ChainAction) (t : StepChainSystem) : Prop
  | idle (quiet : s.acceptedStart a = none ∧ ¬ s.endsChain a) (operations : t.operations = s.operations)
      (block : t.block = s.block) (owner : t.owner = s.owner)
  | invoked (quiet : s.acceptedStart a = none ∧ ¬ s.endsChain a) (connection : Nat)
      (requestId : Int) (mode : Mode)
      (action : a = .invoke connection requestId mode)
      (operations : t.operations = s.operations ++ [.invoked connection requestId mode])
      (block : t.block = s.block) (owner : t.owner = s.owner)
  | moved (quiet : s.acceptedStart a = none ∧ ¬ s.endsChain a) (k : Nat) (op moved : StepChainOperation)
      (current : s.operations[k]? = some op)
      (move : op.Move objectName methodName s.block (fun seen => s.statusRead a = some (k, seen)) moved)
      (operations : t.operations = s.operations.set k moved) (block : t.block = s.block)
      (owner : t.owner = s.owner)
  | progressed (unaccepted : s.acceptedStart a = none)
      (ends : s.endsChain a ↔ s.block.busy = true ∧ t.block.busy = false)
      (continues : s.block.Continues t.block)
      (operations : ∀ j, t.operations[j]? = (s.operations[j]?).map fun (op : StepChainOperation) =>
        op.progress (s.changes t.block)
          (if s.owner = some j then op.chain.map (s.block.endOf t.block) else op.chain))
      (owner : t.owner = s.owner)
  | accepted (k : Nat) (op moved : StepChainOperation) (later : List Request)
      (accepted : s.acceptedStart a = some k) (quiet : ¬ s.endsChain a)
      (current : s.operations[k]? = some op) (taken : op.submitted = .start :: later)
      (idle : s.block.busy = false)
      (shows_ : t.block.Shows (udint op.requestId) .running)
      (moved_ : moved = { op with submitted := later }.begin (s.changes t.block) ∨
        moved = ({ op with submitted := later }.begin (s.changes t.block)).stop)
      (operations : ∀ j, t.operations[j]? =
        if j = k then some moved else (s.operations[j]?).map (·.observe (s.changes t.block)))
      (owner : t.owner = some k)

variable {objectName methodName}

theorem modify_of_current {s : StepChainSystem} (current : s.operations[k]? = some op)
    (f : StepChainOperation → StepChainOperation) :
    s.modify k f = { s with operations := s.operations.set k (f op) } := by
  simp [modify, List.modify_eq_set_getElem?, current]

theorem modify_of_none {s : StepChainSystem} (none : s.operations[k]? = none)
    (f : StepChainOperation → StepChainOperation) :
    s.modify k f = s := by
  simp [modify, List.modify_eq_set_getElem?, none]

/-- A connection has no call, or its worker takes the first of its queue. -/
theorem takeCall_cases (s : StepChainSystem) (connection : Nat)
    (run : StepChainSystem → Nat → StepChainOperation → Request → StepChainSystem) :
    (((s.queues connection).head?.filter fun k => (s.operations[k]?).any fun op => op.submitted.head? = some .start) =
        none ∧ ∃ queues, s.takeCall connection run = { s with queues }) ∨
      ∃ k op request later queues, (s.queues connection).head? = some k ∧ s.operations[k]? = some op ∧
        op.submitted = request :: later ∧
        s.takeCall connection run =
          run { s with operations := s.operations.set k { op with submitted := later }, queues } k op request := by
  unfold takeCall
  split
  · rename_i empty
    exact .inl ⟨by simp [empty], s.queues, rfl⟩
  · rename_i k rest next
    simp only
    split
    · rename_i none
      exact .inl ⟨by simp [next, none], _, rfl⟩
    · rename_i op current
      split
      · rename_i calls
        exact .inl ⟨by simp [next, current, calls], _, rfl⟩
      · rename_i request later calls
        refine .inr ⟨k, op, request, later, Function.update s.queues connection rest,
          by simp [next], current, calls, ?_⟩
        rw [modify_of_current (by exact current)]

theorem transition_modify {s : StepChainSystem} (quiet : s.acceptedStart a = none ∧ ¬ s.endsChain a)
    (move : ∀ op : StepChainOperation,
      op.Move objectName methodName s.block (fun seen => s.statusRead a = some (k, seen)) (f op)) :
    Transition objectName methodName s a (s.modify k f) := by
  cases current : s.operations[k]? with
  | none =>
    rw [modify_of_none current]
    exact .idle quiet rfl rfl rfl
  | some op =>
    rw [modify_of_current current]
    exact .moved quiet k op (f op) current (move op) rfl rfl rfl

theorem transition_modifySubmitting {s : StepChainSystem} (quiet : s.acceptedStart a = none ∧ ¬ s.endsChain a)
    (move : ∀ op : StepChainOperation,
      op.Move objectName methodName s.block (fun seen => s.statusRead a = some (k, seen)) (f op)) :
    Transition objectName methodName s a (s.modifySubmitting k f) := by
  unfold modifySubmitting
  split
  · exact .idle quiet rfl rfl rfl
  · rename_i op current
    simp only [modify_of_current current]
    exact .moved quiet k op (f op) current (move op) rfl rfl rfl

theorem transition_plcStep {s : StepChainSystem} {fb : FunctionBlock} (unaccepted : s.acceptedStart a = none)
    (ends : s.endsChain a ↔ s.block.busy = true ∧ fb.busy = false)
    (continues : s.block.Continues fb) :
    Transition objectName methodName s a (s.plcStep fb) := by
  have same : (s.plcStep fb).block = fb ∧ (s.plcStep fb).owner = s.owner := by
    unfold plcStep
    split <;> exact ⟨rfl, rfl⟩
  refine .progressed unaccepted (by rw [same.1]; exact ends) (by rw [same.1]; exact continues) ?_ same.2
  intro j
  rw [same.1]
  unfold plcStep
  split
  · rename_i unowned
    simp [setBlock, unowned, changes, StepChainOperation.progress, StepChainOperation.observe]
  · rename_i k owned
    simp only [modify, setBlock, List.getElem?_modify, List.getElem?_map, owned, Option.some.injEq, changes]
    cases s.operations[j]? <;> by_cases here : k = j <;>
      simp [here, StepChainOperation.progress, StepChainOperation.observe]

/-- A start call is refused, or begins a chain. -/
theorem start_cases {s : StepChainSystem} (op : StepChainOperation) {waiting : StepChainOperation}
    (current : s.operations[k]? = some waiting)
    (forceError : Bool) :
    (s.block.busy = true ∧
        s.start k op forceError =
          { s with operations := s.operations.set k { waiting with answer := some false } }) ∨
      (s.block.busy = false ∧ (s.start k op forceError).owner = some k ∧
        (s.start k op forceError).block.Shows (udint op.requestId) .running ∧
        ∀ j, (s.start k op forceError).operations[j]? =
          if j = k then some (waiting.begin (s.changes (s.start k op forceError).block))
          else (s.operations[j]?).map (·.observe (s.changes (s.start k op forceError).block))) := by
  rcases FunctionBlock.start_cases s.block (udint op.requestId) forceError with
    ⟨busy, refused⟩ | ⟨idle, accepted, shows_⟩
  · refine .inl ⟨busy, ?_⟩
    simp only [start, refused, Bool.false_eq_true, if_false]
    exact modify_of_current current _
  · refine .inr ⟨idle, ?_⟩
    simp only [start, accepted, if_true, modify, setBlock]
    refine ⟨trivial, shows_, fun j => ?_⟩
    by_cases here : j = k
    · subst here
      simp [current, StepChainOperation.begin, changes, StepChainOperation.observe]
    · simp [here, Ne.symm here, changes]

/-- A call that is taken changes its operation only. -/
theorem transition_taken {s : StepChainSystem} {queues : Nat → List Nat}
    (quiet : s.acceptedStart a = none ∧ ¬ s.endsChain a) (current : s.operations[k]? = some op)
    (taken : StepChainOperation)
    (f : StepChainOperation → StepChainOperation)
    (move : op.Move objectName methodName s.block (fun seen => s.statusRead a = some (k, seen)) (f taken)) :
    Transition objectName methodName s a ({ s with operations := s.operations.set k taken, queues }.modify k f) := by
  have there : k < s.operations.length := (List.getElem?_eq_some_iff.mp current).1
  rw [modify_of_current (List.getElem?_set_self there)]
  exact .moved quiet k op (f taken) current move (by simp) rfl rfl

theorem transition_start {s : StepChainSystem} {queues : Nat → List Nat} (unended : ¬ s.endsChain a)
    (current : s.operations[k]? = some op) (calls : op.submitted = .start :: later)
    (accepts : s.acceptedStart a = if s.block.busy then none else some k) (forceError stops : Bool) :
    Transition objectName methodName s a
      (let started := { s with
          operations := s.operations.set k { op with submitted := later }
          queues }.start k op forceError
        if stops then started.modify k StepChainOperation.stop else started) := by
  have there : k < s.operations.length := (List.getElem?_eq_some_iff.mp current).1
  have set_ : ({ s with operations := s.operations.set k { op with submitted := later }, queues } :
      StepChainSystem).operations[k]? = some { op with submitted := later } := List.getElem?_set_self there
  rcases start_cases op set_ forceError with ⟨busy, refused⟩ | ⟨idle, owner, shows_, operations⟩
  · rw [if_pos busy] at accepts
    rw [refused]
    cases stops with
    | false => exact .moved ⟨accepts, unended⟩ k op _ current (.refused calls busy) (by simp) rfl rfl
    | true =>
      simp only [if_true]
      rw [modify_of_current (List.getElem?_set_self (by simpa using there))]
      exact .moved ⟨accepts, unended⟩ k op _ current (.refusedFailed calls busy) (by simp) rfl rfl
  · rw [if_neg (by simpa using idle)] at accepts
    cases stops with
    | false =>
      refine .accepted k op _ later accepts unended current calls idle shows_ (.inl rfl) (fun j => ?_) owner
      simp only [Bool.false_eq_true, if_false]
      rw [operations]
      by_cases here : j = k
      · rw [if_pos here, if_pos here]
        rfl
      · rw [if_neg here, if_neg here, List.getElem?_set_ne (Ne.symm here)]
        rfl
    | true =>
      simp only [if_true]
      rw [modify_of_current (by rw [operations, if_pos rfl])]
      refine .accepted k op _ later accepts unended current calls idle shows_ (.inr rfl) (fun j => ?_) owner
      by_cases here : j = k
      · subst here
        rw [if_pos rfl]
        exact List.getElem?_set_self (List.getElem?_eq_some_iff.mp ((operations j).trans (if_pos rfl))).1
      · rw [if_neg here, List.getElem?_set_ne (Ne.symm here), operations, if_neg here,
          List.getElem?_set_ne (Ne.symm here)]
        rfl

theorem transition_work (s : StepChainSystem) (connection : Nat) (fault : Fault) (forceError : Bool) :
    Transition objectName methodName s (.work connection fault forceError)
      (s.step objectName methodName (.work connection fault forceError)) := by
  have unended : ¬ s.endsChain (.work connection fault forceError) := id
  simp only [step]
  rcases takeCall_cases s connection (fun s k op request => s.execute k op request fault forceError) with
    ⟨none, queues, same⟩ | ⟨k, op, request, later, queues, head, current, calls, same⟩
  · rw [same]
    exact .idle ⟨by simp [acceptedStart, none], unended⟩ rfl rfl rfl
  rw [same]
  have accepts : s.acceptedStart (.work connection fault forceError) =
      if fault = .before ∨ s.block.busy then Option.none else if request = .start then some k else Option.none := by
    simp only [acceptedStart, head, Option.filter, current, Option.any_some, calls,
      List.head?_cons, Option.some.injEq,
      decide_eq_true_eq]
  have failed : s.acceptedStart (.work connection fault forceError) = Option.none →
      Transition objectName methodName s (.work connection fault forceError)
        ({ s with operations := s.operations.set k { op with submitted := later }, queues }.modify k
          StepChainOperation.stop) :=
    fun unaccepted => transition_taken ⟨unaccepted, unended⟩ current _ _ (.failed calls)
  cases request with
  | register =>
    simp only [reduceCtorEq, if_false, ite_self] at accepts
    cases fault with
    | none => exact transition_taken ⟨accepts, unended⟩ current _ _ (.registered calls)
    | items failing => exact transition_taken ⟨accepts, unended⟩ current _ _ (.registered calls)
    | before => exact failed accepts
    | after => exact failed accepts
  | read =>
    have executed : statusRead.nextRead s connection = some k := by
      simp [statusRead.nextRead, head, Option.filter, current, calls]
    simp only [reduceCtorEq, if_false, ite_self] at accepts
    cases fault with
    | none =>
      exact transition_taken ⟨accepts, unended⟩ current _ _ (.read calls _ (by simp [statusRead, executed]))
    | items failed =>
      exact transition_taken ⟨accepts, unended⟩ current _ _ (.read calls _ (by simp [statusRead, executed]))
    | before => exact failed accepts
    | after => exact failed accepts
  | start =>
    cases fault with
    | none => exact transition_start unended current calls (by simpa using accepts) forceError false
    | items failing => exact transition_start unended current calls (by simpa using accepts) forceError false
    | before => exact failed (by simpa using accepts)
    | after => exact transition_start unended current calls (by simpa using accepts) forceError true

theorem transition_skip (s : StepChainSystem) (connection : Nat) :
    Transition objectName methodName s (.skip connection) (s.step objectName methodName (.skip connection)) := by
  have quiet : s.acceptedStart (.skip connection) = none ∧ ¬ s.endsChain (.skip connection) := ⟨rfl, id⟩
  simp only [step]
  rcases takeCall_cases s connection (fun taken _ op _ => if op.stage.pending then s else taken) with
    ⟨_, queues, same⟩ | ⟨k, op, request, later, queues, _, current, calls, same⟩
  · rw [same]
    exact .idle quiet rfl rfl rfl
  · rw [same]
    cases finished : op.stage.pending with
    | true => exact .idle quiet rfl rfl rfl
    | false => exact .moved quiet k op _ current (.skipped calls finished) rfl rfl rfl

/-- Each step is of one of these kinds. -/
theorem transition_step (s : StepChainSystem) (a : ChainAction) :
    Transition objectName methodName s a (s.step objectName methodName a) := by
  cases a with
  | invoke connection requestId mode => exact .invoked ⟨rfl, id⟩ connection requestId mode rfl rfl rfl rfl
  | work connection fault forceError => exact transition_work s connection fault forceError
  | skip connection => exact transition_skip s connection
  | resume k => exact transition_modifySubmitting ⟨rfl, id⟩ fun _ => .resume
  | examine k => exact transition_modify ⟨rfl, id⟩ fun _ => .examine
  | proceed k => exact transition_modifySubmitting ⟨rfl, id⟩ fun _ => .proceed
  | stop k => exact transition_modify ⟨rfl, id⟩ fun _ => .stop
  | cycle timers => exact transition_plcStep rfl Iff.rfl (continues_cycle s.block timers)
  | abort => exact transition_plcStep rfl Iff.rfl (continues_abort s.block)
  | callback k another => exact transition_modify ⟨rfl, id⟩ fun _ => .callback another
  | enqueueEvent k => exact transition_modify ⟨rfl, id⟩ fun _ => .enqueueEvent

end StepChainSystem

/-! ## How the operations and the function block belong together -/

/-- The operation has submitted a status read since its start was accepted. -/
def Stage.reads : Stage → Bool
  | .reading | .examining _ | .waiting => true
  | .starting | .completed _ | .raised _ | .stopped => false

namespace StepChainOperation
variable {objectName methodName : String} {op moved : StepChainOperation} {block : FunctionBlock}
  {finds : StatusRead → Prop} {owner : Option Nat} {k : Nat}

/-- An operation starts one chain at most, and only a chain whose start was
accepted last is running. -/
structure Consistent (owner : Option Nat) (k : Nat) (op : StepChainOperation) : Prop where
  once : op.submitted.count .start + op.answer.toList.length ≤ 1
  accepted : op.answer = some true ↔ op.chain ≠ none
  owned : op.chain ≠ none → owner ≠ none
  running : op.chain = some .running → owner = some k
  reads : op.stage.reads = true → op.answer = some true

/-- What waiting for the start call, its result and the next read leaves alone. -/
theorem Consistent.congr (held : op.Consistent owner k) (submitted : moved.submitted = op.submitted)
    (answer : moved.answer = op.answer) (chain : moved.chain = op.chain)
    (reads : moved.stage.reads = true → op.stage.reads = true) : moved.Consistent owner k := by
  constructor
  · rw [submitted, answer]
    exact held.once
  · rw [answer, chain]
    exact held.accepted
  · rw [chain]
    exact held.owned
  · rw [chain]
    exact held.running
  · intro reading
    rw [answer]
    exact held.reads (reads reading)

theorem Consistent.stop (held : op.Consistent owner k) : op.stop.Consistent owner k := by
  refine held.congr rfl rfl rfl ?_
  simp only [StepChainOperation.stop]
  split
  · simp [Stage.reads]
  · exact id

theorem Consistent.submitRead (held : op.Consistent owner k) (answer : op.answer = some true) :
    op.submitRead.Consistent owner k :=
  ⟨by simpa [StepChainOperation.submitRead] using held.once, held.accepted, held.owned,
    held.running, fun _ => answer⟩

theorem Consistent.taken (held : op.Consistent owner k) (taken : op.submitted = request :: later) :
    { op with submitted := later }.Consistent owner k := by
  have once := held.once
  rw [taken, List.count_cons] at once
  exact ⟨by simp only; omega, held.accepted, held.owned, held.running, held.reads⟩

/-- A start call that is in the queue has no answer, and no chain. -/
theorem Consistent.unanswered (held : op.Consistent owner k) (taken : op.submitted = .start :: later) :
    later.count .start = 0 ∧ op.answer = none ∧ op.chain = none := by
  have once := held.once
  rw [taken, List.count_cons_self] at once
  have unanswered : op.answer = none := by
    cases answer : op.answer with
    | none => rfl
    | some b => simp [answer] at once
  refine ⟨by omega, unanswered, ?_⟩
  by_contra started
  simpa [unanswered] using held.accepted.mpr started

theorem Consistent.refused (held : op.Consistent owner k) (taken : op.submitted = .start :: later) :
    { op with submitted := later, answer := some false }.Consistent owner k := by
  obtain ⟨last, unanswered, unstarted⟩ := held.unanswered taken
  refine ⟨by simp [last], by simp [unstarted], held.owned, held.running, fun reading => ?_⟩
  have answered := held.reads reading
  rw [unanswered] at answered
  contradiction

theorem Consistent.receive (held : op.Consistent owner k) (seen : StatusRead) :
    (op.receive seen).Consistent owner k := by
  unfold StepChainOperation.receive
  split
  · rename_i reading
    exact held.congr rfl rfl rfl fun _ => by rw [reading]; rfl
  · exact held

theorem Consistent.examine (held : op.Consistent owner k) :
    (op.examine objectName methodName).Consistent owner k := by
  unfold StepChainOperation.examine
  split
  · rename_i status examining
    have reading : op.stage.reads = true := by rw [examining]; rfl
    split <;> exact held.congr rfl rfl rfl fun _ => reading
  · exact held

theorem Consistent.resume (held : op.Consistent owner k) : (op.resume methodName).Consistent owner k := by
  unfold StepChainOperation.resume
  split
  · rename_i accepted starting answer
    split
    · exact held
    · split
      · rename_i yes
        exact held.submitRead (by rw [answer, yes])
      · exact held.congr rfl rfl rfl (by simp [Stage.reads])
  · exact held

theorem Consistent.proceed (held : op.Consistent owner k) : op.proceed.Consistent owner k := by
  unfold StepChainOperation.proceed
  split
  · rename_i waiting _
    exact held.submitRead (held.reads (by rw [waiting]; rfl))
  · rename_i waiting _
    split
    · exact held
    · exact (held.submitRead (held.reads (by rw [waiting]; rfl))).congr rfl rfl rfl id
  · exact held

theorem Consistent.progress (held : op.Consistent owner k) {chain : Option Chain}
    (begun : chain ≠ none ↔ op.chain ≠ none) (running : chain = some .running → owner = some k) :
    (op.progress changed chain).Consistent owner k :=
  ⟨held.once, held.accepted.trans begun.symm, fun started => held.owned (begun.mp started), running, held.reads⟩

theorem Move.consistent (move : op.Move objectName methodName block finds moved) (held : op.Consistent owner k) :
    moved.Consistent owner k := by
  cases move with
  | skipped taken finished => exact held.taken taken
  | failed taken => exact (held.taken taken).stop
  | registered taken => exact (held.taken taken).congr rfl rfl rfl id
  | refused taken busy => exact held.refused taken
  | refusedFailed taken busy => exact (held.refused taken).stop
  | read taken seen found => exact (held.taken taken).receive seen
  | stop => exact held.stop
  | resume => exact held.resume
  | examine => exact held.examine
  | proceed => exact held.proceed
  | callback another => exact held.congr rfl rfl rfl id
  | enqueueEvent =>
    unfold StepChainOperation.enqueueEvent
    split
    · exact held
    · exact held.congr rfl rfl rfl id

theorem consistent_invoked (connection : Nat) (requestId : Int) (mode : Mode) (owner : Option Nat) (k : Nat) :
    (invoked connection requestId mode).Consistent owner k := by
  refine ⟨?_, by simp [invoked], by simp [invoked], by simp [invoked], by simp [invoked, Stage.reads]⟩
  cases mode <;> simp [invoked]

/-- A move neither starts a chain nor ends one. -/
theorem Move.frame (move : op.Move objectName methodName block finds moved) :
    moved.requestId = op.requestId ∧ moved.mode = op.mode ∧ moved.chain = op.chain := by
  cases move with
  | read taken seen found =>
    unfold StepChainOperation.receive
    split <;> exact ⟨rfl, rfl, rfl⟩
  | resume =>
    unfold StepChainOperation.resume
    split
    · split
      · exact ⟨rfl, rfl, rfl⟩
      · split <;> exact ⟨rfl, rfl, rfl⟩
    · exact ⟨rfl, rfl, rfl⟩
  | examine =>
    unfold StepChainOperation.examine
    split
    · split <;> exact ⟨rfl, rfl, rfl⟩
    · exact ⟨rfl, rfl, rfl⟩
  | proceed =>
    unfold StepChainOperation.proceed
    split
    · exact ⟨rfl, rfl, rfl⟩
    · split <;> exact ⟨rfl, rfl, rfl⟩
    · exact ⟨rfl, rfl, rfl⟩
  | enqueueEvent =>
    unfold StepChainOperation.enqueueEvent
    split <;> exact ⟨rfl, rfl, rfl⟩
  | _ => exact ⟨rfl, rfl, rfl⟩

end StepChainOperation

/-- The function block shows the chain of its owner. -/
structure StepChainSystem.Consistent (s : StepChainSystem) : Prop where
  owner : ∀ k, s.owner = some k → ∃ op chain, s.operations[k]? = some op ∧ op.chain = some chain ∧
    s.block.Shows (udint op.requestId) chain
  operations : ∀ k (op : StepChainOperation), s.operations[k]? = some op → op.Consistent s.owner k

namespace StepChainSystem
variable {objectName methodName : String} {s t : StepChainSystem}

theorem getElem?_append_invoked {operations : List StepChainOperation}
    (there : (operations ++ [new])[j]? = some op) :
    operations[j]? = some op ∨ (j = operations.length ∧ op = new) := by
  rcases Nat.lt_or_ge j operations.length with old | young
  · rw [List.getElem?_append_left old] at there
    exact .inl there
  · rw [List.getElem?_append_right young] at there
    obtain ⟨first, same⟩ := List.getElem?_eq_some_iff.mp there
    simp only [List.length_singleton] at first
    exact .inr ⟨by omega, by simpa [first] using same.symm⟩

theorem getElem?_set_moved {operations : List StepChainOperation}
    (there : (operations.set k moved)[j]? = some op) :
    (j = k ∧ op = moved) ∨ (j ≠ k ∧ operations[j]? = some op) := by
  by_cases here : j = k
  · subst here
    have bound : j < operations.length := by simpa using (List.getElem?_eq_some_iff.mp there).1
    rw [List.getElem?_set_self bound] at there
    exact .inl ⟨rfl, (Option.some.inj there).symm⟩
  · rw [List.getElem?_set_ne (Ne.symm here)] at there
    exact .inr ⟨here, there⟩

theorem Consistent.of_invoked (held : s.Consistent)
    (operations : t.operations = s.operations ++ [.invoked connection requestId mode])
    (block : t.block = s.block) (owner : t.owner = s.owner) : t.Consistent := by
  constructor
  · rw [owner, operations, block]
    intro k owned
    obtain ⟨op, chain, current, rest⟩ := held.owner k owned
    exact ⟨op, chain, by rw [List.getElem?_append_left (List.getElem?_eq_some_iff.mp current).1, current], rest⟩
  · rw [owner, operations]
    intro k op there
    rcases getElem?_append_invoked there with old | ⟨_, rfl⟩
    · exact held.operations k op old
    · exact StepChainOperation.consistent_invoked connection requestId mode s.owner k

theorem Consistent.of_moved (held : s.Consistent) {op moved : StepChainOperation} (current : s.operations[k]? = some op)
    (move : op.Move objectName methodName s.block finds moved) (operations : t.operations = s.operations.set k moved)
    (block : t.block = s.block) (owner : t.owner = s.owner) : t.Consistent := by
  obtain ⟨requestId, _, chain⟩ := move.frame
  constructor
  · rw [owner, operations, block]
    intro j owned
    obtain ⟨own, last, there, rest⟩ := held.owner j owned
    by_cases here : j = k
    · subst here
      obtain rfl : op = own := Option.some.inj (current.symm.trans there)
      refine ⟨moved, last, List.getElem?_set_self (List.getElem?_eq_some_iff.mp current).1, ?_⟩
      rw [chain, requestId]
      exact rest
    · exact ⟨own, last, by rw [List.getElem?_set_ne (Ne.symm here), there], rest⟩
  · rw [owner, operations]
    intro j after there
    rcases getElem?_set_moved there with ⟨rfl, rfl⟩ | ⟨_, old⟩
    · exact move.consistent (held.operations j op current)
    · exact held.operations j after old

/-- The chain of the owner follows the function block. -/
theorem Consistent.of_progressed (held : s.Consistent) (continues : s.block.Continues t.block)
    (operations : ∀ j : Nat, t.operations[j]? = (s.operations[j]?).map fun (op : StepChainOperation) =>
      op.progress (s.changes t.block) (if s.owner = some j then op.chain.map (s.block.endOf t.block) else op.chain))
    (owner : t.owner = s.owner) : t.Consistent := by
  constructor
  · rw [owner]
    intro k owned
    obtain ⟨op, chain, current, began, shows_⟩ := held.owner k owned
    refine ⟨_, s.block.endOf t.block chain, (operations k).trans (congrArg _ current), ?_, continues _ _ shows_⟩
    simp [StepChainOperation.progress, owned, began]
  · rw [owner]
    intro k after there
    rw [operations] at there
    obtain ⟨op, current, rfl⟩ := Option.map_eq_some_iff.mp there
    have before := held.operations k op current
    by_cases own : s.owner = some k
    · rw [if_pos own]
      exact before.progress (by simp) fun _ => own
    · rw [if_neg own]
      exact before.progress Iff.rfl before.running

/-- No chain of another operation is running on an idle function block. -/
theorem Consistent.not_running (held : s.Consistent) (idle : s.block.busy = false) {k : Nat}
    {op : StepChainOperation} (current : s.operations[k]? = some op) : op.chain ≠ some .running := by
  intro still
  obtain ⟨own, chain, there, began, shows_⟩ := held.owner k ((held.operations k op current).running still)
  obtain rfl : op = own := Option.some.inj (current.symm.trans there)
  obtain rfl : chain = .running := Option.some.inj (began.symm.trans still)
  rw [shows_.busy.mpr rfl] at idle
  contradiction

/-- An accepted start makes its operation the owner. -/
theorem Consistent.of_accepted (held : s.Consistent) {op moved : StepChainOperation}
    (current : s.operations[k]? = some op) (taken : op.submitted = .start :: later) (idle : s.block.busy = false)
    (shown : t.block.Shows (udint op.requestId) .running)
    (moved_ : moved = ({ op with submitted := later }.begin (s.changes t.block)) ∨
      moved = ({ op with submitted := later }.begin (s.changes t.block)).stop)
    (operations : ∀ j : Nat, t.operations[j]? =
      if j = k then some moved else (s.operations[j]?).map (·.observe (s.changes t.block)))
    (owner : t.owner = some k) : t.Consistent := by
  obtain ⟨last, unanswered, unstarted⟩ := (held.operations k op current).unanswered taken
  have began : ({ op with submitted := later }.begin (s.changes t.block)).Consistent (some k) k :=
    ⟨by simp [StepChainOperation.begin, StepChainOperation.observe, last],
      by simp [StepChainOperation.begin], fun _ => by simp, fun _ => rfl, fun _ => rfl⟩
  have own : moved.requestId = op.requestId ∧ moved.chain = some .running ∧ moved.Consistent (some k) k := by
    rcases moved_ with rfl | rfl
    · exact ⟨rfl, rfl, began⟩
    · exact ⟨rfl, rfl, began.stop⟩
  constructor
  · rw [owner]
    rintro _ ⟨⟩
    exact ⟨moved, .running, by rw [operations, if_pos rfl], own.2.1, by rw [own.1]; exact shown⟩
  · rw [owner]
    intro j after there
    rw [operations] at there
    split at there
    · rename_i here
      subst here
      obtain rfl := Option.some.inj there
      exact own.2.2
    · obtain ⟨before, held_, rfl⟩ := Option.map_eq_some_iff.mp there
      obtain ⟨once, answered, owned, running, reads⟩ := held.operations j before held_
      have ended : before.chain ≠ some .running := held.not_running idle held_
      exact ⟨once, answered, fun _ => by simp, fun still => absurd still ended, reads⟩

theorem Transition.consistent (transition : Transition objectName methodName s a t) (held : s.Consistent) :
    t.Consistent := by
  cases transition with
  | idle quiet operations block owner =>
    constructor
    · rw [owner, operations, block]
      exact held.owner
    · rw [owner, operations]
      exact held.operations
  | invoked quiet connection requestId mode action operations block owner =>
    exact held.of_invoked operations block owner
  | moved quiet k op moved current move operations block owner =>
    exact held.of_moved current move operations block owner
  | progressed unaccepted ends continues operations owner =>
    exact held.of_progressed continues operations owner
  | accepted k op moved later accepted quiet current taken idle shown moved_ operations owner =>
    exact held.of_accepted current taken idle shown moved_ operations owner

theorem consistent_fresh : fresh.Consistent :=
  ⟨fun _ owned => by simp [fresh] at owned, fun _ _ there => by simp [fresh] at there⟩

theorem consistent_run (objectName methodName : String) (actions : List ChainAction) :
    Runs.Throughout (step objectName methodName) Consistent fresh actions :=
  Runs.throughout_of_kept (fun s a held _ => (transition_step s a).consistent held) consistent_fresh Runs.along_true

end StepChainSystem
end PyAds
