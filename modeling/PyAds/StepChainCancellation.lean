import PyAds.AsyncWorkerShutdown
import PyAds.StepChain

/-! Cancelling an operation in `poll` mode. Its `done` is a task that first awaits
`accepted`, the future that the caller holds, so a cancellation of the task may
reach the start call itself. -/
namespace PyAds
open Runs

namespace AsyncConnection
variable {ω ε ρ : Type} {s : AsyncConnection ω ε ρ}

/-- A call was executed once or waits to be; its outcome is on its way to the
future, or there. -/
structure Served (s : AsyncConnection ω ε ρ) (i : Nat) : Prop where
  executed : i ∈ begunIds s.history ∨ i ∈ s.waitingIds
  once : (begunIds s.history).count i ≤ 1
  delivered : ∀ outcome, .ended i outcome ∈ s.history → (i, outcome) ∈ s.owed ∨ s.future? i = some (.finished outcome)
  answered : s.future? i = some .pending ∨
    ∃ outcome, s.future? i = some (.finished outcome) ∧ .ended i outcome ∈ s.history

theorem future?_cancel (pending : s.future? i = some .pending) : (s.cancel i).future? i = some .cancelled := by
  simp only [cancel, pending]
  change (s.setFuture i .cancelled).future? i = _
  rw [future?_setFuture, if_pos rfl, pending, Option.map_some]

/-- Only a call is left out whose future is cancelled. -/
theorem cancelled_of_skipped (reached : Reaches (fresh ω ε ρ) s) (skipped : .skipped i ∈ s.history) :
    s.future? i = some .cancelled := by
  induction reached with
  | refl => cases skipped
  | @tail s t reached step held =>
    have kept (before : .skipped i ∈ s.history) : t.future? i = some .cancelled :=
      future?_step step (held before) (by simp)
    have cancel (j : Nat) (there : .skipped i ∈ (s.cancel j).history) : .skipped i ∈ s.history := by
      rcases cancel_cases s j with ⟨_, same⟩ | same
      · rw [same] at there
        simpa [record, setFuture] using there
      · rwa [same] at there
    cases step with
    | submit op =>
      unfold submit at skipped kept ⊢
      split at skipped <;> exact kept skipped
    | cancel own => exact kept (cancel _ skipped)
    | aclose =>
      unfold aclose at skipped kept ⊢
      split at skipped <;> exact kept skipped
    | cancelClosing own => exact kept (cancel _ skipped)
    | @dequeue item rest _ idle next =>
      cases item with
      | call j => exact kept (by simpa [dequeue, record] using skipped)
      | shutdownSignal => exact kept skipped
    | @checkCancelled _ j own =>
      rcases checkCancelled_cases s j with ⟨cancelled, same⟩ | same
      · rw [same] at skipped
        rcases List.mem_append.mp skipped with before | now
        · exact kept before
        · cases List.mem_singleton.mp now
          rw [same]
          exact cancelled
      · rw [same] at skipped
        exact kept (by simpa [record] using skipped)
    | execute own outcome => exact kept (by simpa [record] using skipped)
    | @callback j outcome rest _ next =>
      rw [(setOutcomeIfPending_frame { s with callbacks := rest } j outcome).1] at skipped
      exact kept skipped
    | _ => exact kept skipped

/-- An accepted call is served unless its future is cancelled. -/
theorem served_iff (reached : Reaches (fresh ω ε ρ) s) (accepted : s.operation? i = some operation) :
    Served s i ↔ s.future? i ≠ some .cancelled := by
  have serialized := calls_serialized reached
  have inside : i < s.calls.length := by
    obtain ⟨call, found, _⟩ := Option.map_eq_some_iff.mp accepted
    exact (List.getElem?_eq_some_iff.mp found).1
  constructor
  · intro served cancelled
    rcases served.answered with pending | ⟨_, finished, _⟩
    · rw [pending] at cancelled
      cases cancelled
    · rw [finished] at cancelled
      cases cancelled
  · intro alive
    have kept : i ∈ (List.range s.calls.length).filter (· ∉ skippedIds s.history) := by
      refine List.mem_filter.mpr ⟨List.mem_range.mpr inside, ?_⟩
      simp only [mem_skippedIds, decide_not, Bool.not_eq_eq_eq_not, Bool.not_true, decide_eq_false_iff_not]
      exact fun skipped => alive (cancelled_of_skipped reached skipped)
    rw [serialized.inOrder] at kept
    constructor
    · exact List.mem_append.mp kept
    · exact List.nodup_iff_count_le_one.mp serialized.atMostOnce i
    · intro outcome ended
      rcases serialized.delivered i outcome ended with owed | finished | cancelled
      · exact .inl owed
      · exact .inr finished
      · exact absurd cancelled alive
    · cases state : s.future? i with
      | none =>
        rw [future?, Option.map_eq_none_iff, List.getElem?_eq_none_iff] at state
        omega
      | some future =>
        cases future with
        | pending => exact .inl rfl
        | cancelled => exact absurd state alive
        | finished outcome => exact .inr ⟨outcome, rfl, serialized.ownOutcome i outcome state⟩

end AsyncConnection

/-- What clients submit to the worker. -/
inductive PollCall where
  | start (methodName : String) (requestId : Int)
  | readStatus (symbols : List String)
  | other (name : String)

inductive PollReply where
  | value (value : PyVal)
  | values (values : OrderedDict String PyVal)

instance : Inhabited PyError := ⟨.typeError⟩

abbrev PollConnection := AsyncConnection PollCall PyError PollReply

/-- Where the task `_wait_until_done` is: not started, at its `await` of the
accepted future, of a status read or of the sleep between two reads, or at its
end. -/
inductive PollStage where
  | created
  | awaiting
  | reading (j : Nat)
  | sleeping
  | returned (values : OrderedDict String PyVal)
  | raised (error : StepChainError)
  | cancelled

/-- A `StepChainOperation` in `poll` mode. With `mustCancel`, the next step of
its task raises `CancelledError`. -/
structure PollOperation where
  methodName : String
  requestId : Int
  accepted : Nat
  stage : PollStage
  mustCancel : Bool

/-- One connection, the operations on one object, and the futures that a client
has cancelled itself. -/
structure PollSystem where
  connection : PollConnection
  operations : List PollOperation
  direct : List Nat

/-- One step of a client, of a task, or of the connection. `expired` tells
whether the timeout is over. -/
inductive PollAction where
  | invoke (methodName : String) (requestId : Int)
  | cancelOperation (k : Nat)
  | wake (k : Nat) (expired : Bool)
  | connection (action : ConnectionAction PollCall PyError PollReply)

namespace PollSystem

def fresh : PollSystem := ⟨.fresh _ _ _, [], []⟩

def setOperation (s : PollSystem) (k : Nat) (op : PollOperation) : PollSystem :=
  { s with operations := s.operations.set k op }

/-- `_invoke` -/
def invoke (s : PollSystem) (methodName : String) (requestId : Int) : PollSystem :=
  if s.connection.closed then s
  else
    { s with
      connection := s.connection.submit (.start methodName requestId)
      operations := s.operations ++ [⟨methodName, requestId, s.connection.calls.length, .created, false⟩] }

/-- `Task.cancel`: the future that the task awaits is cancelled, or else the task
at its next step. -/
def cancelTask (s : PollSystem) (k : Nat) (op : PollOperation) (awaited : Nat) : PollSystem :=
  match s.connection.future? awaited with
  | some .pending => { s with connection := s.connection.cancel awaited }
  | _ => s.setOperation k { op with mustCancel := true }

/-- `StepChainOperation.cancel` -/
def cancelOperation (s : PollSystem) (k : Nat) : PollSystem :=
  match s.operations[k]? with
  | none => s
  | some op =>
    match op.stage with
    | .created | .sleeping => s.setOperation k { op with mustCancel := true }
    | .awaiting => s.cancelTask k op op.accepted
    | .reading j => s.cancelTask k op j
    | .returned _ | .raised _ | .cancelled => s

section
variable (obj : StepChainObject)

/-- The task calls `sum_read`. -/
def submitRead (s : PollSystem) (k : Nat) (op : PollOperation) : PollSystem :=
  if s.connection.closed then
    s.setOperation k { op with stage := .raised (.raised (.runtimeError "AsyncConnection is closed.")) }
  else
    { s.setOperation k { op with stage := .reading s.connection.calls.length } with
      connection := s.connection.submit (.readStatus obj.statusSymbolsForRead) }

/-- The task has the outcome of the start call. -/
def receiveAccepted (s : PollSystem) (k : Nat) (op : PollOperation) : Except PyError PollReply → PollSystem
  | .ok (.value (.bool false)) => s.setOperation k { op with stage := .raised (.rejected op.methodName) }
  | .ok _ => s.submitRead obj k op
  | .error e => s.setOperation k { op with stage := .raised (.raised e) }

/-- The task has the outcome of a status read. -/
def receiveStatus (s : PollSystem) (k : Nat) (op : PollOperation) (expired : Bool) :
    Except PyError PollReply → PollSystem
  | .ok (.values values) =>
    match obj.isCompleted values op.methodName op.requestId with
    | .ok true => s.setOperation k { op with stage := .returned values }
    | .ok false =>
      if expired then s.setOperation k { op with stage := .raised (.timedOut op.methodName op.requestId) }
      else s.setOperation k { op with stage := .sleeping }
    | .error e => s.setOperation k { op with stage := .raised e }
  | .ok (.value _) => s.setOperation k { op with stage := .raised (.raised .attributeError) }
  | .error e => s.setOperation k { op with stage := .raised (.raised e) }

/-- The next step of the task `_wait_until_done`. While the future that it awaits
is pending, there is none. -/
def wake (s : PollSystem) (k : Nat) (expired : Bool) : PollSystem :=
  match s.operations[k]? with
  | none => s
  | some op =>
    let stop := s.setOperation k { op with stage := .cancelled }
    match op.stage with
    | .created =>
      if op.mustCancel then stop
      else match s.connection.future? op.accepted with
        | some (.finished outcome) => s.receiveAccepted obj k op outcome
        | some .cancelled => stop
        | _ => s.setOperation k { op with stage := .awaiting }
    | .awaiting =>
      match s.connection.future? op.accepted with
      | some (.finished outcome) => if op.mustCancel then stop else s.receiveAccepted obj k op outcome
      | some .cancelled => stop
      | _ => s
    | .reading j =>
      match s.connection.future? j with
      | some (.finished outcome) => if op.mustCancel then stop else s.receiveStatus obj k op expired outcome
      | some .cancelled => stop
      | _ => s
    | .sleeping => if op.mustCancel then stop else s.submitRead obj k op
    | .returned _ | .raised _ | .cancelled => s

/-- A client that cancels the future of a call itself is on record. -/
def actOnConnection (s : PollSystem) (action : ConnectionAction PollCall PyError PollReply) : PollSystem :=
  { s with
    connection := s.connection.act action
    direct := match action with
      | .cancel i =>
        match s.connection.operation? i with
        | some (.client _) => i :: s.direct
        | _ => s.direct
      | _ => s.direct }

def act (s : PollSystem) : PollAction → PollSystem
  | .invoke methodName requestId => s.invoke methodName requestId
  | .cancelOperation k => s.cancelOperation k
  | .wake k expired => s.wake obj k expired
  | .connection action => s.actOnConnection action

end

/-- Each start call is executed exactly once and answered to the accepted
future, unless a client has cancelled this future itself. -/
def OnlyStopsWaiting (s : PollSystem) : Prop :=
  ∀ op ∈ s.operations, op.accepted ∉ s.direct → s.connection.Served op.accepted

/-- An operation is not cancelled while its task awaits the accepted future. -/
def SparesStart (s : PollSystem) : PollAction → Prop
  | .cancelOperation k => ∀ op, s.operations[k]? = some op → op.stage = .awaiting →
    s.connection.future? op.accepted ≠ some .pending
  | _ => True

/-! ## What a step leaves alone -/

/-- The calls of the operations are what the operations have submitted, and a
future that a client has cancelled is done. -/
structure Known (s : PollSystem) : Prop where
  reached : AsyncConnection.Reaches (.fresh _ _ _) s.connection
  started : ∀ op ∈ s.operations,
    s.connection.operation? op.accepted = some (.client (.start op.methodName op.requestId))
  reads : ∀ op ∈ s.operations, ∀ j, op.stage = .reading j →
    ∃ symbols, s.connection.operation? j = some (.client (.readStatus symbols))
  settled : ∀ i ∈ s.direct, ∃ future, s.connection.future? i = some future ∧ future ≠ .pending

/-- No accepted future is cancelled but by a client. -/
def Spared (s : PollSystem) : Prop :=
  ∀ op ∈ s.operations, op.accepted ∉ s.direct → s.connection.future? op.accepted ≠ some .cancelled

variable {obj : StepChainObject} {s t : PollSystem}

theorem onlyStopsWaiting_iff (known : Known s) : OnlyStopsWaiting s ↔ Spared s :=
  forall_congr' fun op => forall_congr' fun member => imp_congr_right fun _ =>
    AsyncConnection.served_iff known.reached (known.started op member)

/-- The connection has taken a step, and an operation may have another stage. -/
theorem Known.replace (held : Known s) (there : s.operations[k]? = some op) {moved : PollOperation}
    (operations : t.operations = s.operations.set k moved) (direct : t.direct = s.direct)
    (accepted : moved.accepted = op.accepted) (methodName : moved.methodName = op.methodName)
    (requestId : moved.requestId = op.requestId) (later : s.connection.Reaches t.connection)
    (reads : ∀ j, moved.stage = .reading j →
      ∃ symbols, t.connection.operation? j = some (.client (.readStatus symbols))) : Known t := by
  constructor
  · exact held.reached.trans later
  · intro other member
    rw [operations] at member
    apply AsyncConnection.operation?_reaches later
    rcases List.mem_or_eq_of_mem_set member with before | rfl
    · exact held.started other before
    · rw [accepted, methodName, requestId]
      exact held.started op (List.mem_of_getElem? there)
  · intro other member j reading
    rw [operations] at member
    rcases List.mem_or_eq_of_mem_set member with before | rfl
    · obtain ⟨symbols, found⟩ := held.reads other before j reading
      exact ⟨symbols, AsyncConnection.operation?_reaches later found⟩
    · exact reads j reading
  · rw [direct]
    intro i member
    obtain ⟨future, found, done⟩ := held.settled i member
    exact ⟨future, AsyncConnection.future?_reaches later found done, done⟩

theorem Spared.replace (held : Spared s) (there : s.operations[k]? = some op) {moved : PollOperation}
    (operations : t.operations = s.operations.set k moved) (direct : t.direct = s.direct)
    (accepted : moved.accepted = op.accepted)
    (futures : ∀ op ∈ s.operations, t.connection.future? op.accepted = some .cancelled →
      s.connection.future? op.accepted = some .cancelled) : Spared t := by
  intro other member
  rw [operations] at member
  rw [direct]
  intro free cancelled
  rcases List.mem_or_eq_of_mem_set member with before | rfl
  · exact held other before free (futures other before cancelled)
  · rw [accepted] at free cancelled
    have before := List.mem_of_getElem? there
    exact held op before free (futures op before cancelled)

/-! ## Submitting -/

theorem submit_of_open {connection : PollConnection} (opened : ¬ connection.closed = true) (call : PollCall) :
    connection.submit call = connection.enqueue (.client call) :=
  if_neg opened

theorem operation?_submit {connection : PollConnection} (opened : ¬ connection.closed = true) (call : PollCall) :
    (connection.submit call).operation? connection.calls.length = some (.client call) := by
  rw [submit_of_open opened, AsyncConnection.operation?_enqueue, if_pos rfl]

theorem cancelled_submit {connection : PollConnection} {call : PollCall}
    (cancelled : (connection.submit call).future? i = some .cancelled) : connection.future? i = some .cancelled := by
  unfold AsyncConnection.submit at cancelled
  split at cancelled
  · exact cancelled
  · rcases AsyncConnection.future?_enqueue _ cancelled with before | ⟨_, pending⟩
    · exact before
    · cases pending

theorem Known.invoke (held : Known s) (methodName : String) (requestId : Int) :
    Known (s.invoke methodName requestId) := by
  unfold PollSystem.invoke
  split
  · exact held
  · rename_i opened
    have later : s.connection.Reaches (s.connection.submit (.start methodName requestId)) := .single (.submit _)
    constructor
    · exact held.reached.trans later
    · intro op member
      rcases List.mem_append.mp member with before | new
      · exact AsyncConnection.operation?_reaches later (held.started op before)
      · cases List.mem_singleton.mp new
        exact operation?_submit opened _
    · intro op member j reading
      rcases List.mem_append.mp member with before | new
      · obtain ⟨symbols, found⟩ := held.reads op before j reading
        exact ⟨symbols, AsyncConnection.operation?_reaches later found⟩
      · cases List.mem_singleton.mp new
        cases reading
    · intro i member
      obtain ⟨future, found, done⟩ := held.settled i member
      exact ⟨future, AsyncConnection.future?_reaches later found done, done⟩

theorem Spared.invoke (held : Spared s) (methodName : String) (requestId : Int) :
    Spared (s.invoke methodName requestId) := by
  unfold PollSystem.invoke
  split
  · exact held
  · intro op member free cancelled
    have before := cancelled_submit cancelled
    rcases List.mem_append.mp member with known | new
    · exact held op known free before
    · cases List.mem_singleton.mp new
      rw [AsyncConnection.future?, List.getElem?_eq_none (Nat.le_refl _)] at before
      cases before

/-! ## The task -/

/-- A step of a task: it goes on to another stage, maybe with a status read that
it submits. -/
inductive TaskStep (obj : StepChainObject) (s : PollSystem) (k : Nat) (op : PollOperation) : PollSystem → Prop
  | stage (stage : PollStage) (other : ∀ j, stage ≠ .reading j) :
    TaskStep obj s k op (s.setOperation k { op with stage })
  | read (opened : ¬ s.connection.closed = true) :
    TaskStep obj s k op { s.setOperation k { op with stage := .reading s.connection.calls.length } with
      connection := s.connection.submit (.readStatus obj.statusSymbolsForRead) }

theorem taskStep_submitRead (s : PollSystem) (k : Nat) (op : PollOperation) :
    TaskStep obj s k op (s.submitRead obj k op) := by
  unfold submitRead
  split
  · exact .stage _ (by simp)
  · rename_i opened
    exact .read opened

theorem taskStep_receiveAccepted (s : PollSystem) (k : Nat) (op : PollOperation) (outcome : Except PyError PollReply) :
    TaskStep obj s k op (s.receiveAccepted obj k op outcome) := by
  unfold receiveAccepted
  split
  · exact .stage _ (by simp)
  · exact taskStep_submitRead s k op
  · exact .stage _ (by simp)

theorem taskStep_receiveStatus (s : PollSystem) (k : Nat) (op : PollOperation) (expired : Bool)
    (outcome : Except PyError PollReply) : TaskStep obj s k op (s.receiveStatus obj k op expired outcome) := by
  unfold receiveStatus
  split
  · split
    · exact .stage _ (by simp)
    · split
      · exact .stage _ (by simp)
      · exact .stage _ (by simp)
    · exact .stage _ (by simp)
  · exact .stage _ (by simp)
  · exact .stage _ (by simp)

theorem wake_cases (obj : StepChainObject) (s : PollSystem) (k : Nat) (expired : Bool) :
    s.wake obj k expired = s ∨ ∃ op, s.operations[k]? = some op ∧ TaskStep obj s k op (s.wake obj k expired) := by
  unfold wake
  split
  · exact .inl rfl
  · rename_i op there
    have stop : TaskStep obj s k op (s.setOperation k { op with stage := .cancelled }) := .stage _ (by simp)
    dsimp only
    split
    · refine .inr ⟨op, there, ?_⟩
      split
      · exact stop
      · split
        · exact taskStep_receiveAccepted s k op _
        · exact stop
        · exact .stage _ (by simp)
    · split
      · refine .inr ⟨op, there, ?_⟩
        split
        · exact stop
        · exact taskStep_receiveAccepted s k op _
      · exact .inr ⟨op, there, stop⟩
      · exact .inl rfl
    · split
      · refine .inr ⟨op, there, ?_⟩
        split
        · exact stop
        · exact taskStep_receiveStatus s k op expired _
      · exact .inr ⟨op, there, stop⟩
      · exact .inl rfl
    · refine .inr ⟨op, there, ?_⟩
      split
      · exact stop
      · exact taskStep_submitRead s k op
    · exact .inl rfl
    · exact .inl rfl
    · exact .inl rfl

theorem Known.task (held : Known s) (there : s.operations[k]? = some op) (step : TaskStep obj s k op t) : Known t := by
  cases step with
  | stage stage other =>
    exact held.replace there rfl rfl rfl rfl rfl .refl fun j reading => absurd reading (other j)
  | read opened =>
    refine held.replace there rfl rfl rfl rfl rfl (.single (.submit _)) fun j reading => ?_
    cases reading
    exact ⟨_, operation?_submit opened _⟩

theorem Spared.task (held : Spared s) (there : s.operations[k]? = some op) (step : TaskStep obj s k op t) :
    Spared t := by
  cases step with
  | stage stage other => exact held.replace there rfl rfl rfl fun _ _ cancelled => cancelled
  | read opened => exact held.replace there rfl rfl rfl fun _ _ cancelled => cancelled_submit cancelled

theorem Known.wake (held : Known s) (k : Nat) (expired : Bool) : Known (s.wake obj k expired) := by
  rcases wake_cases obj s k expired with same | ⟨op, there, step⟩
  · rwa [same]
  · exact held.task there step

theorem Spared.wake (held : Spared s) (k : Nat) (expired : Bool) : Spared (s.wake obj k expired) := by
  rcases wake_cases obj s k expired with same | ⟨op, there, step⟩
  · rwa [same]
  · exact held.task there step

/-! ## Cancelling -/

/-- The future of a call that a client has submitted is cancelled. -/
theorem reaches_cancel {connection : PollConnection} (found : connection.operation? i = some (.client call)) :
    connection.Reaches (connection.cancel i) := by
  obtain ⟨⟨operation, future⟩, there, rfl⟩ := Option.map_eq_some_iff.mp found
  exact .single (.cancel there)

/-- The task is cancelled at its next step, or the future that it awaits is cancelled. -/
theorem cancelTask_cases (s : PollSystem) (k : Nat) (op : PollOperation) (awaited : Nat) :
    s.connection.future? awaited = some .pending ∧
        s.cancelTask k op awaited = { s with connection := s.connection.cancel awaited } ∨
      s.connection.future? awaited ≠ some .pending ∧
        s.cancelTask k op awaited = s.setOperation k { op with mustCancel := true } := by
  unfold cancelTask
  split
  · rename_i pending
    exact .inl ⟨pending, rfl⟩
  · rename_i other
    exact .inr ⟨other, rfl⟩

theorem Known.mustCancel (held : Known s) (there : s.operations[k]? = some op) :
    Known (s.setOperation k { op with mustCancel := true }) :=
  held.replace there rfl rfl rfl rfl rfl .refl fun j reading => held.reads op (List.mem_of_getElem? there) j reading

theorem Spared.mustCancel (held : Spared s) (there : s.operations[k]? = some op) :
    Spared (s.setOperation k { op with mustCancel := true }) :=
  held.replace there rfl rfl rfl fun _ _ cancelled => cancelled

/-- What is known of the connection stays true when it goes on. -/
theorem Known.reaches {connection : PollConnection} (held : Known s) (later : s.connection.Reaches connection) :
    Known { s with connection := connection } := by
  constructor
  · exact held.reached.trans later
  · exact fun op member => AsyncConnection.operation?_reaches later (held.started op member)
  · intro op member j reading
    obtain ⟨symbols, there⟩ := held.reads op member j reading
    exact ⟨symbols, AsyncConnection.operation?_reaches later there⟩
  · intro j member
    obtain ⟨future, there, done⟩ := held.settled j member
    exact ⟨future, AsyncConnection.future?_reaches later there done, done⟩

theorem Known.cancelTask (held : Known s) (there : s.operations[k]? = some op)
    (found : s.connection.operation? awaited = some (.client call)) : Known (s.cancelTask k op awaited) := by
  rcases cancelTask_cases s k op awaited with ⟨_, same⟩ | ⟨_, same⟩
  · rw [same]
    exact held.reaches (reaches_cancel found)
  · rw [same]
    exact held.mustCancel there

theorem Known.cancelOperation (held : Known s) (k : Nat) : Known (s.cancelOperation k) := by
  unfold PollSystem.cancelOperation
  split
  · exact held
  · rename_i op there
    have member := List.mem_of_getElem? there
    split
    · exact held.mustCancel there
    · exact held.mustCancel there
    · exact held.cancelTask there (held.started op member)
    · rename_i j reading
      obtain ⟨symbols, found⟩ := held.reads op member j reading
      exact held.cancelTask there found
    · exact held
    · exact held
    · exact held

/-- A status read is not a start call. -/
theorem Spared.cancelRead (known : Known s) (held : Spared s)
    (found : s.connection.operation? j = some (.client (.readStatus symbols))) :
    Spared { s with connection := s.connection.cancel j } := by
  intro op member free cancelled
  rcases AsyncConnection.cancelled_cancel cancelled with rfl | before
  · rw [known.started op member] at found
    cases found
  · exact held op member free before

theorem spared_cancelOperation_iff (known : Known s) (held : Spared s) (k : Nat) :
    Spared (s.cancelOperation k) ↔ SparesStart s (.cancelOperation k) := by
  unfold PollSystem.cancelOperation SparesStart
  split
  · rename_i none_
    refine iff_of_true held fun op there => ?_
    rw [none_] at there
    cases there
  · rename_i op there
    have member := List.mem_of_getElem? there
    have elsewhere (other : op.stage ≠ .awaiting) : SparesStart s (.cancelOperation k) := by
      intro now current awaiting
      rw [there] at current
      cases current
      exact absurd awaiting other
    split
    · rename_i stage
      exact iff_of_true (held.mustCancel there) (elsewhere (by simp [stage]))
    · rename_i stage
      exact iff_of_true (held.mustCancel there) (elsewhere (by simp [stage]))
    · rename_i awaiting
      rcases cancelTask_cases s k op op.accepted with ⟨pending, same⟩ | ⟨done, same⟩
      · rw [same]
        refine iff_of_false (fun spared => ?_) fun spares => spares op there awaiting pending
        have free : op.accepted ∉ s.direct := by
          intro direct
          obtain ⟨future, found, settled⟩ := known.settled _ direct
          rw [pending] at found
          cases found
          exact settled rfl
        apply spared op member free
        exact AsyncConnection.future?_cancel pending
      · rw [same]
        refine iff_of_true (held.mustCancel there) fun now current _ => ?_
        rw [there] at current
        cases current
        exact done
    · rename_i j reading
      refine iff_of_true ?_ (elsewhere (by simp [reading]))
      obtain ⟨symbols, found⟩ := known.reads op member j reading
      rcases cancelTask_cases s k op j with ⟨_, same⟩ | ⟨_, same⟩
      · rw [same]
        exact held.cancelRead known found
      · rw [same]
        exact held.mustCancel there
    · rename_i stage
      exact iff_of_true held (elsewhere (by simp [stage]))
    · rename_i stage
      exact iff_of_true held (elsewhere (by simp [stage]))
    · rename_i stage
      exact iff_of_true held (elsewhere (by simp [stage]))

/-! ## The connection -/

/-- A future that a client cancels is done. -/
theorem settled_cancel {connection : PollConnection} (found : connection.operation? i = some operation) :
    ∃ future, (connection.cancel i).future? i = some future ∧ future ≠ .pending := by
  obtain ⟨⟨_, future⟩, there, _⟩ := Option.map_eq_some_iff.mp found
  have state : connection.future? i = some future := by rw [AsyncConnection.future?, there, Option.map_some]
  cases future with
  | pending => exact ⟨_, AsyncConnection.future?_cancel state, by simp⟩
  | cancelled => exact ⟨_, by rwa [AsyncConnection.cancel, state], by simp⟩
  | finished outcome => exact ⟨_, by rwa [AsyncConnection.cancel, state], by simp⟩

theorem Known.actOnConnection (held : Known s) (action : ConnectionAction PollCall PyError PollReply) :
    Known (s.actOnConnection action) := by
  have moved := held.reaches (AsyncConnection.reaches_act action)
  refine ⟨moved.reached, moved.started, moved.reads, ?_⟩
  intro j member
  cases action with
  | cancel i =>
    simp only [PollSystem.actOnConnection] at member
    split at member
    · rename_i call found
      rcases List.mem_cons.mp member with rfl | before
      · simp only [PollSystem.actOnConnection, AsyncConnection.act, AsyncConnection.cancelClient, found]
        exact settled_cancel found
      · exact moved.settled j before
    · exact moved.settled j member
  | _ => exact moved.settled j member

/-- A client that cancels the accepted future itself is on record, and `aclose`
awaits no start call. -/
theorem Spared.actOnConnection (known : Known s) (held : Spared s)
    (action : ConnectionAction PollCall PyError PollReply) : Spared (s.actOnConnection action) := by
  intro op member free cancelled
  have start := known.started op member
  rcases AsyncConnection.cancelled_act cancelled with before | rfl | ⟨k, rfl, awaits⟩
  · refine held op member (fun direct => free ?_) before
    simp only [PollSystem.actOnConnection]
    split
    · split
      · exact List.mem_cons_of_mem _ direct
      · exact direct
    · exact direct
  · apply free
    simp only [PollSystem.actOnConnection, start]
    exact List.mem_cons_self
  · have first := AsyncConnection.firstCloses_of_reaches known.reached
    have close := (first.awaiting _ (first.head_of awaits (by simp))).2.2
    rw [start] at close
    cases close

/-! ## Whole runs -/

theorem known_act (known : Known s) (action : PollAction) : Known (s.act obj action) := by
  cases action with
  | invoke methodName requestId => exact known.invoke methodName requestId
  | cancelOperation k => exact known.cancelOperation k
  | wake k expired => exact known.wake k expired
  | connection action => exact known.actOnConnection action

theorem spared_act_iff (known : Known s) (held : Spared s) (action : PollAction) :
    Spared (s.act obj action) ↔ SparesStart s action := by
  cases action with
  | invoke methodName requestId => exact iff_of_true (held.invoke methodName requestId) trivial
  | cancelOperation k => exact spared_cancelOperation_iff known held k
  | wake k expired => exact iff_of_true (held.wake k expired) trivial
  | connection action => exact iff_of_true (held.actOnConnection known action) trivial

theorem known_fresh : Known fresh :=
  ⟨.refl, by simp [fresh], by simp [fresh], by simp [fresh]⟩

/-- The cancellation of operations leaves all start calls alone exactly if none
is cancelled while its task awaits the accepted future. -/
theorem cancellation_spares_start_iff (obj : StepChainObject) (actions : List PollAction) :
    Throughout (act obj) OnlyStopsWaiting fresh actions ↔ Along (act obj) SparesStart fresh actions := by
  have law : Throughout (act obj) Known fresh actions :=
    throughout_of_kept (fun _ action known _ => known_act known action) known_fresh along_true
  have same : Throughout (act obj) OnlyStopsWaiting fresh actions ↔ Throughout (act obj) Spared fresh actions :=
    forall₂_congr fun s member => onlyStopsWaiting_iff (law s member)
  have start : Spared fresh := by simp [Spared, fresh]
  rw [same]
  have exact_ (s : PollSystem) (action : PollAction) (held : Spared s) (known : Known s) :
      Spared (s.act obj action) ↔ SparesStart s action := spared_act_iff known held action
  exact invariant_iff exact_ start (along_of_throughout law)

/-- The operation is cancelled before the worker has taken its start call. -/
def cancelledEarly : List PollAction :=
  [.invoke "m_xStart" 1, .wake 0 false, .cancelOperation 0]

theorem early_cancellation_cancels_start :
    ¬ Throughout (act ⟨"GVL.fbChain", {}⟩) OnlyStopsWaiting fresh cancelledEarly := by
  intro spares
  have served : (cancelledEarly.foldl (act ⟨"GVL.fbChain", {}⟩) fresh).connection.Served 0 :=
    spares _ (foldl_mem_states ..) ⟨"m_xStart", 1, 0, .awaiting, false⟩ List.mem_cons_self List.not_mem_nil
  rcases served.answered with pending | ⟨_, finished, _⟩
  · cases pending
  · cases finished

end PollSystem

end PyAds
