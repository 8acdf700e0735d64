import Mathlib.Data.List.Count
import Mathlib.Logic.Function.Basic
import PyAds.Base.Runs
import PyAds.FunctionBlock

/-! Operations on one function block, of any number of asynchronous connections.
An operation submits its start call, reads the status until its request is
completed, and waits between two reads: for a while, or for a notification. The
workers of the connections, the PLC, the ADS library and the event loop take
their steps in any order. -/
namespace PyAds

/-- `completion` of the configuration. -/
inductive Mode where
  | poll
  | notify
  deriving DecidableEq, Repr

def Mode.completion : Mode → String
  | .poll => "poll"
  | .notify => "notify"

/-- A call that an operation has in the queue of its connection. -/
inductive Request where
  | register
  | start
  | read
  deriving DecidableEq, Repr

/-- Where the coroutine of an operation is: before it has the answer to its
start call, waiting for a status read, with the result of one, or waiting for
the next occasion to read. In the end it returns the values of a read, or raises
one of its own errors; all other ends are `stopped`. -/
inductive Stage where
  | starting
  | reading
  | examining (seen : StatusRead)
  | waiting
  | completed (values : OrderedDict String PyVal)
  | raised (error : StepChainError)
  | stopped

def Stage.pending : Stage → Bool
  | .starting | .reading | .examining _ | .waiting => true
  | .completed _ | .raised _ | .stopped => false

/-- A `StepChainOperation`, with its notifications and the events of its queue.
`answer` is what the PLC returned to its start call, and `chain` the chain that
this start began. -/
structure StepChainOperation where
  connection : Nat
  requestId : Int
  mode : Mode
  stage : Stage
  submitted : List Request
  registered : Bool
  callbackDue : Bool
  loopCallbacks : Nat
  events : Nat
  answer : Option Bool
  chain : Option FunctionBlock.Chain

/-- The function block, the operations in the order of their invocation, the
queues of the connections, which name the operation of each call, and the
operation whose start was accepted last. -/
structure StepChainSystem where
  block : FunctionBlock
  operations : List StepChainOperation
  queues : Nat → List Nat
  owner : Option Nat

/-- Whether a call raises, and if so, before or after it has reached the PLC. A
sum read does not raise for the items of it that fail. -/
inductive Fault where
  | none
  | before
  | after
  | items (failed : List ItemFailure)
  deriving DecidableEq, Repr

def Fault.failed : Fault → List ItemFailure
  | .items failed => failed
  | .none | .before | .after => []

/-- One step of a connection's worker, of a coroutine, of the PLC, of the ADS
library or of the event loop. -/
inductive ChainAction where
  | invoke (connection : Nat) (requestId : Int) (mode : Mode)
  | work (connection : Nat) (fault : Fault) (forceError : Bool)
  | skip (connection : Nat)
  | resume (k : Nat)
  | examine (k : Nat)
  | proceed (k : Nat)
  | stop (k : Nat)
  | cycle (timers : Timers)
  | abort
  | callback (k : Nat) (another : Bool)
  | enqueueEvent (k : Nat)

/-- The items that fail if the call of the step is a status read. -/
def ChainAction.failed : ChainAction → List ItemFailure
  | .work _ fault _ => fault.failed
  | _ => []

namespace StepChainOperation

def invoked (connection : Nat) (requestId : Int) (mode : Mode) : StepChainOperation where
  connection := connection
  requestId := requestId
  mode := mode
  stage := .starting
  submitted := if mode = .notify then [.register, .start] else [.start]
  registered := false
  callbackDue := false
  loopCallbacks := 0
  events := 0
  answer := none
  chain := none

/-- The coroutine is cancelled, runs into its timeout, or gets another exception. -/
def stop (op : StepChainOperation) : StepChainOperation :=
    { op with stage := if op.stage.pending then .stopped else op.stage }

/-- `sum_read` is submitted. -/
def submitRead (op : StepChainOperation) : StepChainOperation :=
    { op with stage := .reading, submitted := op.submitted ++ [.read] }

/-- `_enqueue_notification_event`: an event is dropped if 64 are in the queue. -/
def enqueueEvent (op : StepChainOperation) : StepChainOperation :=
  if op.loopCallbacks = 0 then op
  else
    { op with
      loopCallbacks := op.loopCallbacks - 1
      events := if op.events < 64 then op.events + 1 else op.events }

/-- The ADS library invokes the callback, which puts a call of
`_enqueue_notification_event` on the event loop; another invocation may be due. -/
def callback (op : StepChainOperation) (another : Bool) : StepChainOperation :=
  { op with callbackDue := op.callbackDue && another, loopCallbacks := op.loopCallbacks + 1 }

/-- A change of the status makes a callback due if the operation has its
notifications. -/
def observe (op : StepChainOperation) (changed : Bool) : StepChainOperation :=
  { op with callbackDue := op.callbackDue || (op.registered && changed) }

/-- The result of a status read is there. -/
def receive (op : StepChainOperation) (seen : StatusRead) : StepChainOperation :=
  match op.stage with
  | .reading => { op with stage := .examining seen }
  | _ => op

section
variable (objectName methodName : String)

def check (op : StepChainOperation) (seen : StatusRead) : Except StepChainError Bool :=
  (referenceObject objectName op.mode.completion).isCompleted
    ((referenceObject objectName op.mode.completion).reading seen).values methodName op.requestId

/-- What follows from the result of a status read. -/
def examine (op : StepChainOperation) : StepChainOperation :=
  match op.stage with
  | .examining seen =>
    match op.check objectName methodName seen with
    | .ok true =>
      { op with stage := .completed ((referenceObject objectName op.mode.completion).reading seen).values }
    | .ok false => { op with stage := .waiting }
    | .error e => { op with stage := .raised e }
  | _ => op

/-- The coroutine has the answer to its start call, and in `notify` mode its
notifications; it raises, or submits the first status read. -/
def resume (op : StepChainOperation) : StepChainOperation :=
  match op.stage, op.answer with
  | .starting, some accepted =>
    if op.mode = .notify ∧ op.registered = false then op
    else if accepted then op.submitRead
    else { op with stage := .raised (.rejected methodName) }
  | _, _ => op

end

/-- The time between two reads is over, or an event is taken from the queue. -/
def proceed (op : StepChainOperation) : StepChainOperation :=
  match op.stage, op.mode with
  | .waiting, .poll => op.submitRead
  | .waiting, .notify => if op.events = 0 then op else { op.submitRead with events := op.events - 1 }
  | _, _ => op

end StepChainOperation

namespace StepChainSystem

def fresh : StepChainSystem := ⟨.initial, [], fun _ => [], none⟩

def modify (s : StepChainSystem) (k : Nat) (f : StepChainOperation → StepChainOperation) : StepChainSystem :=
  { s with operations := s.operations.modify k f }

/-- The calls that an operation submits in this step join the queue of its
connection. -/
def modifySubmitting (s : StepChainSystem) (k : Nat)
    (f : StepChainOperation → StepChainOperation) : StepChainSystem :=
  match s.operations[k]? with
  | none => s
  | some op =>
    let joins := (f op).submitted.length - op.submitted.length
    { s.modify k f with
      queues := Function.update s.queues op.connection (s.queues op.connection ++ List.replicate joins k) }

def setBlock (s : StepChainSystem) (block : FunctionBlock) : StepChainSystem :=
  { s with
    block
    operations := s.operations.map (·.observe (decide (block.stStepStatus ≠ s.block.stStepStatus))) }

/-- A step of the PLC, which may end the chain that is running. -/
def plcStep (s : StepChainSystem) (block : FunctionBlock) : StepChainSystem :=
  match s.owner with
  | none => s.setBlock block
  | some k => (s.setBlock block).modify k fun op => { op with chain := op.chain.map (s.block.endOf block) }

/-- The start call of an operation, carried out by the PLC. -/
def start (s : StepChainSystem) (k : Nat) (op : StepChainOperation) (forceError : Bool) : StepChainSystem :=
  let result := s.block.start (udint op.requestId) forceError
  if result.1 then
    { (s.setBlock result.2).modify k fun op => { op with answer := some true, chain := some .running } with
      owner := some k }
  else s.modify k fun op => { op with answer := some false }

/-- The worker executes a call of an operation. Only a status read has items that
can fail. -/
def execute (s : StepChainSystem) (k : Nat) (op : StepChainOperation) (request : Request) (fault : Fault)
    (forceError : Bool) : StepChainSystem :=
  match request, fault with
  | .register, .none | .register, .items _ => s.modify k fun op => { op with registered := true }
  | .start, .none | .start, .items _ => s.start k op forceError
  | .start, .after => (s.start k op forceError).modify k StepChainOperation.stop
  | .read, .none => s.modify k (·.receive ⟨s.block.stStepStatus, []⟩)
  | .read, .items failed => s.modify k (·.receive ⟨s.block.stStepStatus, failed⟩)
  | _, _ => s.modify k StepChainOperation.stop

/-- The worker takes the next call from the queue. -/
def takeCall (s : StepChainSystem) (connection : Nat)
    (run : StepChainSystem → Nat → StepChainOperation → Request → StepChainSystem) : StepChainSystem :=
  match s.queues connection with
  | [] => s
  | k :: rest =>
    let s := { s with queues := Function.update s.queues connection rest }
    match s.operations[k]? with
    | none => s
    | some op =>
      match op.submitted with
      | [] => s
      | request :: later => run (s.modify k fun op => { op with submitted := later }) k op request

section
variable (objectName methodName : String)

/-- A call is left out if its future was cancelled with the coroutine. -/
def step (s : StepChainSystem) : ChainAction → StepChainSystem
  | .invoke connection requestId mode =>
    { s with
      operations := s.operations ++ [.invoked connection requestId mode]
      queues := Function.update s.queues connection (s.queues connection ++
        List.replicate (StepChainOperation.invoked connection requestId mode).submitted.length s.operations.length) }
  | .work connection fault forceError =>
    s.takeCall connection fun s k op request => s.execute k op request fault forceError
  | .skip connection =>
    s.takeCall connection fun taken _ op _ => if op.stage.pending then s else taken
  | .resume k => s.modifySubmitting k (·.resume methodName)
  | .examine k => s.modify k (·.examine objectName methodName)
  | .proceed k => s.modifySubmitting k (·.proceed)
  | .stop k => s.modify k StepChainOperation.stop
  | .cycle timers => s.plcStep (s.block.cycle timers)
  | .abort => s.plcStep s.block.abort.2
  | .callback k another => s.modify k (·.callback another)
  | .enqueueEvent k => s.modify k StepChainOperation.enqueueEvent

end
end StepChainSystem

end PyAds
