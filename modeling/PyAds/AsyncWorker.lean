import Mathlib.Data.List.Nodup
import Mathlib.Logic.Relation

/-! One asynchronous connection: clients on an event loop queue calls for a
worker thread, which executes them one after the other and sends each outcome
back to the loop. Calls are numbered in the order in which they are accepted;
each has its own future, which a client may cancel at any time. -/
namespace PyAds

/-- The function of a queued call: one that a client submitted, or
`Connection.close`, which `aclose` queues. -/
inductive Operation (ω : Type) where
  | client (op : ω)
  | closeConnection

/-- `asyncio.Future` -/
inductive FutureState (ε ρ : Type) where
  | pending
  | cancelled
  | finished (outcome : Except ε ρ)

/-- `_QueuedCall`, with the state of its future. -/
structure Call (ω ε ρ : Type) where
  operation : Operation ω
  future : FutureState ε ρ

inductive QueueItem where
  | call (i : Nat)
  | shutdownSignal
  deriving DecidableEq

/-- Where `_worker_main` is: before `get`, before the check of `cancelled`, in
the function, before `call_soon_threadsafe`, or past its end. -/
inductive Worker (ε ρ : Type) where
  | idle
  | dequeued (i : Nat)
  | executing (i : Nat)
  | executed (i : Nat) (outcome : Except ε ρ)
  | stopped

/-- Where a call of `aclose` is. It returns normally as `closed`, or at once as
`foundClosed` if the connection is marked closed already. -/
inductive Closing where
  | awaiting (i : Nat)
  | joining
  | closed
  | foundClosed
  | raised

/-- What happened to calls, in the order of events. -/
inductive CallEvent (ε ρ : Type) where
  | cancelled (i : Nat)
  | dequeued (i : Nat)
  | skipped (i : Nat)
  | began (i : Nat)
  | ended (i : Nat) (outcome : Except ε ρ)

structure AsyncConnection (ω ε ρ : Type) where
  closed : Bool
  calls : List (Call ω ε ρ)
  queue : List QueueItem
  worker : Worker ε ρ
  /-- The outcomes sent with `call_soon_threadsafe` and not processed yet. -/
  callbacks : List (Nat × Except ε ρ)
  closings : List Closing
  history : List (CallEvent ε ρ)

namespace AsyncConnection
variable {ω ε ρ : Type}

/-- A connection whose worker has just started. -/
def fresh (ω ε ρ : Type) : AsyncConnection ω ε ρ := ⟨false, [], [], .idle, [], [], []⟩

def future? (s : AsyncConnection ω ε ρ) (i : Nat) : Option (FutureState ε ρ) := s.calls[i]?.map (·.future)

def setFuture (s : AsyncConnection ω ε ρ) (i : Nat) (future : FutureState ε ρ) : AsyncConnection ω ε ρ :=
  { s with calls := s.calls.modify i fun call => { call with future } }

def record (s : AsyncConnection ω ε ρ) (event : CallEvent ε ρ) : AsyncConnection ω ε ρ :=
  { s with history := s.history ++ [event] }

/-- A new future, and its call at the end of the queue. -/
def enqueue (s : AsyncConnection ω ε ρ) (operation : Operation ω) : AsyncConnection ω ε ρ :=
  { s with
    calls := s.calls ++ [⟨operation, .pending⟩]
    queue := s.queue ++ [.call s.calls.length] }

/-- `_submit`, which raises once the connection is marked closed. -/
def submit (s : AsyncConnection ω ε ρ) (op : ω) : AsyncConnection ω ε ρ :=
  if s.closed then s else s.enqueue (.client op)

/-- `Future.cancel` -/
def cancel (s : AsyncConnection ω ε ρ) (i : Nat) : AsyncConnection ω ε ρ :=
  match s.future? i with
  | some .pending => (s.setFuture i .cancelled).record (.cancelled i)
  | _ => s

/-- `_set_result_if_pending` and `_set_exception_if_pending` -/
def setOutcomeIfPending (s : AsyncConnection ω ε ρ) (i : Nat) (outcome : Except ε ρ) : AsyncConnection ω ε ρ :=
  match s.future? i with
  | some .pending => s.setFuture i (.finished outcome)
  | _ => s

/-- `aclose` up to its first `await`. -/
def aclose (s : AsyncConnection ω ε ρ) : AsyncConnection ω ε ρ :=
  if s.closed then { s with closings := s.closings ++ [.foundClosed] }
  else
    { s.enqueue .closeConnection with
      closed := true
      closings := s.closings ++ [.awaiting s.calls.length] }

/-- `queue.get` of the worker. -/
def dequeue (s : AsyncConnection ω ε ρ) : QueueItem → AsyncConnection ω ε ρ
  | .call i => { s with worker := .dequeued i }.record (.dequeued i)
  | .shutdownSignal => { s with worker := .stopped }

/-- `if item.future.cancelled(): continue` -/
def checkCancelled (s : AsyncConnection ω ε ρ) (i : Nat) : AsyncConnection ω ε ρ :=
  match s.future? i with
  | some .cancelled => { s with worker := .idle }.record (.skipped i)
  | _ => { s with worker := .executing i }.record (.began i)

/-- The steps of the clients, of the calls of `aclose`, of the worker and of
the event loop. -/
inductive Step : AsyncConnection ω ε ρ → AsyncConnection ω ε ρ → Prop
  | submit (op : ω) : Step s (s.submit op)
  | cancel (own : s.calls[i]? = some ⟨.client op, future⟩) : Step s (s.cancel i)
  | aclose : Step s s.aclose
  /-- The task of `aclose` is cancelled, and with it the future that it awaits. -/
  | cancelClosing (own : s.closings[k]? = some (.awaiting i)) :
    Step s { s.cancel i with closings := s.closings.set k .raised }
  | cancelJoining (own : s.closings[k]? = some .joining) : Step s { s with closings := s.closings.set k .raised }
  | shutDown (own : s.closings[k]? = some (.awaiting i)) (done : s.future? i = some (.finished (.ok value))) :
    Step s { s with queue := s.queue ++ [.shutdownSignal], closings := s.closings.set k .joining }
  | closeRaised (own : s.closings[k]? = some (.awaiting i))
    (done : s.future? i = some (.finished (.error exc)) ∨ s.future? i = some .cancelled) :
    Step s { s with closings := s.closings.set k .raised }
  | joined (own : s.closings[k]? = some .joining) (stopped : s.worker = .stopped) :
    Step s { s with closings := s.closings.set k .closed }
  | dequeue (idle : s.worker = .idle) (next : s.queue = item :: rest) :
    Step s ({ s with queue := rest }.dequeue item)
  | checkCancelled (own : s.worker = .dequeued i) : Step s (s.checkCancelled i)
  | execute (own : s.worker = .executing i) (outcome : Except ε ρ) :
    Step s ({ s with worker := .executed i outcome }.record (.ended i outcome))
  | callSoon (own : s.worker = .executed i outcome) :
    Step s { s with worker := .idle, callbacks := s.callbacks ++ [(i, outcome)] }
  | callback (next : s.callbacks = (i, outcome) :: rest) :
    Step s ({ s with callbacks := rest }.setOutcomeIfPending i outcome)

/-- Any number of steps. -/
def Reaches (s t : AsyncConnection ω ε ρ) : Prop := Relation.ReflTransGen Step s t

end AsyncConnection

end PyAds
