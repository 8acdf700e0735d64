import PyAds.AsyncWorker

/-! One asynchronous connection whose clients run in several threads, each with
an event loop of its own. The check of the closed flag and the enqueueing are
then two steps, with steps of other threads between them; and a loop may be
closed before the outcomes of its calls arrive. -/
namespace PyAds

/-- Where a call of `_submit` or of `aclose` is. Both check the flag, which
`aclose` then sets, and put their call into the queue; only `aclose` goes on. -/
inductive CallStage where
  | refused
  | checked
  | queued
  | received
  | signalled
  | joined
  | failed

/-- Past the enqueueing, where `_submit` returns the future. -/
def CallStage.accepted : CallStage → Bool
  | .refused | .checked => false
  | _ => true

structure ThreadCall (ω ε ρ : Type) where
  operation : Operation ω
  loop : Nat
  future : FutureState ε ρ
  stage : CallStage

/-- The worker of `AsyncConnection`, which may also end with an exception. -/
inductive ThreadWorker (ε ρ : Type) where
  | idle
  | dequeued (i : Nat)
  | executing (i : Nat)
  | executed (i : Nat) (outcome : Except ε ρ)
  | stopped
  | died

structure SharedConnection (ω ε ρ : Type) where
  closed : Bool
  calls : List (ThreadCall ω ε ρ)
  queue : List QueueItem
  worker : ThreadWorker ε ρ
  /-- The outcomes sent with `call_soon_threadsafe` and not processed yet. -/
  callbacks : List (Nat × Except ε ρ)
  closedLoops : List Nat
  /-- What the worker has taken from the queue, what it has executed of this, and
  what it has left out. -/
  taken : List QueueItem
  begun : List Nat
  skipped : List Nat

/-- The steps of all threads. The outcome matters where the worker is in a function. -/
inductive ThreadAction (ω ε ρ : Type) where
  | check (operation : Operation ω) (loop : Nat)
  | put (i : Nat)
  | receive (i : Nat)
  | putSignal (i : Nat)
  | join (i : Nat)
  | cancel (i : Nat)
  | closeLoop (loop : Nat)
  | work (outcome : Except ε ρ)
  | callback (loop : Nat)

namespace SharedConnection
variable {ω ε ρ : Type}

def fresh (ω ε ρ : Type) : SharedConnection ω ε ρ := ⟨false, [], [], .idle, [], [], [], [], []⟩

def setStage (s : SharedConnection ω ε ρ) (i : Nat) (stage : CallStage) : SharedConnection ω ε ρ :=
  { s with calls := s.calls.modify i fun call => { call with stage } }

def setFuture (s : SharedConnection ω ε ρ) (i : Nat) (future : FutureState ε ρ) : SharedConnection ω ε ρ :=
  { s with calls := s.calls.modify i fun call => { call with future } }

def future? (s : SharedConnection ω ε ρ) (i : Nat) : Option (FutureState ε ρ) := s.calls[i]?.map (·.future)

/-- The loop of a call has been closed. -/
def loopClosed (s : SharedConnection ω ε ρ) (i : Nat) : Bool :=
  s.calls[i]?.any fun call => s.closedLoops.contains call.loop

/-- `_submit` and `aclose` under the lock. Only a running loop calls them. -/
def check (s : SharedConnection ω ε ρ) (operation : Operation ω) (loop : Nat) : SharedConnection ω ε ρ :=
  if s.closedLoops.contains loop then s
  else if s.closed then { s with calls := s.calls ++ [⟨operation, loop, .pending, .refused⟩] }
  else
    { s with
      closed := match operation with
        | .client _ => s.closed
        | .closeConnection => true
      calls := s.calls ++ [⟨operation, loop, .pending, .checked⟩] }

/-- `_submit` and `aclose` past the lock: the call goes into the queue. -/
def put (s : SharedConnection ω ε ρ) (i : Nat) : SharedConnection ω ε ρ :=
  match s.calls[i]? with
  | some ⟨_, _, _, .checked⟩ => { s.setStage i .queued with queue := s.queue ++ [.call i] }
  | _ => s

/-- `await close_future` -/
def receive (s : SharedConnection ω ε ρ) (i : Nat) : SharedConnection ω ε ρ :=
  match s.calls[i]? with
  | some ⟨.closeConnection, loop, future, .queued⟩ =>
    if s.closedLoops.contains loop then s
    else match future with
      | .finished (.ok _) => s.setStage i .received
      | .finished (.error _) | .cancelled => s.setStage i .failed
      | .pending => s
  | _ => s

/-- `aclose` sends the signal. -/
def putSignal (s : SharedConnection ω ε ρ) (i : Nat) : SharedConnection ω ε ρ :=
  match s.calls[i]? with
  | some ⟨.closeConnection, _, _, .received⟩ =>
    { s.setStage i .signalled with queue := s.queue ++ [.shutdownSignal] }
  | _ => s

/-- `aclose` returns once the thread of the worker has ended. -/
def join (s : SharedConnection ω ε ρ) (i : Nat) : SharedConnection ω ε ρ :=
  match s.calls[i]?, s.worker with
  | some ⟨.closeConnection, loop, _, .signalled⟩, .stopped | some ⟨.closeConnection, loop, _, .signalled⟩, .died =>
    if s.closedLoops.contains loop then s else s.setStage i .joined
  | _, _ => s

def cancelFuture (s : SharedConnection ω ε ρ) (i : Nat) : SharedConnection ω ε ρ :=
  match s.future? i with
  | some .pending => s.setFuture i .cancelled
  | _ => s

/-- A client cancels the future of its call; or the task of `aclose` is
cancelled, and with it the future that it awaits. -/
def cancel (s : SharedConnection ω ε ρ) (i : Nat) : SharedConnection ω ε ρ :=
  match s.calls[i]? with
  | some ⟨.client _, _, _, .queued⟩ => s.cancelFuture i
  | some ⟨.closeConnection, loop, _, .queued⟩ | some ⟨.closeConnection, loop, _, .signalled⟩ =>
    if s.closedLoops.contains loop then s else (s.cancelFuture i).setStage i .failed
  | _ => s

/-- A loop closes, but not while it runs `_submit` or a part of `aclose`. -/
def closeLoop (s : SharedConnection ω ε ρ) (loop : Nat) : SharedConnection ω ε ρ :=
  if s.calls.any fun call => call.loop == loop && (call.stage matches .checked | .received) then s
  else { s with closedLoops := loop :: s.closedLoops }

/-- The next step of `_worker_main`. An event loop that is closed refuses the
outcome with an exception, which nobody catches. -/
def work (s : SharedConnection ω ε ρ) (outcome : Except ε ρ) : SharedConnection ω ε ρ :=
  match s.worker with
  | .idle =>
    match s.queue with
    | [] => s
    | .call i :: rest => { s with queue := rest, taken := s.taken ++ [.call i], worker := .dequeued i }
    | .shutdownSignal :: rest => { s with queue := rest, taken := s.taken ++ [.shutdownSignal], worker := .stopped }
  | .dequeued i =>
    match s.future? i with
    | some .cancelled => { s with worker := .idle, skipped := s.skipped ++ [i] }
    | _ => { s with worker := .executing i, begun := s.begun ++ [i] }
  | .executing i => { s with worker := .executed i outcome }
  | .executed i outcome =>
    if s.loopClosed i then { s with worker := .died }
    else { s with worker := .idle, callbacks := s.callbacks ++ [(i, outcome)] }
  | .stopped | .died => s

/-- A loop runs the first of its callbacks: `_set_result_if_pending` and
`_set_exception_if_pending`. -/
def callback (s : SharedConnection ω ε ρ) (loop : Nat) : SharedConnection ω ε ρ :=
  if s.closedLoops.contains loop then s
  else match s.callbacks.find? fun (i, _) => s.calls[i]?.any (·.loop == loop) with
    | none => s
    | some (i, outcome) =>
      let t := { s with callbacks := s.callbacks.eraseP fun (i, _) => s.calls[i]?.any (·.loop == loop) }
      match s.future? i with
      | some .pending => t.setFuture i (.finished outcome)
      | _ => t

def act (s : SharedConnection ω ε ρ) : ThreadAction ω ε ρ → SharedConnection ω ε ρ
  | .check operation loop => s.check operation loop
  | .put i => s.put i
  | .receive i => s.receive i
  | .putSignal i => s.putSignal i
  | .join i => s.join i
  | .cancel i => s.cancel i
  | .closeLoop loop => s.closeLoop loop
  | .work outcome => s.work outcome
  | .callback loop => s.callback loop

/-! ## Calls -/

def operation? (s : SharedConnection ω ε ρ) (i : Nat) : Option (Operation ω) := s.calls[i]?.map (·.operation)

/-- The call is in the queue, or has been. -/
def accepted (s : SharedConnection ω ε ρ) (i : Nat) : Bool := s.calls[i]?.any (·.stage.accepted)

/-- Calls are the same but for their futures and for what `aclose` does. -/
structure SameCalls (s t : SharedConnection ω ε ρ) : Prop where
  operation : ∀ i, t.operation? i = s.operation? i
  accepted : ∀ i, t.accepted i = s.accepted i
  cancelled : ∀ i, s.future? i = some .cancelled → t.future? i = some .cancelled

variable {s t : SharedConnection ω ε ρ}

theorem SameCalls.of_eq (same : t.calls = s.calls) : SameCalls s t := by
  constructor
  · intro i
    rw [operation?, operation?, same]
  · intro i
    rw [SharedConnection.accepted, SharedConnection.accepted, same]
  · intro i cancelled
    rwa [future?, same]

theorem SameCalls.trans (first : SameCalls s t) (second : SameCalls t u) : SameCalls s u where
  operation i := (second.operation i).trans (first.operation i)
  accepted i := (second.accepted i).trans (first.accepted i)
  cancelled i held := second.cancelled i (first.cancelled i held)

theorem sameCalls_setFuture (pending : s.future? i = some .pending) (future : FutureState ε ρ) :
    SameCalls s (s.setFuture i future) := by
  constructor
  · intro j
    simp only [operation?, setFuture, List.getElem?_modify]
    by_cases same : i = j <;> cases s.calls[j]? <;> simp [same]
  · intro j
    simp only [SharedConnection.accepted, setFuture, List.getElem?_modify]
    by_cases same : i = j <;> cases s.calls[j]? <;> simp [same]
  · intro j cancelled
    have apart : i ≠ j := by
      rintro rfl
      rw [pending] at cancelled
      cases cancelled
    simp only [future?, setFuture, List.getElem?_modify]
    simpa [apart, future?] using cancelled

theorem cancelled_setStage {stage : CallStage} (cancelled : s.future? j = some .cancelled) :
    (s.setStage i stage).future? j = some .cancelled := by
  simp only [future?, setStage, List.getElem?_modify]
  by_cases here : i = j
  · subst here
    simpa [Function.comp_def, future?] using cancelled
  · simpa [here, future?] using cancelled

/-- `aclose` goes on with a call that is in the queue, or was. -/
theorem sameCalls_setStage (own : s.calls[i]? = some call) (stage : CallStage)
    (same : stage.accepted = call.stage.accepted) : SameCalls s (s.setStage i stage) := by
  constructor
  · intro j
    simp only [operation?, setStage, List.getElem?_modify]
    by_cases here : i = j <;> cases s.calls[j]? <;> simp [here]
  · intro j
    simp only [SharedConnection.accepted, setStage, List.getElem?_modify]
    by_cases here : i = j
    · subst here
      simp [own, same]
    · simp [here]
  · exact fun j => cancelled_setStage

/-! ## Steps -/

/-- A step that has nothing to do with the queue. -/
structure Aside (s t : SharedConnection ω ε ρ) : Prop extends SameCalls s t where
  queue : t.queue = s.queue
  taken : t.taken = s.taken
  worker : t.worker = s.worker
  begun : t.begun = s.begun
  skipped : t.skipped = s.skipped

theorem Aside.refl (s : SharedConnection ω ε ρ) : Aside s s := ⟨.of_eq rfl, rfl, rfl, rfl, rfl, rfl⟩

theorem aside_setStage (own : s.calls[i]? = some call) (stage : CallStage)
    (same : stage.accepted = call.stage.accepted) : Aside s (s.setStage i stage) :=
  ⟨sameCalls_setStage own stage same, rfl, rfl, rfl, rfl, rfl⟩

theorem aside_receive (i : Nat) : Aside s (s.receive i) := by
  unfold receive
  split
  · rename_i own
    split
    · exact .refl s
    · split
      · exact aside_setStage own .received rfl
      · exact aside_setStage own .failed rfl
      · exact aside_setStage own .failed rfl
      · exact .refl s
  · exact .refl s

theorem aside_join (i : Nat) : Aside s (s.join i) := by
  unfold join
  split
  · rename_i own _
    split
    · exact .refl s
    · exact aside_setStage own .joined rfl
  · rename_i own _
    split
    · exact .refl s
    · exact aside_setStage own .joined rfl
  · exact .refl s

theorem aside_cancelFuture (i : Nat) : Aside s (s.cancelFuture i) := by
  unfold cancelFuture
  split
  · rename_i pending
    exact ⟨sameCalls_setFuture pending .cancelled, rfl, rfl, rfl, rfl, rfl⟩
  · exact .refl s

/-- The task of `aclose` ends, and with it its future. -/
theorem aside_cancelTask (own : s.calls[i]? = some call) (accepted : call.stage.accepted = true) :
    Aside s ((s.cancelFuture i).setStage i .failed) := by
  have first := @aside_cancelFuture _ _ _ s i
  have stays : (s.cancelFuture i).accepted i = true := by
    rw [first.accepted, SharedConnection.accepted, own]
    simpa using accepted
  cases found : (s.cancelFuture i).calls[i]? with
  | none =>
    rw [SharedConnection.accepted, found] at stays
    cases stays
  | some now =>
    rw [SharedConnection.accepted, found] at stays
    have second := sameCalls_setStage found .failed (by simpa [CallStage.accepted] using stays.symm)
    exact ⟨first.toSameCalls.trans second, first.queue, first.taken, first.worker, first.begun, first.skipped⟩

theorem aside_cancel (i : Nat) : Aside s (s.cancel i) := by
  unfold cancel
  split
  · exact aside_cancelFuture i
  · rename_i own
    split
    · exact .refl s
    · exact aside_cancelTask own rfl
  · rename_i own
    split
    · exact .refl s
    · exact aside_cancelTask own rfl
  · exact .refl s

theorem aside_closeLoop (loop : Nat) : Aside s (s.closeLoop loop) := by
  unfold closeLoop
  split
  · exact .refl s
  · exact ⟨.of_eq rfl, rfl, rfl, rfl, rfl, rfl⟩

theorem aside_callback (loop : Nat) : Aside s (s.callback loop) := by
  unfold callback
  split
  · exact .refl s
  · split
    · exact .refl s
    · dsimp only
      split
      · rename_i outcome _ _ pending
        have same := sameCalls_setFuture pending (.finished outcome)
        exact ⟨⟨same.operation, same.accepted, same.cancelled⟩, rfl, rfl, rfl, rfl, rfl⟩
      · exact ⟨.of_eq rfl, rfl, rfl, rfl, rfl, rfl⟩

/-- `_submit` and `aclose` do nothing, or note a call that is not in the queue yet. -/
theorem check_cases (s : SharedConnection ω ε ρ) (operation : Operation ω) (loop : Nat) :
    s.check operation loop = s ∨
      ∃ closed call, call.stage.accepted = false ∧
        s.check operation loop = { s with closed, calls := s.calls ++ [call] } := by
  unfold check
  split
  · exact .inl rfl
  · split
    · exact .inr ⟨_, _, rfl, rfl⟩
    · exact .inr ⟨_, _, rfl, rfl⟩

theorem put_cases (s : SharedConnection ω ε ρ) (i : Nat) :
    s.put i = s ∨
      ∃ call, s.calls[i]? = some call ∧ call.stage = .checked ∧
        s.put i = { s.setStage i .queued with queue := s.queue ++ [.call i] } := by
  unfold put
  split
  · rename_i own
    exact .inr ⟨_, own, rfl, rfl⟩
  · exact .inl rfl

theorem putSignal_cases (s : SharedConnection ω ε ρ) (i : Nat) :
    s.putSignal i = s ∨
      ∃ call, s.calls[i]? = some call ∧ call.stage = .received ∧
        s.putSignal i = { s.setStage i .signalled with queue := s.queue ++ [.shutdownSignal] } := by
  unfold putSignal
  split
  · rename_i own
    exact .inr ⟨_, own, rfl, rfl⟩
  · exact .inl rfl

/-- A call that is noted is not in the queue yet. -/
theorem accepted_append (call : ThreadCall ω ε ρ) (waiting : call.stage.accepted = false) (closed : Bool) (i : Nat) :
    ({ s with closed, calls := s.calls ++ [call] }).accepted i = s.accepted i := by
  simp only [accepted]
  by_cases inside : i < s.calls.length
  · rw [List.getElem?_append_left inside]
  · rw [List.getElem?_append_right (by omega), List.getElem?_singleton, List.getElem?_eq_none (by omega)]
    split
    · simpa using waiting
    · rfl

/-- The calls before it stay as they are. -/
theorem getElem?_append_of_accepted (call : ThreadCall ω ε ρ) (held : s.accepted i = true) :
    (s.calls ++ [call])[i]? = s.calls[i]? := by
  cases found : s.calls[i]? with
  | none =>
    rw [accepted, found] at held
    cases held
  | some own => rw [List.getElem?_append_left (List.getElem?_eq_some_iff.mp found).1, found]

theorem accepted_put (own : s.calls[i]? = some call) (j : Nat) :
    (s.setStage i .queued).accepted j = true ↔ s.accepted j = true ∨ j = i := by
  simp only [accepted, setStage, List.getElem?_modify]
  by_cases here : i = j
  · subst here
    simp [own, CallStage.accepted]
  · simp [here, Ne.symm here]

end SharedConnection

end PyAds
