import PyAds.AsyncWorker

/-! The worker executes the accepted calls in their order, one at a time, and
only leaves out calls that were cancelled before it looked at them; each outcome
goes to the future of its own call. -/
namespace PyAds.AsyncConnection
variable {ω ε ρ : Type} {s t : AsyncConnection ω ε ρ}

/-! ## What a step leaves alone -/

@[simp] theorem length_setFuture (s : AsyncConnection ω ε ρ) (i : Nat) (future : FutureState ε ρ) :
    (s.setFuture i future).calls.length = s.calls.length :=
  List.length_modify ..

@[simp] theorem future?_setFuture (s : AsyncConnection ω ε ρ) (i j : Nat) (future : FutureState ε ρ) :
    (s.setFuture i future).future? j = if i = j then (s.future? j).map fun _ => future else s.future? j := by
  simp only [future?, setFuture, List.getElem?_modify]
  by_cases same : i = j
  · subst same
    simp [Function.comp_def]
  · simp [same]

/-- A cancelled future was pending; otherwise nothing changes. -/
theorem cancel_cases (s : AsyncConnection ω ε ρ) (i : Nat) :
    (s.future? i = some .pending ∧ s.cancel i = (s.setFuture i .cancelled).record (.cancelled i)) ∨
      s.cancel i = s := by
  unfold cancel
  split
  · rename_i pending
    exact .inl ⟨pending, rfl⟩
  · exact .inr rfl

theorem setOutcomeIfPending_cases (s : AsyncConnection ω ε ρ) (i : Nat) (outcome : Except ε ρ) :
    (s.future? i = some .pending ∧ s.setOutcomeIfPending i outcome = s.setFuture i (.finished outcome)) ∨
      (s.future? i ≠ some .pending ∧ s.setOutcomeIfPending i outcome = s) := by
  unfold setOutcomeIfPending
  split
  · rename_i pending
    exact .inl ⟨pending, rfl⟩
  · rename_i other
    exact .inr ⟨other, rfl⟩

theorem checkCancelled_cases (s : AsyncConnection ω ε ρ) (i : Nat) :
    (s.future? i = some .cancelled ∧ s.checkCancelled i = { s with worker := .idle }.record (.skipped i)) ∨
      s.checkCancelled i = { s with worker := .executing i }.record (.began i) := by
  unfold checkCancelled
  split
  · rename_i cancelled
    exact .inl ⟨cancelled, rfl⟩
  · exact .inr rfl

theorem checkCancelled_of_pending (pending : s.future? i = some .pending) :
    s.checkCancelled i = { s with worker := .executing i }.record (.began i) := by
  simp only [checkCancelled, pending]

theorem setOutcomeIfPending_of_pending (pending : s.future? i = some .pending) (outcome : Except ε ρ) :
    s.setOutcomeIfPending i outcome = s.setFuture i (.finished outcome) := by
  simp only [setOutcomeIfPending, pending]

/-! ## The order of execution -/

def skippedIds (events : List (CallEvent ε ρ)) : List Nat :=
  events.filterMap fun
    | .skipped i => some i
    | _ => none

theorem mem_skippedIds {events : List (CallEvent ε ρ)} : i ∈ skippedIds events ↔ .skipped i ∈ events := by
  simp only [skippedIds, List.mem_filterMap]
  constructor
  · rintro ⟨event, member, same⟩
    cases event <;> simp_all
  · intro member
    exact ⟨_, member, rfl⟩

def begunIds (events : List (CallEvent ε ρ)) : List Nat :=
  events.filterMap fun
    | .began i => some i
    | _ => none

def queuedIds (items : List QueueItem) : List Nat :=
  items.filterMap fun
    | .call i => some i
    | .shutdownSignal => none

/-- The calls that the worker still has to look at. -/
def waitingIds (s : AsyncConnection ω ε ρ) : List Nat :=
  match s.worker with
  | .dequeued i => i :: queuedIds s.queue
  | _ => queuedIds s.queue

theorem filter_ne_middle {first second : List Nat} (nodup : (first ++ i :: second).Nodup) :
    (first ++ i :: second).filter (· ≠ i) = first ++ second := by
  obtain ⟨_, tail, apart⟩ := List.nodup_append.mp nodup
  have before : first.filter (· ≠ i) = first :=
    List.filter_eq_self.mpr fun j member => decide_eq_true (apart j member i List.mem_cons_self)
  have after : second.filter (· ≠ i) = second := by
    refine List.filter_eq_self.mpr fun j member => decide_eq_true ?_
    rintro rfl
    exact (List.nodup_cons.mp tail).1 member
  rw [List.filter_append, List.filter_cons_of_neg (by simp), before, after]

/-- The accepted calls without those left out are the calls begun, followed by
those that are waiting. -/
structure Ordered (s : AsyncConnection ω ε ρ) : Prop where
  order : (List.range s.calls.length).filter (· ∉ skippedIds s.history) = begunIds s.history ++ s.waitingIds
  known : ∀ i ∈ skippedIds s.history, i < s.calls.length

theorem Ordered.congr (held : Ordered s) (calls : t.calls.length = s.calls.length)
    (skipped : skippedIds t.history = skippedIds s.history) (begun : begunIds t.history = begunIds s.history)
    (waiting : t.waitingIds = s.waitingIds) : Ordered t := by
  constructor
  · rw [calls, skipped, begun, waiting]
    exact held.order
  · rw [calls, skipped]
    exact held.known

theorem Ordered.cancel (held : Ordered s) (i : Nat) : Ordered (s.cancel i) := by
  rcases cancel_cases s i with ⟨_, cancelled⟩ | unchanged
  · rw [cancelled]
    exact held.congr (length_setFuture ..) (by simp [record, skippedIds, setFuture])
      (by simp [record, begunIds, setFuture]) rfl
  · rwa [unchanged]

theorem Ordered.enqueue (held : Ordered s) (operation : Operation ω) : Ordered (s.enqueue operation) := by
  have fresh : s.calls.length ∉ skippedIds s.history := fun member => Nat.lt_irrefl _ (held.known _ member)
  constructor
  · have waiting : (s.enqueue operation).waitingIds = s.waitingIds ++ [s.calls.length] := by
      unfold waitingIds AsyncConnection.enqueue
      cases s.worker <;> simp [queuedIds]
    rw [waiting, ← List.append_assoc]
    change (List.range (s.calls ++ [_]).length).filter (· ∉ skippedIds s.history) = _
    rw [List.length_append, List.length_singleton, List.range_succ, List.filter_append, held.order]
    simp [fresh, AsyncConnection.enqueue]
  · intro i member
    have before := held.known i member
    change i < (s.calls ++ [_]).length
    rw [List.length_append]
    omega

theorem Ordered.dequeue (held : Ordered s) (idle : s.worker = .idle) (next : s.queue = item :: rest) :
    Ordered ({ s with queue := rest }.dequeue item) := by
  cases item with
  | call i =>
    exact held.congr rfl (by simp [AsyncConnection.dequeue, record, skippedIds])
      (by simp [AsyncConnection.dequeue, record, begunIds])
      (by simp [AsyncConnection.dequeue, record, waitingIds, idle, next, queuedIds])
  | shutdownSignal =>
    exact held.congr rfl rfl rfl (by simp [AsyncConnection.dequeue, waitingIds, idle, next, queuedIds])

theorem Ordered.checkCancelled (held : Ordered s) (own : s.worker = .dequeued i) : Ordered (s.checkCancelled i) := by
  have waiting : s.waitingIds = i :: queuedIds s.queue := by simp [waitingIds, own]
  have order := held.order
  rw [waiting] at order
  rcases checkCancelled_cases s i with ⟨_, skipped⟩ | begun
  · rw [skipped]
    have nodup : (begunIds s.history ++ i :: queuedIds s.queue).Nodup := by
      rw [← order]
      exact List.nodup_range.filter _
    have accepted : i ∈ (List.range s.calls.length).filter (· ∉ skippedIds s.history) := by
      rw [order]
      simp
    constructor
    · have ids : skippedIds (s.history ++ [CallEvent.skipped i]) = skippedIds s.history ++ [i] :=
        by simp [skippedIds]
      change (List.range s.calls.length).filter (· ∉ skippedIds (s.history ++ [CallEvent.skipped i])) =
        begunIds (s.history ++ [CallEvent.skipped i]) ++ queuedIds s.queue
      have narrowed : (List.range s.calls.length).filter (· ∉ skippedIds s.history ++ [i]) =
          ((List.range s.calls.length).filter (· ∉ skippedIds s.history)).filter (· ≠ i) := by
        rw [List.filter_filter]
        congr 1
        funext j
        simp [and_comm]
      rw [ids, narrowed, order, filter_ne_middle nodup]
      simp [begunIds]
    · intro j member
      have either : j ∈ skippedIds s.history ∨ j = i := by simpa [record, skippedIds] using member
      rcases either with before | rfl
      · exact held.known j before
      · exact List.mem_range.mp (List.mem_filter.mp accepted).1
  · rw [begun]
    refine ⟨?_, ?_⟩
    · change (List.range s.calls.length).filter (· ∉ skippedIds (s.history ++ [CallEvent.began i])) =
        begunIds (s.history ++ [CallEvent.began i]) ++ queuedIds s.queue
      simpa [skippedIds, begunIds] using order
    · intro j member
      exact held.known j (by simpa [record, skippedIds] using member)

theorem Ordered.step (held : Ordered s) (step : Step s t) : Ordered t := by
  cases step with
  | submit op =>
    unfold submit
    split
    · exact held
    · exact held.enqueue _
  | cancel own => exact held.cancel _
  | aclose =>
    unfold aclose
    split
    · exact held.congr rfl rfl rfl rfl
    · exact (held.enqueue .closeConnection).congr rfl rfl rfl rfl
  | cancelClosing own => exact (held.cancel _).congr rfl rfl rfl rfl
  | cancelJoining own => exact held.congr rfl rfl rfl rfl
  | shutDown own done =>
    refine held.congr rfl rfl rfl ?_
    cases worker : s.worker <;> simp [waitingIds, worker, queuedIds]
  | closeRaised own done => exact held.congr rfl rfl rfl rfl
  | joined own stopped => exact held.congr rfl rfl rfl rfl
  | dequeue idle next => exact held.dequeue idle next
  | checkCancelled own => exact held.checkCancelled own
  | execute own outcome =>
    exact held.congr rfl (by simp [record, skippedIds]) (by simp [record, begunIds])
      (by simp [record, waitingIds, own])
  | callSoon own => exact held.congr rfl rfl rfl (by simp [waitingIds, own])
  | @callback i outcome rest _ next =>
    rcases setOutcomeIfPending_cases { s with callbacks := rest } i outcome with ⟨_, set⟩ | ⟨_, unchanged⟩
    · rw [set]
      exact held.congr (length_setFuture ..) rfl rfl rfl
    · rw [unchanged]
      exact held.congr rfl rfl rfl rfl

theorem ordered_of_reaches (reached : Reaches (fresh ω ε ρ) s) : Ordered s := by
  induction reached with
  | refl => exact ⟨rfl, by simp [fresh, skippedIds]⟩
  | tail _ step held => exact held.step step

/-! ## One call at a time -/

/-- Each call that begins has ended before the next one begins; the call that
is executing, if there is one. -/
inductive Serial : List (CallEvent ε ρ) → Option Nat → Prop
  | start : Serial [] none
  | began (before : Serial events none) (i : Nat) : Serial (events ++ [.began i]) (some i)
  | ended (before : Serial events (some i)) (outcome : Except ε ρ) : Serial (events ++ [.ended i outcome]) none
  | cancelled (before : Serial events current) (i : Nat) : Serial (events ++ [.cancelled i]) current
  | dequeued (before : Serial events current) (i : Nat) : Serial (events ++ [.dequeued i]) current
  | skipped (before : Serial events current) (i : Nat) : Serial (events ++ [.skipped i]) current

/-- The call in whose function the worker is. -/
def executing (s : AsyncConnection ω ε ρ) : Option Nat :=
  match s.worker with
  | .executing i => some i
  | _ => none

def endedCalls (events : List (CallEvent ε ρ)) : List (Nat × Except ε ρ) :=
  events.filterMap fun
    | .ended i outcome => some (i, outcome)
    | _ => none

@[simp] theorem mem_endedCalls {events : List (CallEvent ε ρ)} :
    (i, outcome) ∈ endedCalls events ↔ .ended i outcome ∈ events := by
  simp only [endedCalls, List.mem_filterMap]
  constructor
  · rintro ⟨event, member, same⟩
    cases event <;> simp_all
  · intro member
    exact ⟨_, member, rfl⟩

theorem Serial.begunIds_eq {events : List (CallEvent ε ρ)} (serial : Serial events current) :
    begunIds events = (endedCalls events).map Prod.fst ++ current.toList := by
  induction serial with
  | start => rfl
  | began before i ih => simpa [begunIds, endedCalls] using ih
  | ended before outcome ih => simpa [begunIds, endedCalls] using ih
  | cancelled before i ih => simpa [begunIds, endedCalls] using ih
  | dequeued before i ih => simpa [begunIds, endedCalls] using ih
  | skipped before i ih => simpa [begunIds, endedCalls] using ih

theorem serial_cancel (serial : Serial s.history s.executing) (i : Nat) :
    Serial (s.cancel i).history (s.cancel i).executing := by
  rcases cancel_cases s i with ⟨_, cancelled⟩ | unchanged
  · rw [cancelled]
    exact serial.cancelled i
  · rwa [unchanged]

theorem serial_step (serial : Serial s.history s.executing) (step : Step s t) : Serial t.history t.executing := by
  cases step with
  | submit op =>
    unfold submit
    split
    · exact serial
    · exact serial
  | cancel own => exact serial_cancel serial _
  | aclose =>
    unfold aclose
    split
    · exact serial
    · exact serial
  | cancelClosing own => exact serial_cancel serial _
  | cancelJoining own => exact serial
  | shutDown own done => exact serial
  | closeRaised own done => exact serial
  | joined own stopped => exact serial
  | @dequeue item rest _ idle next =>
    have none_ : s.executing = none := by simp [executing, idle]
    rw [none_] at serial
    cases item with
    | call i => exact serial.dequeued i
    | shutdownSignal => exact serial
  | @checkCancelled _ i own =>
    have none_ : s.executing = none := by simp [executing, own]
    rw [none_] at serial
    rcases checkCancelled_cases s i with ⟨_, skipped⟩ | begun
    · rw [skipped]
      exact serial.skipped i
    · rw [begun]
      exact serial.began i
  | @execute _ i own outcome =>
    have some_ : s.executing = some i := by simp [executing, own]
    rw [some_] at serial
    exact serial.ended outcome
  | callSoon own =>
    have none_ : s.executing = none := by simp [executing, own]
    rw [none_] at serial
    exact serial
  | @callback i outcome rest next =>
    rcases setOutcomeIfPending_cases { s with callbacks := rest } i outcome with ⟨_, set⟩ | ⟨_, unchanged⟩
    · rw [set]
      exact serial
    · rw [unchanged]
      exact serial

theorem serial_of_reaches (reached : Reaches (fresh ω ε ρ) s) : Serial s.history s.executing := by
  induction reached with
  | refl => exact .start
  | tail _ step serial => exact serial_step serial step

/-! ## Futures -/

/-- A future that is done stays as it is. -/
theorem future?_step (step : Step s t) (done : s.future? i = some future) (settled : future ≠ .pending) :
    t.future? i = some future := by
  have other (j : Nat) (pending : s.future? j = some .pending) : j ≠ i := by
    rintro rfl
    rw [done] at pending
    exact settled (Option.some.inj pending)
  have enqueued (operation : Operation ω) : (s.enqueue operation).future? i = some future := by
    obtain ⟨call, found, rfl⟩ := Option.map_eq_some_iff.mp done
    have inside : i < s.calls.length := (List.getElem?_eq_some_iff.mp found).1
    simp [AsyncConnection.enqueue, future?, List.getElem?_append_left inside, found]
  have cancelled (j : Nat) : (s.cancel j).future? i = some future := by
    rcases cancel_cases s j with ⟨pending, same⟩ | same
    · rw [same]
      change (s.setFuture j .cancelled).future? i = _
      rw [future?_setFuture, if_neg (other j pending), done]
    · rw [same, done]
  cases step with
  | submit op =>
    unfold submit
    split
    · exact done
    · exact enqueued _
  | cancel own => exact cancelled _
  | aclose =>
    unfold aclose
    split
    · exact done
    · exact enqueued _
  | cancelClosing own => exact cancelled _
  | dequeue idle next =>
    rename_i item rest
    cases item <;> exact done
  | @checkCancelled _ j own =>
    rcases checkCancelled_cases s j with ⟨_, same⟩ | same <;> rw [same] <;> exact done
  | @callback j outcome rest _ next =>
    rcases setOutcomeIfPending_cases { s with callbacks := rest } j outcome with ⟨pending, same⟩ | ⟨_, same⟩
    · rw [same, future?_setFuture, if_neg (other j pending)]
      exact done
    · rw [same]
      exact done
  | _ => exact done

theorem future?_reaches (reached : Reaches s t) (done : s.future? i = some future) (settled : future ≠ .pending) :
    t.future? i = some future := by
  induction reached with
  | refl => exact done
  | tail _ step held => exact future?_step step held settled

/-- The event happens before any event of the other kind. -/
def Precedes (events : List (CallEvent ε ρ)) (first second : CallEvent ε ρ) : Prop :=
  ∀ k : Nat, events[k]? = some second → ∃ j < k, events[j]? = some first

theorem Precedes.append {events : List (CallEvent ε ρ)} (before : Precedes events first second)
    (here : event = second → first ∈ events) : Precedes (events ++ [event]) first second := by
  intro k found
  by_cases inside : k < events.length
  · rw [List.getElem?_append_left inside] at found
    obtain ⟨j, below, held⟩ := before k found
    exact ⟨j, below, by rw [List.getElem?_append_left (Nat.lt_trans below inside), held]⟩
  · have last : k = events.length := by
      have bound := (List.getElem?_eq_some_iff.mp found).1
      rw [List.length_append, List.length_singleton] at bound
      omega
    subst last
    rw [List.getElem?_concat_length] at found
    obtain ⟨j, bound, held⟩ := List.getElem_of_mem (here (Option.some.inj found))
    exact ⟨j, bound, by rw [List.getElem?_append_left bound, List.getElem?_eq_getElem bound, held]⟩

/-- The cancelled futures are on record, and a call is only left out after its
future was cancelled. -/
structure Accounted (s : AsyncConnection ω ε ρ) : Prop where
  cancelled : ∀ i, s.future? i = some .cancelled → .cancelled i ∈ s.history
  removed : ∀ i, Precedes s.history (.cancelled i) (.skipped i)

/-- A step that records an event other than an omission. -/
theorem Accounted.extend (held : Accounted s)
    (futures : ∀ i, t.future? i = some .cancelled → s.future? i = some .cancelled)
    (history : t.history = s.history ++ [event]) (other : ∀ i, event ≠ .skipped i) : Accounted t := by
  constructor
  · intro i cancelled
    rw [history]
    exact List.mem_append_left _ (held.cancelled i (futures i cancelled))
  · intro i
    rw [history]
    exact (held.removed i).append fun same => absurd same (other i)

theorem Accounted.congr (held : Accounted s)
    (futures : ∀ i, t.future? i = some .cancelled → s.future? i = some .cancelled)
    (history : t.history = s.history) : Accounted t := by
  constructor
  · intro i cancelled
    rw [history]
    exact held.cancelled i (futures i cancelled)
  · rw [history]
    exact held.removed

theorem future?_enqueue (operation : Operation ω) (held : (s.enqueue operation).future? i = some future) :
    s.future? i = some future ∨ i = s.calls.length ∧ future = .pending := by
  simp only [future?, AsyncConnection.enqueue] at held ⊢
  by_cases inside : i < s.calls.length
  · rw [List.getElem?_append_left inside] at held
    exact .inl held
  · right
    obtain ⟨call, found, rfl⟩ := Option.map_eq_some_iff.mp held
    have bound := (List.getElem?_eq_some_iff.mp found).1
    rw [List.length_append, List.length_singleton] at bound
    have last : i = s.calls.length := by omega
    subst last
    rw [List.getElem?_concat_length] at found
    cases found
    exact ⟨rfl, rfl⟩

theorem Accounted.enqueue (held : Accounted s) (operation : Operation ω) : Accounted (s.enqueue operation) := by
  refine held.congr (fun i cancelled => ?_) rfl
  rcases future?_enqueue operation cancelled with before | ⟨_, pending⟩
  · exact before
  · cases pending

theorem Accounted.cancel (held : Accounted s) (i : Nat) : Accounted (s.cancel i) := by
  rcases cancel_cases s i with ⟨_, same⟩ | same
  · rw [same]
    constructor
    · intro j cancelled
      change (s.setFuture i .cancelled).future? j = _ at cancelled
      rw [future?_setFuture] at cancelled
      by_cases here : i = j
      · subst here
        simp [AsyncConnection.record]
      · rw [if_neg here] at cancelled
        exact List.mem_append_left _ (held.cancelled j cancelled)
    · intro j
      exact (held.removed j).append (fun same => by cases same)
  · rwa [same]

theorem Accounted.step (held : Accounted s) (step : Step s t) : Accounted t := by
  cases step with
  | submit op =>
    unfold submit
    split
    · exact held
    · exact held.enqueue _
  | cancel own => exact held.cancel _
  | aclose =>
    unfold aclose
    split
    · exact held.congr (fun _ cancelled => cancelled) rfl
    · exact (held.enqueue .closeConnection).congr (fun _ cancelled => cancelled) rfl
  | cancelClosing own => exact (held.cancel _).congr (fun _ cancelled => cancelled) rfl
  | @dequeue item rest _ idle next =>
    cases item with
    | call i => exact held.extend (fun _ cancelled => cancelled) rfl (by simp)
    | shutdownSignal => exact held.congr (fun _ cancelled => cancelled) rfl
  | @checkCancelled _ i own =>
    rcases checkCancelled_cases s i with ⟨cancelled, same⟩ | same
    · rw [same]
      constructor
      · intro j cancelled
        exact List.mem_append_left _ (held.cancelled j cancelled)
      · intro j
        apply (held.removed j).append
        intro same
        cases same
        exact held.cancelled i cancelled
    · rw [same]
      exact held.extend (fun _ cancelled => cancelled) rfl (by simp)
  | @execute _ i own outcome =>
    exact held.extend (fun _ cancelled => cancelled) rfl (by simp)
  | @callback i outcome rest _ next =>
    rcases setOutcomeIfPending_cases { s with callbacks := rest } i outcome with ⟨_, same⟩ | ⟨_, same⟩
    · rw [same]
      refine held.congr (fun j cancelled => ?_) rfl
      rw [future?_setFuture] at cancelled
      by_cases here : i = j
      · rw [if_pos here] at cancelled
        obtain ⟨_, _, finished⟩ := Option.map_eq_some_iff.mp cancelled
        cases finished
      · rw [if_neg here] at cancelled
        exact cancelled
    · rw [same]
      exact held.congr (fun _ cancelled => cancelled) rfl
  | _ => exact held.congr (fun _ cancelled => cancelled) rfl

theorem accounted_of_reaches (reached : Reaches (fresh ω ε ρ) s) : Accounted s := by
  induction reached with
  | refl => exact ⟨fun i cancelled => by simp [fresh, future?] at cancelled,
    fun i k found => by simp [fresh] at found⟩
  | tail _ step held => exact held.step step

end PyAds.AsyncConnection
