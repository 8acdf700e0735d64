import PyAds.AsyncWorkerOrder

/-! The outcome of a call and the end of a connection. `aclose` queues the call
of `Connection.close` behind all accepted calls, waits for its outcome, and only
then sends the signal that ends the worker. -/
namespace PyAds.AsyncConnection
variable {ω ε ρ : Type} {s t : AsyncConnection ω ε ρ}

/-! ## Outcomes -/

/-- The outcomes on their way to the futures. -/
def owed (s : AsyncConnection ω ε ρ) : List (Nat × Except ε ρ) :=
  match s.worker with
  | .executed i outcome => (i, outcome) :: s.callbacks
  | _ => s.callbacks

/-- Futures hold outcomes of their own calls, and each outcome is on its way to
the future of its call unless the future is done already. -/
structure Delivered (s : AsyncConnection ω ε ρ) : Prop where
  own : ∀ i outcome, s.future? i = some (.finished outcome) → .ended i outcome ∈ s.history
  sent : ∀ i outcome, (i, outcome) ∈ s.owed → .ended i outcome ∈ s.history
  received : ∀ i outcome, .ended i outcome ∈ s.history →
    (i, outcome) ∈ s.owed ∨ s.future? i = some (.finished outcome) ∨ s.future? i = some .cancelled

/-- A call that has ended was accepted. -/
theorem lt_of_ended (ordered : Ordered s) (serial : Serial s.history s.executing)
    (ended : .ended i outcome ∈ s.history) : i < s.calls.length := by
  have begun : i ∈ begunIds s.history := by
    rw [serial.begunIds_eq]
    exact List.mem_append_left _ (List.mem_map.mpr ⟨_, mem_endedCalls.mpr ended, rfl⟩)
  have accepted : i ∈ (List.range s.calls.length).filter (· ∉ skippedIds s.history) := by
    rw [ordered.order]
    exact List.mem_append_left _ begun
  exact List.mem_range.mp (List.mem_filter.mp accepted).1

/-- A call is executed at most once. -/
theorem nodup_begunIds (ordered : Ordered s) : (begunIds s.history).Nodup := by
  have nodup : (begunIds s.history ++ s.waitingIds).Nodup := by
    rw [← ordered.order]
    exact List.nodup_range.filter _
  exact (List.nodup_append.mp nodup).1

theorem ended_unique (ordered : Ordered s) (serial : Serial s.history s.executing)
    (first : .ended i outcome ∈ s.history) (second : .ended i other ∈ s.history) : outcome = other := by
  have nodup := nodup_begunIds ordered
  rw [serial.begunIds_eq] at nodup
  have ended := (List.nodup_append.mp nodup).1
  have same := List.inj_on_of_nodup_map ended (mem_endedCalls.mpr first) (mem_endedCalls.mpr second) rfl
  exact (Prod.mk.inj same).2

theorem Delivered.congr (held : Delivered s) (step : Step s t)
    (ended : ∀ i outcome, .ended i outcome ∈ t.history ↔ .ended i outcome ∈ s.history)
    (owed : ∀ i outcome, (i, outcome) ∈ t.owed ↔ (i, outcome) ∈ s.owed)
    (finished : ∀ i outcome, t.future? i = some (.finished outcome) → s.future? i = some (.finished outcome)) :
    Delivered t where
  own i outcome done := (ended i outcome).mpr (held.own i outcome (finished i outcome done))
  sent i outcome member := (ended i outcome).mpr (held.sent i outcome ((owed i outcome).mp member))
  received i outcome member := by
    rcases held.received i outcome ((ended i outcome).mp member) with waiting | done | cancelled
    · exact .inl ((owed i outcome).mpr waiting)
    · exact .inr (.inl (future?_step step done (by simp)))
    · exact .inr (.inr (future?_step step cancelled (by simp)))

theorem ended_cancel : .ended i outcome ∈ (s.cancel j).history ↔ .ended i outcome ∈ s.history := by
  rcases cancel_cases s j with ⟨_, same⟩ | same
  · rw [same]
    simp [record, setFuture]
  · rw [same]

theorem owed_cancel (s : AsyncConnection ω ε ρ) (i : Nat) : (s.cancel i).owed = s.owed := by
  rcases cancel_cases s i with ⟨_, same⟩ | same
  · rw [same]
    rfl
  · rw [same]

theorem finished_cancel (done : (s.cancel j).future? i = some (.finished outcome)) :
    s.future? i = some (.finished outcome) := by
  rcases cancel_cases s j with ⟨_, same⟩ | same
  · rw [same] at done
    change (s.setFuture j .cancelled).future? i = _ at done
    rw [future?_setFuture] at done
    by_cases here : j = i
    · rw [if_pos here] at done
      obtain ⟨_, _, cancelled⟩ := Option.map_eq_some_iff.mp done
      cases cancelled
    · rwa [if_neg here] at done
  · rwa [same] at done

theorem finished_enqueue (operation : Operation ω)
    (done : (s.enqueue operation).future? i = some (.finished outcome)) :
    s.future? i = some (.finished outcome) := by
  rcases future?_enqueue operation done with before | ⟨_, pending⟩
  · exact before
  · cases pending

/-- An outcome reaches its future, unless this is cancelled or has the outcome already. -/
theorem settled_setOutcomeIfPending (accepted : i < s.calls.length)
    (only : ∀ other, s.future? i = some (.finished other) → other = outcome) :
    (s.setOutcomeIfPending i outcome).future? i = some (.finished outcome) ∨
      (s.setOutcomeIfPending i outcome).future? i = some .cancelled := by
  rcases setOutcomeIfPending_cases s i outcome with ⟨pending, same⟩ | ⟨notPending, same⟩
  · left
    rw [same, future?_setFuture, if_pos rfl, pending]
    rfl
  · rw [same]
    cases future : s.future? i with
    | none =>
      simp only [future?, Option.map_eq_none_iff, List.getElem?_eq_none_iff] at future
      omega
    | some state =>
      cases state with
      | pending => exact absurd future notPending
      | cancelled => exact .inr rfl
      | finished first =>
        rw [only first future]
        exact .inl rfl

theorem finished_setOutcomeIfPending (done : (s.setOutcomeIfPending i outcome).future? j = some (.finished other)) :
    (j, other) = (i, outcome) ∨ s.future? j = some (.finished other) := by
  rcases setOutcomeIfPending_cases s i outcome with ⟨pending, same⟩ | ⟨_, same⟩
  · rw [same, future?_setFuture] at done
    by_cases here : i = j
    · subst here
      rw [if_pos rfl, pending] at done
      cases done
      exact .inl rfl
    · rw [if_neg here] at done
      exact .inr done
  · rw [same] at done
    exact .inr done

/-- Setting a future neither records anything nor sends anything. -/
theorem setOutcomeIfPending_frame (s : AsyncConnection ω ε ρ) (i : Nat) (outcome : Except ε ρ) :
    (s.setOutcomeIfPending i outcome).history = s.history ∧ (s.setOutcomeIfPending i outcome).owed = s.owed := by
  rcases setOutcomeIfPending_cases s i outcome with ⟨_, same⟩ | ⟨_, same⟩ <;> rw [same] <;> exact ⟨rfl, rfl⟩

/-- The callback of an outcome that the worker has sent. -/
theorem Delivered.callback (held : Delivered s) (ordered : Ordered s) (serial : Serial s.history s.executing)
    (next : s.callbacks = (i, outcome) :: rest) :
    Delivered ({ s with callbacks := rest }.setOutcomeIfPending i outcome) := by
  have step : Step s ({ s with callbacks := rest }.setOutcomeIfPending i outcome) := .callback next
  obtain ⟨history, sent⟩ := setOutcomeIfPending_frame { s with callbacks := rest } i outcome
  have owed (j : Nat) (other : Except ε ρ) :
      (j, other) ∈ s.owed ↔ (j, other) = (i, outcome) ∨ (j, other) ∈ ({ s with callbacks := rest }).owed := by
    simp only [AsyncConnection.owed, next]
    split
    · simp only [List.mem_cons]
      exact or_left_comm
    · exact List.mem_cons
  have ended : .ended i outcome ∈ s.history := held.sent i outcome ((owed i outcome).mpr (.inl rfl))
  have accepted : i < s.calls.length := lt_of_ended ordered serial ended
  constructor
  · intro j other done
    rw [history]
    rcases finished_setOutcomeIfPending done with popped | before
    · obtain ⟨rfl, rfl⟩ := Prod.mk.inj popped
      exact ended
    · exact held.own j other before
  · intro j other member
    rw [sent] at member
    rw [history]
    exact held.sent j other ((owed j other).mpr (.inr member))
  · intro j other member
    rw [history] at member
    rw [sent]
    rcases held.received j other member with waiting | done | cancelled
    · rcases (owed j other).mp waiting with popped | waiting
      · obtain ⟨rfl, rfl⟩ := Prod.mk.inj popped
        exact .inr (settled_setOutcomeIfPending accepted fun first done =>
          ended_unique ordered serial (held.own j first done) ended)
      · exact .inl waiting
    · exact .inr (.inl (future?_step step done (by simp)))
    · exact .inr (.inr (future?_step step cancelled (by simp)))

theorem Delivered.step (held : Delivered s) (ordered : Ordered s) (serial : Serial s.history s.executing)
    (step : Step s t) : Delivered t := by
  have whole := step
  cases step with
  | submit op =>
    unfold submit at whole ⊢
    split
    · exact held
    · rename_i opened
      rw [if_neg opened] at whole
      exact held.congr whole (fun _ _ => Iff.rfl) (fun _ _ => Iff.rfl) (fun _ _ => finished_enqueue _)
  | cancel own =>
    exact held.congr whole (fun _ _ => ended_cancel) (fun _ _ => by rw [owed_cancel]) (fun _ _ => finished_cancel)
  | aclose =>
    unfold aclose at whole ⊢
    split
    · exact ⟨held.own, held.sent, held.received⟩
    · rename_i opened
      rw [if_neg opened] at whole
      exact held.congr whole (fun _ _ => Iff.rfl) (fun _ _ => Iff.rfl)
        (fun _ _ done => finished_enqueue .closeConnection done)
  | cancelClosing own =>
    exact held.congr whole (fun _ _ => ended_cancel) (fun i outcome => by
      change (i, outcome) ∈ (s.cancel _).owed ↔ _
      rw [owed_cancel]) (fun _ _ done => finished_cancel done)
  | @dequeue item rest _ idle next =>
    cases item with
    | call i =>
      exact held.congr whole (fun _ _ => by simp [AsyncConnection.dequeue, record])
        (fun _ _ => by simp [owed, AsyncConnection.dequeue, record, idle]) (fun _ _ done => done)
    | shutdownSignal =>
      exact held.congr whole (fun _ _ => Iff.rfl) (fun _ _ => by simp [owed, AsyncConnection.dequeue, idle])
        (fun _ _ done => done)
  | @checkCancelled _ i own =>
    rcases checkCancelled_cases s i with ⟨_, same⟩ | same
    · rw [same] at whole ⊢
      exact held.congr whole (fun _ _ => by simp [record]) (fun _ _ => by simp [owed, record, own])
        (fun _ _ done => done)
    · rw [same] at whole ⊢
      exact held.congr whole (fun _ _ => by simp [record]) (fun _ _ => by simp [owed, record, own])
        (fun _ _ done => done)
  | @execute _ i own outcome =>
    constructor
    · exact fun j other done => List.mem_append_left _ (held.own j other done)
    · intro j other member
      have either : (j, other) = (i, outcome) ∨ (j, other) ∈ s.owed := by
        simpa [owed, record, own] using member
      rcases either with new | before
      · cases new
        simp [record]
      · exact List.mem_append_left _ (held.sent j other before)
    · intro j other member
      rcases List.mem_append.mp member with before | new
      · rcases held.received j other before with waiting | done
        · left
          simp only [owed, record, own] at waiting ⊢
          exact List.mem_cons_of_mem _ waiting
        · exact .inr done
      · left
        cases List.mem_singleton.mp new
        simp [owed, record]
  | callSoon own =>
    exact held.congr whole (fun _ _ => Iff.rfl) (fun _ _ => by simp [owed, own, or_comm]) (fun _ _ done => done)
  | callback next => exact held.callback ordered serial next
  | _ => exact ⟨held.own, held.sent, held.received⟩

theorem delivered_of_reaches (reached : Reaches (fresh ω ε ρ) s) : Delivered s := by
  induction reached with
  | refl => exact ⟨by simp [fresh, future?], by simp [fresh, owed], by simp [fresh]⟩
  | tail reached step held => exact held.step (ordered_of_reaches reached) (serial_of_reaches reached) step

/-! ## Closing -/

def operation? (s : AsyncConnection ω ε ρ) (i : Nat) : Option (Operation ω) := s.calls[i]?.map (·.operation)

@[simp] theorem operation?_setFuture (s : AsyncConnection ω ε ρ) (i j : Nat) (future : FutureState ε ρ) :
    (s.setFuture i future).operation? j = s.operation? j := by
  simp only [operation?, setFuture, List.getElem?_modify]
  by_cases same : i = j
  · subst same
    simp [Function.comp_def]
  · simp [same]

/-- What a closing connection has done so far. The call of `close` is the last
one that was accepted; the signal is sent after its outcome, and joining ends
after the worker. -/
structure ClosingState (s : AsyncConnection ω ε ρ) : Prop where
  marked : s.closings ≠ [] ∨ .shutdownSignal ∈ s.queue ∨ s.worker = .stopped → s.closed = true
  last : s.closed = true → s.operation? (s.calls.length - 1) = some .closeConnection
  awaiting : ∀ i, .awaiting i ∈ s.closings → i + 1 = s.calls.length
  ended : .joining ∈ s.closings ∨ .closed ∈ s.closings ∨ .shutdownSignal ∈ s.queue ∨ s.worker = .stopped →
    ∃ value, s.future? (s.calls.length - 1) = some (.finished (.ok value))
  joined : .closed ∈ s.closings → s.worker = .stopped

/-- A step that neither accepts a call nor takes the end further. -/
theorem ClosingState.frame (held : ClosingState s) (step : Step s t) (closed : t.closed = s.closed)
    (length : t.calls.length = s.calls.length) (operations : ∀ i, t.operation? i = s.operation? i)
    (nonempty : t.closings ≠ [] → s.closings ≠ [])
    (closings : ∀ closing ∈ t.closings, closing ∈ s.closings ∨ closing = .raised)
    (queue : .shutdownSignal ∈ t.queue → .shutdownSignal ∈ s.queue)
    (worker : t.worker = .stopped ↔ s.worker = .stopped) : ClosingState t := by
  have among (closing : Closing) (other : closing ≠ .raised) (member : closing ∈ t.closings) :
      closing ∈ s.closings := (closings closing member).resolve_right other
  constructor
  · intro some_
    rw [closed]
    apply held.marked
    rcases some_ with closing | signal | stopped
    · exact .inl (nonempty closing)
    · exact .inr (.inl (queue signal))
    · exact .inr (.inr (worker.mp stopped))
  · rw [closed, length, operations]
    exact held.last
  · intro i member
    rw [length]
    exact held.awaiting i (among _ (by simp) member)
  · intro some_
    rw [length]
    have before : .joining ∈ s.closings ∨ .closed ∈ s.closings ∨ .shutdownSignal ∈ s.queue ∨
      s.worker = .stopped := by
      rcases some_ with joining | done | signal | stopped
      · exact .inl (among _ (by simp) joining)
      · exact .inr (.inl (among _ (by simp) done))
      · exact .inr (.inr (.inl (queue signal)))
      · exact .inr (.inr (.inr (worker.mp stopped)))
    obtain ⟨value, finished⟩ := held.ended before
    exact ⟨value, future?_step step finished (by simp)⟩
  · intro member
    exact worker.mpr (held.joined (among _ (by simp) member))

/-- A step of the worker with a call. -/
theorem ClosingState.working (held : ClosingState s) (step : Step s t) (closed : t.closed = s.closed)
    (calls : t.calls = s.calls) (closings : t.closings = s.closings)
    (queue : .shutdownSignal ∈ t.queue → .shutdownSignal ∈ s.queue)
    (before : s.worker ≠ .stopped) (after : t.worker ≠ .stopped) : ClosingState t := by
  refine held.frame step closed (by rw [calls]) (fun i => ?_) (by rw [closings]; exact id) ?_ queue
    (iff_of_false after before)
  · rw [operation?, operation?, calls]
  · rw [closings]
    exact fun _ => .inl

theorem mem_set_cases {values : List α} (member : value ∈ values.set k new) : value ∈ values ∨ value = new :=
  (List.mem_or_eq_of_mem_set member)

theorem set_ne_nil {values : List α} (nonempty : values.set k new ≠ []) : values ≠ [] := by
  rintro rfl
  exact nonempty rfl

/-- Cancelling a future touches nothing but the future. -/
theorem cancel_frame (s : AsyncConnection ω ε ρ) (i : Nat) :
    (s.cancel i).closed = s.closed ∧ (s.cancel i).calls.length = s.calls.length ∧
      (∀ j, (s.cancel i).operation? j = s.operation? j) ∧ (s.cancel i).closings = s.closings ∧
      (s.cancel i).queue = s.queue ∧ (s.cancel i).worker = s.worker := by
  rcases cancel_cases s i with ⟨_, same⟩ | same
  · rw [same]
    exact ⟨rfl, length_setFuture .., fun j => operation?_setFuture s i j _, rfl, rfl, rfl⟩
  · rw [same]
    exact ⟨rfl, rfl, fun _ => rfl, rfl, rfl, rfl⟩

theorem operation?_enqueue_last (s : AsyncConnection ω ε ρ) (operation : Operation ω) :
    (s.enqueue operation).operation? s.calls.length = some operation := by
  simp [operation?, enqueue]

/-- A call is accepted while the connection is open. -/
theorem ClosingState.submit (held : ClosingState s) (opened : s.closed = false) (op : ω) :
    ClosingState (s.enqueue (.client op)) := by
  have idle : ¬ (s.closings ≠ [] ∨ .shutdownSignal ∈ s.queue ∨ s.worker = .stopped) := by
    intro some_
    rw [held.marked some_] at opened
    cases opened
  have none_ : s.closings = [] := by_contra fun some_ => idle (.inl some_)
  have noSignal (signal : .shutdownSignal ∈ (s.enqueue (.client op)).queue) : False := by
    rcases List.mem_append.mp signal with before | new
    · exact idle (.inr (.inl before))
    · cases List.mem_singleton.mp new
  constructor
  · rintro (some_ | signal | stopped)
    · exact absurd none_ some_
    · exact (noSignal signal).elim
    · exact absurd (.inr (.inr stopped)) idle
  · intro closed
    rw [show (s.enqueue (.client op)).closed = s.closed from rfl, opened] at closed
    cases closed
  · intro i member
    rw [show (s.enqueue (.client op)).closings = [] from none_] at member
    cases member
  · rintro (member | member | signal | stopped)
    · rw [show (s.enqueue (.client op)).closings = [] from none_] at member
      cases member
    · rw [show (s.enqueue (.client op)).closings = [] from none_] at member
      cases member
    · exact (noSignal signal).elim
    · exact absurd (.inr (.inr stopped)) idle
  · intro member
    rw [show (s.enqueue (.client op)).closings = [] from none_] at member
    cases member

/-- `aclose` accepts the last call. -/
theorem ClosingState.aclose (held : ClosingState s) : ClosingState s.aclose := by
  unfold AsyncConnection.aclose
  split
  · rename_i closed
    have only (closing : Closing) (other : closing ≠ .foundClosed)
        (member : closing ∈ s.closings ++ [.foundClosed]) : closing ∈ s.closings := by
      rcases List.mem_append.mp member with before | new
      · exact before
      · exact absurd (List.mem_singleton.mp new) other
    constructor
    · exact fun _ => closed
    · exact held.last
    · exact fun i member => held.awaiting i (only _ (by simp) member)
    · rintro (member | member | signal | stopped)
      · exact held.ended (.inl (only _ (by simp) member))
      · exact held.ended (.inr (.inl (only _ (by simp) member)))
      · exact held.ended (.inr (.inr (.inl signal)))
      · exact held.ended (.inr (.inr (.inr stopped)))
    · exact fun member => held.joined (only _ (by simp) member)
  · rename_i opened
    have idle : ¬ (s.closings ≠ [] ∨ .shutdownSignal ∈ s.queue ∨ s.worker = .stopped) :=
      fun some_ => opened (held.marked some_)
    have none_ : s.closings = [] := by_contra fun some_ => idle (.inl some_)
    have only (closing : Closing) (member : closing ∈ s.closings ++ [.awaiting s.calls.length]) :
        closing = .awaiting s.calls.length := by
      rw [none_] at member
      exact List.mem_singleton.mp member
    constructor
    · exact fun _ => rfl
    · intro _
      change (s.enqueue .closeConnection).operation? ((s.calls ++ [_]).length - 1) = _
      rw [List.length_append, List.length_singleton, Nat.add_sub_cancel]
      exact operation?_enqueue_last s .closeConnection
    · intro i member
      cases only _ member
      change s.calls.length + 1 = (s.calls ++ [_]).length
      rw [List.length_append, List.length_singleton]
    · rintro (member | member | signal | stopped)
      · cases only _ member
      · cases only _ member
      · rcases List.mem_append.mp signal with before | new
        · exact absurd (.inr (.inl before)) idle
        · cases List.mem_singleton.mp new
      · exact absurd (.inr (.inr stopped)) idle
    · intro member
      cases only _ member

/-- A future that changes does so within the frame. -/
theorem ClosingState.setCallback (held : ClosingState s) (next : s.callbacks = (i, outcome) :: rest) :
    ClosingState ({ s with callbacks := rest }.setOutcomeIfPending i outcome) := by
  have step : Step s ({ s with callbacks := rest }.setOutcomeIfPending i outcome) := .callback next
  rcases setOutcomeIfPending_cases { s with callbacks := rest } i outcome with ⟨_, same⟩ | ⟨_, same⟩
  · rw [same] at step ⊢
    exact held.frame step rfl (length_setFuture ..) (operation?_setFuture { s with callbacks := rest } i · _)
      (fun some_ => some_) (fun _ member => .inl member) (fun signal => signal) Iff.rfl
  · rw [same] at step ⊢
    exact held.frame step rfl rfl (fun _ => rfl) (fun some_ => some_) (fun _ member => .inl member)
      (fun signal => signal) Iff.rfl

theorem ClosingState.step (held : ClosingState s) (step : Step s t) : ClosingState t := by
  have whole := step
  cases step with
  | submit op =>
    unfold AsyncConnection.submit
    split
    · exact held
    · rename_i opened
      exact held.submit (Bool.eq_false_iff.mpr opened) op
  | @cancel i _ _ _ own =>
    obtain ⟨closed, length, operations, closings, queue, worker⟩ := cancel_frame s i
    exact held.frame whole closed length operations (by simp [closings]) (by simp +contextual [closings])
      (by simp [queue]) (by rw [worker])
  | aclose => exact held.aclose
  | @cancelClosing k _ i own =>
    obtain ⟨closed, length, operations, closings, queue, worker⟩ := cancel_frame s i
    exact held.frame whole closed length operations set_ne_nil (fun _ => mem_set_cases) (by simp [queue])
      (by simp [worker])
  | cancelJoining own =>
    exact held.frame whole rfl rfl (fun _ => rfl) set_ne_nil (fun _ => mem_set_cases) (fun signal => signal) Iff.rfl
  | @shutDown k _ i value own done =>
    have member : .awaiting i ∈ s.closings := List.mem_of_getElem? own
    have last := held.awaiting i member
    constructor
    · exact fun _ => held.marked (.inl (List.ne_nil_of_mem member))
    · exact held.last
    · intro j waiting
      rcases mem_set_cases waiting with before | new
      · exact held.awaiting j before
      · cases new
    · intro _
      refine ⟨value, ?_⟩
      change s.future? (s.calls.length - 1) = _
      rw [← last, Nat.add_sub_cancel]
      exact done
    · intro closed
      rcases mem_set_cases closed with before | new
      · exact held.joined before
      · cases new
  | closeRaised own done =>
    exact held.frame whole rfl rfl (fun _ => rfl) set_ne_nil (fun _ => mem_set_cases) (fun signal => signal) Iff.rfl
  | @joined k _ own stopped =>
    have member : .joining ∈ s.closings := List.mem_of_getElem? own
    constructor
    · exact fun _ => held.marked (.inl (List.ne_nil_of_mem member))
    · exact held.last
    · intro j waiting
      rcases mem_set_cases waiting with before | new
      · exact held.awaiting j before
      · cases new
    · exact fun _ => held.ended (.inl member)
    · exact fun _ => stopped
  | @dequeue item rest _ idle next =>
    cases item with
    | call i =>
      exact held.working whole rfl rfl rfl (fun signal => by rw [next]; exact List.mem_cons_of_mem _ signal)
        (by simp [idle]) (by simp [AsyncConnection.dequeue, record])
    | shutdownSignal =>
      have signal : .shutdownSignal ∈ s.queue := by simp [next]
      have noneYet : .closed ∉ s.closings := by
        intro closed
        have stopped := held.joined closed
        rw [idle] at stopped
        cases stopped
      constructor
      · exact fun _ => held.marked (.inr (.inl signal))
      · exact held.last
      · exact held.awaiting
      · exact fun _ => held.ended (.inr (.inr (.inl signal)))
      · exact fun closed => absurd closed noneYet
  | @checkCancelled _ i own =>
    rcases checkCancelled_cases s i with ⟨_, same⟩ | same
    · rw [same] at whole ⊢
      exact held.working whole rfl rfl rfl (fun signal => signal) (by simp [own]) (by simp [record])
    · rw [same] at whole ⊢
      exact held.working whole rfl rfl rfl (fun signal => signal) (by simp [own]) (by simp [record])
  | execute own outcome =>
    exact held.working whole rfl rfl rfl (fun signal => signal) (by simp [own]) (by simp [record])
  | callSoon own =>
    exact held.working whole rfl rfl rfl (fun signal => signal) (by simp [own]) (by simp)
  | callback next => exact held.setCallback next

theorem closingState_of_reaches (reached : Reaches (fresh ω ε ρ) s) : ClosingState s := by
  induction reached with
  | refl => exact ⟨by simp [fresh], by simp [fresh], by simp [fresh], by simp [fresh], by simp [fresh]⟩
  | tail _ step held => exact held.step step

/-- A stopped worker begins no call. -/
theorem begunIds_step_of_stopped (stopped : s.worker = .stopped) (step : Step s t) :
    begunIds t.history = begunIds s.history ∧ t.worker = .stopped := by
  have cancelled (i : Nat) : begunIds (s.cancel i).history = begunIds s.history ∧
    (s.cancel i).worker = .stopped := by
    rcases cancel_cases s i with ⟨_, same⟩ | same
    · rw [same]
      exact ⟨by simp [record, begunIds, setFuture], stopped⟩
    · rw [same]
      exact ⟨rfl, stopped⟩
  cases step with
  | submit op =>
    unfold AsyncConnection.submit
    split
    · exact ⟨rfl, stopped⟩
    · exact ⟨rfl, stopped⟩
  | cancel own => exact cancelled _
  | aclose =>
    unfold AsyncConnection.aclose
    split
    · exact ⟨rfl, stopped⟩
    · exact ⟨rfl, stopped⟩
  | cancelClosing own => exact cancelled _
  | dequeue idle next => rw [idle] at stopped; cases stopped
  | checkCancelled own => rw [own] at stopped; cases stopped
  | execute own outcome => rw [own] at stopped; cases stopped
  | callSoon own => rw [own] at stopped; cases stopped
  | @callback i outcome rest _ next =>
    rcases setOutcomeIfPending_cases { s with callbacks := rest } i outcome with ⟨_, same⟩ | ⟨_, same⟩ <;>
      rw [same] <;> exact ⟨rfl, stopped⟩
  | _ => exact ⟨rfl, stopped⟩

theorem begunIds_of_stopped (stopped : s.worker = .stopped) (reached : Reaches s t) :
    begunIds t.history = begunIds s.history := by
  have both : begunIds t.history = begunIds s.history ∧ t.worker = .stopped := by
    induction reached with
    | refl => exact ⟨rfl, stopped⟩
    | tail _ step held =>
      obtain ⟨begun, halted⟩ := begunIds_step_of_stopped held.2 step
      exact ⟨begun.trans held.1, halted⟩
  exact both.1

/-- Every accepted call was executed or cancelled, `Connection.close` was
executed after all others, and no further call will be. -/
structure Drained (s : AsyncConnection ω ε ρ) : Prop where
  answered : ∀ i < s.calls.length, (∃ outcome, .ended i outcome ∈ s.history) ∨ .cancelled i ∈ s.history
  closeLast : ∃ earlier i value, begunIds s.history = earlier ++ [i] ∧
    s.operation? i = some .closeConnection ∧ .ended i (.ok value) ∈ s.history
  final : ∀ t, Reaches s t → begunIds t.history = begunIds s.history

/-- If the last accepted call was begun, no call is waiting. -/
theorem waitingIds_eq_nil (ordered : Ordered s) (length : s.calls.length = n + 1) (begun : n ∈ begunIds s.history) :
    s.waitingIds = [] ∧ ∃ earlier, begunIds s.history = earlier ++ [n] := by
  have order := ordered.order
  have kept : n ∉ skippedIds s.history := by
    have member : n ∈ (List.range s.calls.length).filter (· ∉ skippedIds s.history) := by
      rw [order]
      exact List.mem_append_left _ begun
    simpa using (List.mem_filter.mp member).2
  have nodup : (begunIds s.history ++ s.waitingIds).Nodup := by
    rw [← order]
    exact List.nodup_range.filter _
  rw [length, List.range_succ, List.filter_append, List.filter_cons_of_pos (by simpa using kept),
    List.filter_nil] at order
  rcases List.eq_nil_or_concat s.waitingIds with none_ | ⟨waiting, last, some_⟩
  · rw [none_, List.append_nil] at order
    exact ⟨none_, _, order.symm⟩
  · rw [List.concat_eq_append] at some_
    rw [some_, ← List.append_assoc] at order
    obtain ⟨same, _⟩ := List.cons.inj (List.append_inj' order rfl).2
    have waiting : n ∈ s.waitingIds := by simp [some_, same]
    exact absurd rfl ((List.nodup_append.mp nodup).2.2 n begun n waiting)

theorem drained_of_closed (reached : Reaches (fresh ω ε ρ) s) (closed : .closed ∈ s.closings) : Drained s := by
  have ordered := ordered_of_reaches reached
  have serial := serial_of_reaches reached
  have closing := closingState_of_reaches reached
  have stopped := closing.joined closed
  obtain ⟨value, finished⟩ := closing.ended (.inr (.inl closed))
  have ended := (delivered_of_reaches reached).own _ _ finished
  have accepted := lt_of_ended ordered serial ended
  have length : s.calls.length = (s.calls.length - 1) + 1 := by omega
  have begunAll : begunIds s.history = (endedCalls s.history).map Prod.fst := by
    have idle : s.executing = none := by simp [executing, stopped]
    rw [idle] at serial
    simpa using serial.begunIds_eq
  have begun : s.calls.length - 1 ∈ begunIds s.history := by
    rw [begunAll]
    exact List.mem_map.mpr ⟨_, mem_endedCalls.mpr ended, rfl⟩
  obtain ⟨idle, earlier, last⟩ := waitingIds_eq_nil ordered length begun
  constructor
  · intro i inside
    by_cases skipped : i ∈ skippedIds s.history
    · right
      obtain ⟨k, bound, found⟩ := List.getElem_of_mem (mem_skippedIds.mp skipped)
      obtain ⟨j, _, earlier⟩ := (accounted_of_reaches reached).removed i k (by rw [List.getElem?_eq_getElem bound, found])
      exact List.mem_of_getElem? earlier
    · left
      have member : i ∈ begunIds s.history := by
        have order := ordered.order
        rw [idle, List.append_nil] at order
        rw [← order]
        exact List.mem_filter.mpr ⟨List.mem_range.mpr inside, by simpa using skipped⟩
      rw [begunAll] at member
      obtain ⟨⟨_, outcome⟩, call, rfl⟩ := List.mem_map.mp member
      exact ⟨outcome, mem_endedCalls.mp call⟩
  · exact ⟨earlier, _, value, last, closing.last (closing.marked (.inl (List.ne_nil_of_mem closed))), ended⟩
  · exact fun t later => begunIds_of_stopped stopped later

/-! ## The whole connection -/

/-- What holds in each state of a connection: calls are executed one at a time,
in the order of their acceptance and at most once; only calls are left out whose
futures were cancelled before the worker looked at them; an outcome goes to the
future of its own call and never to one that is done; and when `aclose` has
closed the connection, all calls are answered. -/
structure SerializedCalls (s : AsyncConnection ω ε ρ) : Prop where
  oneAtATime : ∃ current, Serial s.history current
  inOrder : (List.range s.calls.length).filter (· ∉ skippedIds s.history) = begunIds s.history ++ s.waitingIds
  atMostOnce : (begunIds s.history).Nodup
  removed : ∀ i, Precedes s.history (.cancelled i) (.skipped i)
  ownOutcome : ∀ i outcome, s.future? i = some (.finished outcome) → .ended i outcome ∈ s.history
  delivered : ∀ i outcome, .ended i outcome ∈ s.history →
    (i, outcome) ∈ s.owed ∨ s.future? i = some (.finished outcome) ∨ s.future? i = some .cancelled
  settled : ∀ t i future, Reaches s t → s.future? i = some future → future ≠ .pending → t.future? i = some future
  closed : .closed ∈ s.closings → Drained s

theorem calls_serialized (reached : Reaches (fresh ω ε ρ) s) : SerializedCalls s where
  oneAtATime := ⟨_, serial_of_reaches reached⟩
  inOrder := (ordered_of_reaches reached).order
  atMostOnce := nodup_begunIds (ordered_of_reaches reached)
  removed := (accounted_of_reaches reached).removed
  ownOutcome := (delivered_of_reaches reached).own
  delivered := (delivered_of_reaches reached).received
  settled _ _ _ later done settled := future?_reaches later done settled
  closed := drained_of_closed reached

theorem step_begin (own : s.worker = .dequeued i) (pending : s.future? i = some .pending) :
    Step s ({ s with worker := .executing i }.record (.began i)) := by
  rw [← checkCancelled_of_pending pending]
  exact .checkCancelled own

theorem step_deliver (next : s.callbacks = (i, outcome) :: rest) (pending : s.future? i = some .pending) :
    Step s ({ s with callbacks := rest }.setFuture i (.finished outcome)) := by
  have free : ({ s with callbacks := rest }).future? i = some .pending := pending
  rw [← setOutcomeIfPending_of_pending free]
  exact .callback next

/-- An idle worker can execute the next call, and the loop deliver its outcome. -/
theorem reaches_answered (idle : s.worker = .idle) (next : s.queue = .call i :: rest) (none_ : s.callbacks = [])
    (pending : s.future? i = some .pending) (outcome : Except ε ρ) :
    Reaches s { s.setFuture i (.finished outcome) with
      queue := rest
      history := s.history ++ [.dequeued i] ++ [.began i] ++ [.ended i outcome] } := by
  have dequeued : Reaches s { s with
      queue := rest
      worker := .dequeued i
      history := s.history ++ [.dequeued i] } := .single (.dequeue idle next)
  have began : Reaches s { s with
      queue := rest
      worker := .executing i
      history := s.history ++ [.dequeued i] ++ [.began i] } := dequeued.tail (step_begin rfl pending)
  have ended : Reaches s { s with
      queue := rest
      worker := .executed i outcome
      history := s.history ++ [.dequeued i] ++ [.began i] ++ [.ended i outcome] } :=
    began.tail (.execute rfl outcome)
  have sent : Reaches s { s with
      queue := rest
      callbacks := [(i, outcome)]
      history := s.history ++ [.dequeued i] ++ [.began i] ++ [.ended i outcome] } := by
    have step := ended.tail (.callSoon rfl)
    rw [none_, ← idle] at step
    exact step
  have delivered := sent.tail (step_deliver rfl pending)
  rw [← none_] at delivered
  exact delivered

/-- One call, and `aclose` after it. -/
theorem one_call_closed : ∃ s, Reaches (fresh Unit Unit Unit) s ∧ .closed ∈ s.closings := by
  have accepted : Reaches (fresh Unit Unit Unit) _ := .tail (.tail .refl (.submit ())) .aclose
  have first := accepted.trans (reaches_answered rfl rfl rfl rfl (.ok ()))
  have last := first.trans (reaches_answered rfl rfl rfl rfl (.ok ()))
  have done := ((last.tail (.shutDown (k := 0) rfl rfl)).tail (.dequeue rfl rfl)).tail (.joined (k := 0) rfl rfl)
  exact ⟨_, done, List.mem_cons_self⟩

theorem one_call_serialized :
    ∃ s : AsyncConnection Unit Unit Unit, .closed ∈ s.closings ∧ SerializedCalls s := by
  obtain ⟨s, reached, closed⟩ := one_call_closed
  exact ⟨s, closed, calls_serialized reached⟩

/-- A second `aclose` returns while the first one still waits, and the accepted
call has not been executed; and a call that is cancelled when the worker has
dequeued it but not looked at it yet is left out. -/
theorem early_return_and_late_cancel :
    (∃ s, Reaches (fresh Unit Unit Unit) s ∧ .foundClosed ∈ s.closings ∧ ¬ Drained s) ∧
      ∃ s, Reaches (fresh Unit Unit Unit) s ∧
        ∃ i, .skipped i ∈ s.history ∧ ¬ Precedes s.history (.cancelled i) (.dequeued i) := by
  constructor
  · have run : Reaches (fresh Unit Unit Unit) _ := .tail (.tail (.tail .refl (.submit ())) .aclose) .aclose
    refine ⟨_, run, List.mem_cons_of_mem _ List.mem_cons_self, fun drained => ?_⟩
    rcases drained.answered 0 (by decide) with ⟨outcome, ended⟩ | cancelled
    · cases ended
    · cases cancelled
  · have run : Reaches (fresh Unit Unit Unit) _ :=
      .tail (.tail (.tail (.tail .refl (.submit ())) (.dequeue rfl rfl)) (.cancel (i := 0) rfl)) (.checkCancelled rfl)
    refine ⟨_, run, 0, List.mem_cons_of_mem _ (List.mem_cons_of_mem _ List.mem_cons_self), fun precedes => ?_⟩
    obtain ⟨j, below, _⟩ := precedes 0 rfl
    exact absurd below (Nat.not_lt_zero j)

end PyAds.AsyncConnection
