import PyAds.AsyncWorkerRuns

/-! How `aclose` ends. Between marking the connection as closed and sending the
shutdown signal it awaits the outcome of `Connection.close`: an exception or a
cancellation there leaves a connection that is marked closed, whose worker
nobody will stop. -/
namespace PyAds
open Runs

namespace AsyncConnection
variable {ω ε ρ : Type} {s t : AsyncConnection ω ε ρ}

/-- The shutdown signal has been enqueued. -/
def Signalled (s : AsyncConnection ω ε ρ) : Prop := .shutdownSignal ∈ s.queue ∨ s.worker = .stopped

/-- The worker has called `Connection.close` for `aclose`. -/
def CloseAttempted (s : AsyncConnection ω ε ρ) : Prop :=
  ∃ i, s.operation? i = some .closeConnection ∧ .began i ∈ s.history

/-- A further call of `aclose` does not return at once, but queues `Connection.close`. -/
def StillCloses (s : AsyncConnection ω ε ρ) : Prop := s.aclose.queue = s.queue ++ [.call s.calls.length]

/-- The first call of `aclose` has returned or raised. -/
def FirstEnded (s : AsyncConnection ω ε ρ) : Prop :=
  s.closings.head? = some .closed ∨ s.closings.head? = some .raised

end AsyncConnection

/-- Nobody cancels a call of `aclose` that awaits its outcome, and
`Connection.close` does not raise. -/
def ConnectionAction.Completes (s : AsyncConnection ω ε ρ) : ConnectionAction ω ε ρ → Prop
  | .cancelClosing k => ∀ i, s.closings[k]? ≠ some (.awaiting i)
  | .work (.error _) => ∀ i, s.worker = .executing i → s.operation? i ≠ some .closeConnection
  | _ => True

namespace AsyncConnection
variable {ω ε ρ : Type} {s t : AsyncConnection ω ε ρ}

/-! ## The first call of `aclose` -/

/-- Only the first call of `aclose` does anything. While it awaits its outcome
nothing has been signalled; when it joins the worker, the signal is sent. -/
structure FirstCloses (s : AsyncConnection ω ε ρ) : Prop where
  others : ∀ closing ∈ s.closings.tail, closing = .foundClosed
  first : s.closings.head? ≠ some .foundClosed
  opened : s.closed = false → s.closings = [] ∧ ¬ Signalled s
  begun : s.closed = true → s.closings ≠ []
  close : ∀ i, s.operation? i = some .closeConnection → s.closed = true ∧ i + 1 = s.calls.length
  awaiting : ∀ i, s.closings.head? = some (.awaiting i) →
    ¬ Signalled s ∧ s.future? i ≠ some .cancelled ∧ s.operation? i = some .closeConnection
  joining : s.closings.head? = some .joining → Signalled s

/-- What a call of `aclose` other than the first one is. -/
theorem FirstCloses.first_of (held : FirstCloses s) {k : Nat} (own : s.closings[k]? = some closing)
    (other : closing ≠ .foundClosed) : k = 0 := by
  cases k with
  | zero => rfl
  | succ k =>
    rw [← List.getElem?_tail] at own
    exact absurd (held.others closing (List.mem_of_getElem? own)) other

theorem FirstCloses.head_of (held : FirstCloses s) {k : Nat} (own : s.closings[k]? = some closing)
    (other : closing ≠ .foundClosed) : s.closings.head? = some closing := by
  rw [List.head?_eq_getElem?, ← held.first_of own other, own]

/-- A step that leaves the calls of `aclose` and the signal alone. -/
theorem FirstCloses.frame (held : FirstCloses s) (closings : t.closings = s.closings) (closed : t.closed = s.closed)
    (signalled : Signalled t ↔ Signalled s) (length : t.calls.length = s.calls.length)
    (operations : ∀ i, t.operation? i = s.operation? i)
    (futures : ∀ i, s.operation? i = some .closeConnection → t.future? i = some .cancelled →
      s.future? i = some .cancelled) : FirstCloses t := by
  constructor
  · rw [closings]
    exact held.others
  · rw [closings]
    exact held.first
  · rw [closed, closings, signalled]
    exact held.opened
  · rw [closed, closings]
    exact held.begun
  · rw [closed, length]
    intro i close
    rw [operations] at close
    exact held.close i close
  · rw [closings, signalled]
    intro i head
    obtain ⟨quiet, alive, close⟩ := held.awaiting i head
    refine ⟨quiet, fun cancelled => alive (futures i close cancelled), ?_⟩
    rw [operations, close]
  · rw [closings, signalled]
    exact held.joining

/-- The first call of `aclose` has gone on to something that asks for the signal at most. -/
theorem FirstCloses.proceed (held : FirstCloses s) {closing : Closing} (own : s.closings[k]? = some before)
    (other : before ≠ .foundClosed) (closings : t.closings = s.closings.set k closing) (closed : t.closed = s.closed)
    (length : t.calls.length = s.calls.length) (operations : ∀ i, t.operation? i = s.operation? i)
    (next : closing = .raised ∨ closing = .closed ∨ closing = .joining ∧ Signalled t) : FirstCloses t := by
  obtain rfl := held.first_of own other
  cases shape : s.closings with
  | nil =>
    rw [shape] at own
    cases own
  | cons head rest =>
    have now : t.closings = closing :: rest := by rw [closings, shape, List.set_cons_zero]
    have marked : s.closed = true := by
      by_contra opened
      rw [(held.opened (Bool.eq_false_iff.mpr opened)).1] at shape
      cases shape
    constructor
    · rw [now, List.tail_cons]
      have others := held.others
      rwa [shape, List.tail_cons] at others
    · rw [now]
      rcases next with rfl | rfl | ⟨rfl, _⟩ <;> simp
    · rw [closed, marked]
      simp
    · rw [now]
      simp
    · intro i close
      rw [operations] at close
      rw [closed, length]
      exact held.close i close
    · intro i head
      rw [now] at head
      rcases next with rfl | rfl | ⟨rfl, _⟩ <;> cases head
    · intro head
      rw [now] at head
      rcases next with rfl | rfl | ⟨_, signalled⟩
      · cases head
      · cases head
      · exact signalled

theorem FirstCloses.submit (held : FirstCloses s) (op : ω) : FirstCloses (s.submit op) := by
  unfold AsyncConnection.submit
  split
  · exact held
  · rename_i opened
    obtain ⟨none_, quiet⟩ := held.opened (Bool.eq_false_iff.mpr opened)
    have unsent : ¬ Signalled (s.enqueue (.client op)) := by
      unfold Signalled AsyncConnection.enqueue
      simpa [Signalled] using quiet
    constructor
    · exact held.others
    · exact held.first
    · exact fun _ => ⟨none_, unsent⟩
    · exact held.begun
    · intro i close
      rw [operation?_enqueue] at close
      split at close
      · cases close
      · exact absurd (held.close i close).1 opened
    · intro i head
      change s.closings.head? = _ at head
      rw [none_] at head
      cases head
    · intro head
      change s.closings.head? = _ at head
      rw [none_] at head
      cases head

theorem FirstCloses.aclose (held : FirstCloses s) : FirstCloses s.aclose := by
  unfold AsyncConnection.aclose
  split
  · rename_i closed
    obtain ⟨head, rest, shape⟩ := List.exists_cons_of_ne_nil (held.begun closed)
    have same : (s.closings ++ [Closing.foundClosed]).head? = s.closings.head? := by
      rw [shape, List.cons_append, List.head?_cons, List.head?_cons]
    constructor
    · intro closing member
      change closing ∈ (s.closings ++ [Closing.foundClosed]).tail at member
      rw [shape, List.cons_append, List.tail_cons] at member
      rcases List.mem_append.mp member with before | new
      · apply held.others closing
        rwa [shape, List.tail_cons]
      · exact List.mem_singleton.mp new
    · change (s.closings ++ [Closing.foundClosed]).head? ≠ _
      rw [same]
      exact held.first
    · intro opened
      exact absurd closed (Bool.eq_false_iff.mp opened)
    · exact fun _ => List.append_ne_nil_of_right_ne_nil _ (List.cons_ne_nil _ _)
    · exact held.close
    · intro i awaits
      change (s.closings ++ [Closing.foundClosed]).head? = _ at awaits
      rw [same] at awaits
      exact held.awaiting i awaits
    · intro joins
      change (s.closings ++ [Closing.foundClosed]).head? = _ at joins
      rw [same] at joins
      exact held.joining joins
  · rename_i opened
    obtain ⟨none_, quiet⟩ := held.opened (Bool.eq_false_iff.mpr opened)
    have unsent : ¬ (QueueItem.shutdownSignal ∈ s.queue ++ [.call s.calls.length] ∨ s.worker = .stopped) := by
      simpa [Signalled] using quiet
    constructor
    · intro closing member
      change closing ∈ (s.closings ++ [_]).tail at member
      rw [none_] at member
      cases member
    · change (s.closings ++ [_]).head? ≠ _
      rw [none_]
      simp
    · exact fun other => absurd other (by simp)
    · exact fun _ => List.append_ne_nil_of_right_ne_nil _ (List.cons_ne_nil _ _)
    · intro i close
      change (s.enqueue .closeConnection).operation? i = _ at close
      rw [operation?_enqueue] at close
      split at close
      · rename_i last
        refine ⟨rfl, ?_⟩
        change i + 1 = (s.calls ++ [_]).length
        rw [last, List.length_append, List.length_singleton]
      · exact absurd (held.close i close).1 opened
    · intro i head
      change (s.closings ++ [_]).head? = _ at head
      rw [none_] at head
      cases head
      refine ⟨unsent, fun cancelled => ?_, ?_⟩
      · change (s.enqueue .closeConnection).future? s.calls.length = _ at cancelled
        rcases future?_enqueue _ cancelled with before | ⟨_, pending⟩
        · rw [future?, List.getElem?_eq_none (Nat.le_refl _)] at before
          cases before
        · cases pending
      · change (s.enqueue .closeConnection).operation? s.calls.length = _
        rw [operation?_enqueue, if_pos rfl]
    · intro head
      change (s.closings ++ [_]).head? = _ at head
      rw [none_] at head
      cases head

/-- A step of the worker with a call, which touches no future. -/
theorem FirstCloses.working (held : FirstCloses s) (closings : t.closings = s.closings) (closed : t.closed = s.closed)
    (calls : t.calls = s.calls) (signalled : Signalled t ↔ Signalled s) : FirstCloses t := by
  have operations (i : Nat) : t.operation? i = s.operation? i := by rw [operation?, operation?, calls]
  refine held.frame closings closed signalled (by rw [calls]) operations fun i _ cancelled => ?_
  rwa [future?, calls] at cancelled

theorem FirstCloses.step (held : FirstCloses s) (step : Step s t) : FirstCloses t := by
  cases step with
  | submit op => exact held.submit op
  | @cancel i op future _ own =>
    obtain ⟨closed, length, operations, closings, queue, worker⟩ := cancel_frame s i
    have signalled : Signalled (s.cancel i) ↔ Signalled s := by rw [Signalled, queue, worker, Signalled]
    apply held.frame closings closed signalled length operations
    intro j close cancelled
    rcases cancelled_cancel cancelled with rfl | before
    · rw [operation?, own] at close
      cases close
    · exact before
  | aclose => exact held.aclose
  | @cancelClosing _ k i own =>
    obtain ⟨closed, length, operations, _⟩ := cancel_frame s i
    exact held.proceed own (by simp) rfl closed length operations (.inl rfl)
  | cancelJoining own => exact held.proceed own (by simp) rfl rfl rfl (fun _ => rfl) (.inl rfl)
  | shutDown own done =>
    refine held.proceed own (by simp) rfl rfl rfl (fun _ => rfl) (.inr (.inr ⟨rfl, .inl ?_⟩))
    exact List.mem_append_right _ List.mem_cons_self
  | closeRaised own done => exact held.proceed own (by simp) rfl rfl rfl (fun _ => rfl) (.inl rfl)
  | joined own stopped => exact held.proceed own (by simp) rfl rfl rfl (fun _ => rfl) (.inr (.inl rfl))
  | @dequeue item rest _ idle next =>
    cases item with
    | call i =>
      refine held.working rfl rfl rfl ?_
      simp [Signalled, AsyncConnection.dequeue, record, idle, next]
    | shutdownSignal =>
      refine held.working rfl rfl rfl ?_
      simp [Signalled, AsyncConnection.dequeue, next]
  | @checkCancelled _ i own =>
    rcases checkCancelled_cases s i with ⟨_, same⟩ | same
    · rw [same]
      refine held.working rfl rfl rfl ?_
      simp [Signalled, record, own]
    · rw [same]
      refine held.working rfl rfl rfl ?_
      simp [Signalled, record, own]
  | execute own outcome =>
    refine held.working rfl rfl rfl ?_
    simp [Signalled, record, own]
  | callSoon own =>
    refine held.working rfl rfl rfl ?_
    simp [Signalled, own]
  | @callback i outcome rest _ next =>
    have popped : FirstCloses { s with callbacks := rest } := held.working rfl rfl rfl Iff.rfl
    rcases setOutcomeIfPending_cases { s with callbacks := rest } i outcome with ⟨_, same⟩ | ⟨_, same⟩
    · rw [same]
      refine popped.frame rfl rfl Iff.rfl (length_setFuture ..) (fun j => operation?_setFuture ..) ?_
      intro j _ cancelled
      rw [← same] at cancelled
      exact cancelled_setOutcomeIfPending cancelled
    · rw [same]
      exact popped

theorem firstCloses_of_reaches (reached : Reaches (fresh ω ε ρ) s) : FirstCloses s := by
  induction reached with
  | refl => exact ⟨by simp [fresh], by simp [fresh], by simp [fresh, Signalled], by simp [fresh],
      by simp [fresh, operation?], by simp [fresh], by simp [fresh]⟩
  | tail _ step held => exact held.step step

/-! ## The signal -/

theorem mem_begunIds {events : List (CallEvent ε ρ)} : i ∈ begunIds events ↔ .began i ∈ events := by
  simp only [begunIds, List.mem_filterMap]
  constructor
  · rintro ⟨event, member, same⟩
    cases event <;> simp_all
  · intro member
    exact ⟨_, member, rfl⟩

/-- The shutdown signal has been sent or will be: nobody has begun to close the
connection, or `Connection.close` has not raised for the first call of `aclose`,
which waits for it. -/
def WillSignal (s : AsyncConnection ω ε ρ) : Prop :=
  s.closed = false ∨ Signalled s ∨
    ∃ i, s.closings.head? = some (.awaiting i) ∧ ∀ exc, .ended i (.error exc) ∉ s.history

/-- What is needed of a state that a run reaches. -/
structure Reached (s : AsyncConnection ω ε ρ) : Prop where
  ordered : Ordered s
  serial : Serial s.history s.executing
  delivered : Delivered s
  closing : ClosingState s
  first : FirstCloses s

theorem reached_of_reaches (reached : Reaches (fresh ω ε ρ) s) : Reached s :=
  ⟨ordered_of_reaches reached, serial_of_reaches reached, delivered_of_reaches reached,
    closingState_of_reaches reached, firstCloses_of_reaches reached⟩

/-- The signal was sent because `Connection.close` has returned. -/
theorem Reached.close_ended (held : Reached s) (signalled : Signalled s) :
    s.operation? (s.calls.length - 1) = some .closeConnection ∧
      ∃ value, .ended (s.calls.length - 1) (.ok value) ∈ s.history := by
  have sent : .joining ∈ s.closings ∨ .closed ∈ s.closings ∨ .shutdownSignal ∈ s.queue ∨ s.worker = .stopped :=
    .inr (.inr signalled)
  obtain ⟨value, finished⟩ := held.closing.ended sent
  exact ⟨held.closing.last (held.closing.marked (.inr signalled)), value, held.delivered.own _ _ finished⟩

theorem Reached.closed_of_head (held : Reached s) {closing : Closing} (head : s.closings.head? = some closing) : s.closed = true := by
  by_contra opened
  rw [(held.first.opened (Bool.eq_false_iff.mpr opened)).1] at head
  cases head

/-- What the call executes that is executing has not ended before. -/
theorem Reached.not_ended (held : Reached s) (own : s.worker = .executing i) (outcome : Except ε ρ) :
    .ended i outcome ∉ s.history := by
  intro ended
  have nodup := nodup_begunIds held.ordered
  rw [held.serial.begunIds_eq, executing, own] at nodup
  have before : i ∈ (endedCalls s.history).map Prod.fst := List.mem_map.mpr ⟨_, mem_endedCalls.mpr ended, rfl⟩
  exact (List.nodup_append.mp nodup).2.2 i before i (by simp) rfl

theorem WillSignal.congr (closed : t.closed = s.closed) (signalled : Signalled t ↔ Signalled s)
    (head : t.closings.head? = s.closings.head?)
    (ended : ∀ i exc, s.operation? i = some .closeConnection →
      (.ended i (.error exc) ∈ t.history ↔ .ended i (.error exc) ∈ s.history))
    (first : FirstCloses s) : WillSignal t ↔ WillSignal s := by
  unfold WillSignal
  rw [closed, signalled, head]
  refine or_congr_right (or_congr_right (exists_congr fun i => and_congr_right fun awaits => ?_))
  exact forall_congr' fun exc => not_congr (ended i exc (first.awaiting i awaits).2.2)

/-- The first call of `aclose` gives up without having sent the signal. -/
theorem not_willSignal_raised (held : Reached s) (own : s.closings[k]? = some (.awaiting i)) (closed : t.closed = s.closed)
    (signalled : Signalled t ↔ Signalled s) (closings : t.closings = s.closings.set k .raised) : ¬ WillSignal t := by
  have awaits := held.first.head_of own (by simp)
  obtain rfl := held.first.first_of own (by simp)
  rintro (opened | sent | ⟨j, head, _⟩)
  · rw [closed, held.closed_of_head awaits] at opened
    cases opened
  · exact (held.first.awaiting i awaits).1 (signalled.mp sent)
  · rw [closings] at head
    cases shape : s.closings with
    | nil =>
      rw [shape] at own
      cases own
    | cons first rest =>
      rw [shape, List.set_cons_zero, List.head?_cons] at head
      cases head

theorem willSignal_submit (op : ω) : WillSignal (s.submit op) ↔ WillSignal s := by
  unfold AsyncConnection.submit
  split
  · exact Iff.rfl
  · rename_i opened
    exact iff_of_true (.inl (Bool.eq_false_iff.mpr opened)) (.inl (Bool.eq_false_iff.mpr opened))

variable (held : Reached s)
include held

theorem willSignal_cancelClient (i : Nat) : WillSignal (s.cancelClient i) ↔ WillSignal s := by
  unfold cancelClient
  split
  · obtain ⟨closed, _, _, closings, queue, worker⟩ := cancel_frame s i
    exact WillSignal.congr closed (by rw [Signalled, queue, worker, Signalled]) (by rw [closings])
      (fun _ _ _ => ended_cancel) held.first
  · exact Iff.rfl

theorem willSignal_aclose : WillSignal s.aclose ↔ WillSignal s := by
  unfold AsyncConnection.aclose
  split
  · rename_i closed
    obtain ⟨head, rest, shape⟩ := List.exists_cons_of_ne_nil (held.first.begun closed)
    refine WillSignal.congr rfl Iff.rfl ?_ (fun _ _ _ => Iff.rfl) held.first
    change (s.closings ++ [Closing.foundClosed]).head? = _
    rw [shape, List.cons_append, List.head?_cons, List.head?_cons]
  · rename_i opened
    have unmarked := Bool.eq_false_iff.mpr opened
    refine iff_of_true (.inr (.inr ⟨s.calls.length, ?_, fun exc ended => ?_⟩)) (.inl unmarked)
    · change (s.closings ++ [_]).head? = _
      rw [(held.first.opened unmarked).1]
      rfl
    · exact Nat.lt_irrefl _ (lt_of_ended held.ordered held.serial ended)

theorem willSignal_cancelClosing (k : Nat) :
    WillSignal (s.cancelClosing k) ↔ WillSignal s ∧ ∀ i, s.closings[k]? ≠ some (.awaiting i) := by
  unfold cancelClosing
  split
  · rename_i i own
    obtain ⟨closed, _, _, closings, queue, worker⟩ := cancel_frame s i
    refine iff_of_false ?_ fun both => both.2 i own
    exact not_willSignal_raised held own closed (by simp [Signalled, queue, worker]) rfl
  · rename_i own
    have sent : Signalled s := held.first.joining (held.first.head_of own (by simp))
    refine iff_of_true (.inr (.inl sent)) ⟨.inr (.inl sent), fun i other => ?_⟩
    rw [own] at other
    cases other
  · rename_i other _
    exact (and_iff_left other).symm

theorem willSignal_resumeClosing (k : Nat) : WillSignal (s.resumeClosing k) ↔ WillSignal s := by
  unfold resumeClosing
  split
  · rename_i i own
    have head := held.first.head_of own (by simp)
    split
    · rename_i value done
      refine iff_of_true (.inr (.inl (.inl (List.mem_append_right _ List.mem_cons_self)))) ?_
      refine .inr (.inr ⟨i, head, fun exc raised => ?_⟩)
      have both := ended_unique held.ordered held.serial (held.delivered.own i _ done) raised
      cases both
    · rename_i exc done
      refine iff_of_false (not_willSignal_raised held own rfl Iff.rfl rfl) ?_
      rintro (opened | sent | ⟨j, awaits, quiet⟩)
      · rw [held.closed_of_head head] at opened
        cases opened
      · exact (held.first.awaiting i head).1 sent
      · rw [head] at awaits
        cases awaits
        exact quiet exc (held.delivered.own i _ done)
    · rename_i cancelled
      exact absurd cancelled (held.first.awaiting i head).2.1
    · exact Iff.rfl
  · rename_i own
    split
    · rename_i stopped
      exact iff_of_true (.inr (.inl (.inr stopped))) (.inr (.inl (.inr stopped)))
    · exact Iff.rfl
  · exact Iff.rfl

/-- A call of the worker that is not `Connection.close` decides nothing, nor
does one that returns. -/
theorem willSignal_execute (own : s.worker = .executing i) (outcome : Except ε ρ) :
    WillSignal ({ s with worker := .executed i outcome }.record (.ended i outcome)) ↔
      WillSignal s ∧ ConnectionAction.Completes s (.work outcome) := by
  have signalled : Signalled ({ s with worker := .executed i outcome }.record (.ended i outcome)) ↔ Signalled s := by
    simp [Signalled, record, own]
  cases outcome with
  | ok value =>
    have same : WillSignal ({ s with worker := .executed i (.ok value) }.record (.ended i (.ok value))) ↔ WillSignal s :=
      WillSignal.congr rfl signalled rfl (fun _ _ _ => by simp [record]) held.first
    exact same.trans (and_iff_left trivial).symm
  | error exc =>
    by_cases close : s.operation? i = some .closeConnection
    · obtain ⟨closed, last⟩ := held.first.close i close
      refine iff_of_false ?_ fun both => both.2 i own close
      rintro (opened | sent | ⟨j, head, quiet⟩)
      · change s.closed = false at opened
        rw [closed] at opened
        cases opened
      · obtain ⟨_, value, ended⟩ := held.close_ended (signalled.mp sent)
        rw [← last, Nat.add_sub_cancel] at ended
        exact held.not_ended own _ ended
      · obtain ⟨_, lastAlso⟩ := held.first.close j (held.first.awaiting j head).2.2
        obtain rfl : j = i := by omega
        exact quiet exc (List.mem_append_right _ List.mem_cons_self)
    · have same : WillSignal ({ s with worker := .executed i (.error exc) }.record (.ended i (.error exc))) ↔
          WillSignal s := by
        refine WillSignal.congr rfl signalled rfl (fun j other closes => ?_) held.first
        have apart : j ≠ i := by
          rintro rfl
          exact close closes
        simp [record, apart]
      have completes : ConnectionAction.Completes s (.work (.error exc)) := by
        intro j executing
        rw [own] at executing
        cases executing
        exact close
      exact same.trans (and_iff_left completes).symm

theorem willSignal_work (outcome : Except ε ρ) :
    WillSignal (s.work outcome) ↔ WillSignal s ∧ ConnectionAction.Completes s (.work outcome) := by
  have elsewhere (other : ∀ i, s.worker ≠ .executing i) : ConnectionAction.Completes s (.work outcome) := by
    cases outcome with
    | ok value => exact trivial
    | error exc => exact fun i executing => absurd executing (other i)
  unfold work
  split
  · rename_i idle
    rw [and_iff_left (elsewhere (by simp [idle]))]
    split
    · exact Iff.rfl
    · rename_i item rest next
      cases item with
      | call i =>
        exact WillSignal.congr rfl (by simp [Signalled, dequeue, record, idle, next]) rfl
          (fun _ _ _ => by simp [dequeue, record]) held.first
      | shutdownSignal =>
        exact WillSignal.congr rfl (by simp [Signalled, dequeue, next]) rfl (fun _ _ _ => Iff.rfl) held.first
  · rename_i i own
    rw [and_iff_left (elsewhere (by simp [own]))]
    rcases checkCancelled_cases s i with ⟨_, same⟩ | same
    · rw [same]
      exact WillSignal.congr rfl (by simp [Signalled, record, own]) rfl (fun _ _ _ => by simp [record]) held.first
    · rw [same]
      exact WillSignal.congr rfl (by simp [Signalled, record, own]) rfl (fun _ _ _ => by simp [record]) held.first
  · exact willSignal_execute held (by assumption) outcome
  · rename_i own
    rw [and_iff_left (elsewhere (by simp [own]))]
    exact WillSignal.congr rfl (by simp [Signalled, own]) rfl (fun _ _ _ => Iff.rfl) held.first
  · rename_i stopped
    exact (and_iff_left (elsewhere (by simp [stopped]))).symm

theorem willSignal_runCallback : WillSignal s.runCallback ↔ WillSignal s := by
  unfold runCallback
  split
  · exact Iff.rfl
  · rename_i i outcome rest next
    rcases setOutcomeIfPending_cases { s with callbacks := rest } i outcome with ⟨_, same⟩ | ⟨_, same⟩
    · rw [same]
      exact WillSignal.congr rfl Iff.rfl rfl (fun _ _ _ => Iff.rfl) held.first
    · rw [same]
      exact WillSignal.congr rfl Iff.rfl rfl (fun _ _ _ => Iff.rfl) held.first

/-- The signal is given up exactly in steps that do not complete. -/
theorem willSignal_act (action : ConnectionAction ω ε ρ) :
    WillSignal (s.act action) ↔ WillSignal s ∧ action.Completes s := by
  cases action with
  | submit op => exact (willSignal_submit op).trans (and_iff_left trivial).symm
  | cancel i => exact (willSignal_cancelClient held i).trans (and_iff_left trivial).symm
  | aclose => exact (willSignal_aclose held).trans (and_iff_left trivial).symm
  | cancelClosing k => exact willSignal_cancelClosing held k
  | resumeClosing k => exact (willSignal_resumeClosing held k).trans (and_iff_left trivial).symm
  | work outcome => exact willSignal_work held outcome
  | callback => exact (willSignal_runCallback held).trans (and_iff_left trivial).symm

omit held

/-- With the signal, the connection is shut down. -/
theorem Reached.closeAttempted (held : Reached s) (signalled : Signalled s) : CloseAttempted s := by
  obtain ⟨close, value, ended⟩ := held.close_ended signalled
  refine ⟨_, close, ?_⟩
  have begun : s.calls.length - 1 ∈ begunIds s.history := by
    rw [held.serial.begunIds_eq]
    exact List.mem_append_left _ (List.mem_map.mpr ⟨_, mem_endedCalls.mpr ended, rfl⟩)
  exact mem_begunIds.mp begun

/-- Once the first call of `aclose` has ended, no other one will do anything. -/
theorem shutDown_iff (held : Reached s) (ended : FirstEnded s) :
    Signalled s ∧ CloseAttempted s ∨ StillCloses s ↔ WillSignal s := by
  have closed : s.closed = true := ended.elim held.closed_of_head held.closed_of_head
  have inert : ¬ StillCloses s := by
    simp [StillCloses, AsyncConnection.aclose, closed]
  constructor
  · rintro (⟨signalled, _⟩ | still)
    · exact .inr (.inl signalled)
    · exact absurd still inert
  · rintro (opened | signalled | ⟨i, awaits, _⟩)
    · rw [closed] at opened
      cases opened
    · exact .inl ⟨signalled, held.closeAttempted signalled⟩
    · rcases ended with head | head <;> rw [head] at awaits <;> cases awaits

/-- Each action meets a state that can be reached. -/
theorem reached_along [Inhabited ε] (actions : List (ConnectionAction ω ε ρ)) (reached : Reaches (fresh ω ε ρ) s) :
    Along act (fun t _ => Reached t) s actions := by
  induction actions generalizing s with
  | nil => trivial
  | cons action actions ih => exact ⟨reached_of_reaches reached, ih (reached.trans (reaches_act action))⟩

/-- Once the first call of `aclose` has ended, the signal is sent and
`Connection.close` has been called, or a further call of `aclose` will see to it,
exactly if nobody cancelled `aclose` while it awaited the outcome of
`Connection.close` and this did not raise. -/
theorem shutdown_completes_iff [Inhabited ε] (actions : List (ConnectionAction ω ε ρ))
    (ended : FirstEnded (actions.foldl act (fresh ω ε ρ))) :
    Signalled (actions.foldl act (fresh ω ε ρ)) ∧ CloseAttempted (actions.foldl act (fresh ω ε ρ)) ∨
        StillCloses (actions.foldl act (fresh ω ε ρ)) ↔
      Along act (fun s action => ConnectionAction.Completes s action) (fresh ω ε ρ) actions := by
  rw [shutDown_iff (reached_of_reaches (reaches_foldl_act actions)) ended,
    last_iff (fun _ action held => willSignal_act held action) (reached_along actions .refl)]
  exact and_iff_right (.inl rfl)

/-- One call of `aclose` from its beginning to its end. -/
def closingRun : List (ConnectionAction Unit Unit Unit) :=
  [.aclose, .work (.ok ()), .work (.ok ()), .work (.ok ()), .work (.ok ()), .callback, .resumeClosing 0,
    .work (.ok ()), .resumeClosing 0]

theorem closing_run_completes :
    Signalled (closingRun.foldl act (fresh Unit Unit Unit)) ∧
        CloseAttempted (closingRun.foldl act (fresh Unit Unit Unit)) ∨
      StillCloses (closingRun.foldl act (fresh Unit Unit Unit)) := by
  refine (shutdown_completes_iff closingRun (.inl rfl)).mpr ?_
  simp [closingRun, Along, ConnectionAction.Completes]

/-- `aclose` is cancelled while it waits. -/
def cancelledRun : List (ConnectionAction Unit Unit Unit) :=
  [.aclose, .cancelClosing 0, .work (.ok ()), .work (.ok ())]

/-- `Connection.close` raises. -/
def raisingRun : List (ConnectionAction Unit Unit Unit) :=
  [.aclose, .work (.ok ()), .work (.ok ()), .work (.error ()), .work (.ok ()), .callback, .resumeClosing 0]

/-- The first call of `aclose` has ended and the queue has drained, but nobody
will shut the connection down any more. -/
def Stranded (s : AsyncConnection ω ε ρ) : Prop :=
  FirstEnded s ∧ s.queue = [] ∧ s.worker = .idle ∧ ¬ (Signalled s ∧ CloseAttempted s ∨ StillCloses s)

/-- Of a cancelled `aclose` the worker leaves `Connection.close` out, and then
waits for ever; so it does if `Connection.close` raises. -/
theorem unfinished_close_never_signals :
    Stranded (cancelledRun.foldl act (fresh Unit Unit Unit)) ∧ Stranded (raisingRun.foldl act (fresh Unit Unit Unit)) := by
  constructor
  · refine ⟨.inr rfl, rfl, rfl, ?_⟩
    rintro (⟨signal | stopped, _⟩ | still)
    · cases signal
    · cases stopped
    · cases still
  · refine ⟨.inr rfl, rfl, rfl, ?_⟩
    rintro (⟨signal | stopped, _⟩ | still)
    · cases signal
    · cases stopped
    · cases still

end AsyncConnection

end PyAds
