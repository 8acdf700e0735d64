import PyAds.AsyncWorkerClose
import PyAds.Base.Runs

/-! Runs of an asynchronous connection as lists of actions. An action names who
takes the next step; where nothing is to be done it changes nothing. -/
namespace PyAds

/-- One step of a client, of a call of `aclose`, of the worker, or of the event
loop. The outcome matters where the worker is in a function. -/
inductive ConnectionAction (ω ε ρ : Type) where
  | submit (op : ω)
  | cancel (i : Nat)
  | aclose
  | cancelClosing (k : Nat)
  | resumeClosing (k : Nat)
  | work (outcome : Except ε ρ)
  | callback

namespace AsyncConnection
variable {ω ε ρ : Type}

/-- A client cancels the future of a call that a client has submitted. -/
def cancelClient (s : AsyncConnection ω ε ρ) (i : Nat) : AsyncConnection ω ε ρ :=
  match s.operation? i with
  | some (.client _) => s.cancel i
  | _ => s

/-- The task of `aclose` is cancelled, and with it the future that it awaits. -/
def cancelClosing (s : AsyncConnection ω ε ρ) (k : Nat) : AsyncConnection ω ε ρ :=
  match s.closings[k]? with
  | some (.awaiting i) => { s.cancel i with closings := s.closings.set k .raised }
  | some .joining => { s with closings := s.closings.set k .raised }
  | _ => s

/-- `aclose` from the outcome of its call on, or from the end of the worker. -/
def resumeClosing (s : AsyncConnection ω ε ρ) (k : Nat) : AsyncConnection ω ε ρ :=
  match s.closings[k]? with
  | some (.awaiting i) =>
    match s.future? i with
    | some (.finished (.ok _)) =>
      { s with queue := s.queue ++ [.shutdownSignal], closings := s.closings.set k .joining }
    | some (.finished (.error _)) | some .cancelled => { s with closings := s.closings.set k .raised }
    | _ => s
  | some .joining =>
    match s.worker with
    | .stopped => { s with closings := s.closings.set k .closed }
    | _ => s
  | _ => s

/-- The next step of `_worker_main`. -/
def work (s : AsyncConnection ω ε ρ) (outcome : Except ε ρ) : AsyncConnection ω ε ρ :=
  match s.worker with
  | .idle =>
    match s.queue with
    | [] => s
    | item :: rest => { s with queue := rest }.dequeue item
  | .dequeued i => s.checkCancelled i
  | .executing i => { s with worker := .executed i outcome }.record (.ended i outcome)
  | .executed i outcome => { s with worker := .idle, callbacks := s.callbacks ++ [(i, outcome)] }
  | .stopped => s

/-- The event loop runs the next callback. -/
def runCallback (s : AsyncConnection ω ε ρ) : AsyncConnection ω ε ρ :=
  match s.callbacks with
  | [] => s
  | (i, outcome) :: rest => { s with callbacks := rest }.setOutcomeIfPending i outcome

def act (s : AsyncConnection ω ε ρ) : ConnectionAction ω ε ρ → AsyncConnection ω ε ρ
  | .submit op => s.submit op
  | .cancel i => s.cancelClient i
  | .aclose => s.aclose
  | .cancelClosing k => s.cancelClosing k
  | .resumeClosing k => s.resumeClosing k
  | .work outcome => s.work outcome
  | .callback => s.runCallback

variable {s : AsyncConnection ω ε ρ}

theorem reaches_cancelClient (i : Nat) : Reaches s (s.cancelClient i) := by
  unfold cancelClient
  split
  · rename_i op found
    obtain ⟨⟨operation, future⟩, there, rfl⟩ := Option.map_eq_some_iff.mp found
    exact .single (.cancel there)
  · exact .refl

theorem reaches_cancelClosing (k : Nat) : Reaches s (s.cancelClosing k) := by
  unfold cancelClosing
  split
  · exact .single (.cancelClosing (by assumption))
  · exact .single (.cancelJoining (by assumption))
  · exact .refl

theorem reaches_resumeClosing [Inhabited ε] (k : Nat) : Reaches s (s.resumeClosing k) := by
  unfold resumeClosing
  split
  · rename_i own
    split
    · rename_i done
      exact .single (.shutDown own done)
    · rename_i done
      exact .single (.closeRaised own (.inl done))
    · rename_i done
      exact .single (@Step.closeRaised _ _ _ _ _ _ default own (.inr done))
    · exact .refl
  · rename_i own
    split
    · rename_i stopped
      exact .single (.joined own stopped)
    · exact .refl
  · exact .refl

theorem reaches_work (outcome : Except ε ρ) : Reaches s (s.work outcome) := by
  unfold work
  split
  · rename_i idle
    split
    · exact .refl
    · rename_i next
      exact .single (.dequeue idle next)
  · exact .single (.checkCancelled (by assumption))
  · exact .single (.execute (by assumption) outcome)
  · exact .single (.callSoon (by assumption))
  · exact .refl

theorem reaches_runCallback : Reaches s s.runCallback := by
  unfold runCallback
  split
  · exact .refl
  · exact .single (.callback (by assumption))

/-- An action is a step, or changes nothing. -/
theorem reaches_act [Inhabited ε] (action : ConnectionAction ω ε ρ) : Reaches s (s.act action) := by
  cases action with
  | submit op => exact .single (.submit op)
  | cancel i => exact reaches_cancelClient i
  | aclose => exact .single .aclose
  | cancelClosing k => exact reaches_cancelClosing k
  | resumeClosing k => exact reaches_resumeClosing k
  | work outcome => exact reaches_work outcome
  | callback => exact reaches_runCallback

theorem reaches_foldl_act [Inhabited ε] (actions : List (ConnectionAction ω ε ρ)) : Reaches s (actions.foldl act s) := by
  induction actions generalizing s with
  | nil => exact .refl
  | cons action actions ih => exact (reaches_act action).trans ih

/-! ## What an action does to calls -/

theorem cancelled_cancel (cancelled : (s.cancel j).future? i = some .cancelled) :
    i = j ∨ s.future? i = some .cancelled := by
  rcases cancel_cases s j with ⟨_, same⟩ | same
  · rw [same] at cancelled
    change (s.setFuture j .cancelled).future? i = _ at cancelled
    rw [future?_setFuture] at cancelled
    by_cases here : j = i
    · exact .inl here.symm
    · rw [if_neg here] at cancelled
      exact .inr cancelled
  · rw [same] at cancelled
    exact .inr cancelled

theorem cancelled_setOutcomeIfPending (cancelled : (s.setOutcomeIfPending j outcome).future? i = some .cancelled) :
    s.future? i = some .cancelled := by
  rcases setOutcomeIfPending_cases s j outcome with ⟨_, same⟩ | ⟨_, same⟩
  · rw [same, future?_setFuture] at cancelled
    by_cases here : j = i
    · rw [if_pos here] at cancelled
      obtain ⟨_, _, other⟩ := Option.map_eq_some_iff.mp cancelled
      cases other
    · rwa [if_neg here] at cancelled
  · rwa [same] at cancelled

theorem operation?_enqueue (operation : Operation ω) (i : Nat) :
    (s.enqueue operation).operation? i = if i = s.calls.length then some operation else s.operation? i := by
  simp only [operation?, AsyncConnection.enqueue]
  split
  · rename_i last
    rw [last, List.getElem?_concat_length, Option.map_some]
  · rename_i other
    by_cases inside : i < s.calls.length
    · rw [List.getElem?_append_left inside]
    · rw [List.getElem?_eq_none (by rw [List.length_append, List.length_singleton]; omega),
        List.getElem?_eq_none (by omega)]

/-- A call keeps its function. -/
theorem operation?_step {t : AsyncConnection ω ε ρ} (step : Step s t) (found : s.operation? i = some operation) :
    t.operation? i = some operation := by
  have enqueued (other : Operation ω) : (s.enqueue other).operation? i = some operation := by
    rw [operation?_enqueue, if_neg, found]
    rintro rfl
    rw [operation?, List.getElem?_eq_none (Nat.le_refl _)] at found
    cases found
  cases step with
  | submit op =>
    unfold submit
    split
    · exact found
    · exact enqueued _
  | cancel own => rwa [(cancel_frame s _).2.2.1]
  | aclose =>
    unfold aclose
    split
    · exact found
    · exact enqueued .closeConnection
  | cancelClosing own =>
    change (s.cancel _).operation? i = _
    rwa [(cancel_frame s _).2.2.1]
  | @dequeue item rest _ idle next => cases item <;> exact found
  | @checkCancelled _ i own => rcases checkCancelled_cases s i with ⟨_, same⟩ | same <;> rw [same] <;> exact found
  | @callback i outcome rest _ next =>
    rcases setOutcomeIfPending_cases { s with callbacks := rest } i outcome with ⟨_, same⟩ | ⟨_, same⟩
    · rw [same, operation?_setFuture]
      exact found
    · rw [same]
      exact found
  | _ => exact found

theorem operation?_reaches {t : AsyncConnection ω ε ρ} (reached : Reaches s t)
    (found : s.operation? i = some operation) : t.operation? i = some operation := by
  induction reached with
  | refl => exact found
  | tail _ step held => exact operation?_step step held

/-- A future is cancelled by a client, or with the task of `aclose` that awaits it. -/
theorem cancelled_act {action : ConnectionAction ω ε ρ} (cancelled : (s.act action).future? i = some .cancelled) :
    s.future? i = some .cancelled ∨ action = .cancel i ∨
      ∃ k, action = .cancelClosing k ∧ s.closings[k]? = some (.awaiting i) := by
  have enqueued (operation : Operation ω) (there : (s.enqueue operation).future? i = some .cancelled) :
      s.future? i = some .cancelled := by
    rcases future?_enqueue operation there with before | ⟨_, pending⟩
    · exact before
    · cases pending
  cases action with
  | submit op =>
    simp only [act, submit] at cancelled
    split at cancelled
    · exact .inl cancelled
    · exact .inl (enqueued _ cancelled)
  | cancel j =>
    simp only [act, cancelClient] at cancelled
    split at cancelled
    · rcases cancelled_cancel cancelled with rfl | before
      · exact .inr (.inl rfl)
      · exact .inl before
    · exact .inl cancelled
  | aclose =>
    simp only [act, aclose] at cancelled
    split at cancelled
    · exact .inl cancelled
    · exact .inl (enqueued .closeConnection cancelled)
  | cancelClosing k =>
    simp only [act, cancelClosing] at cancelled
    split at cancelled
    · rename_i own
      rcases cancelled_cancel cancelled with rfl | before
      · exact .inr (.inr ⟨k, rfl, own⟩)
      · exact .inl before
    · exact .inl cancelled
    · exact .inl cancelled
  | resumeClosing k =>
    simp only [act, resumeClosing] at cancelled
    split at cancelled
    · split at cancelled <;> exact .inl cancelled
    · split at cancelled <;> exact .inl cancelled
    · exact .inl cancelled
  | work outcome =>
    simp only [act, work] at cancelled
    split at cancelled
    · split at cancelled
      · exact .inl cancelled
      · rename_i item _ _
        cases item <;> exact .inl cancelled
    · rcases checkCancelled_cases s _ with ⟨_, same⟩ | same <;> rw [same] at cancelled <;> exact .inl cancelled
    · exact .inl cancelled
    · exact .inl cancelled
    · exact .inl cancelled
  | callback =>
    simp only [act, runCallback] at cancelled
    split at cancelled
    · exact .inl cancelled
    · have before := cancelled_setOutcomeIfPending cancelled
      exact .inl before

end AsyncConnection

end PyAds
