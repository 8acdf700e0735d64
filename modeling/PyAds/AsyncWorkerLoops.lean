import PyAds.AsyncWorkerThreads
import PyAds.Base.Runs

/-! The thread of the worker and the event loops of its clients. The worker
catches what a call raises, but not what `call_soon_threadsafe` raises when the
loop has been closed in the meantime. -/
namespace PyAds
open Runs

namespace SharedConnection
variable {ω ε ρ : Type} {s t : SharedConnection ω ε ρ}

/-- The worker has not ended but on the shutdown signal, and each accepted call
is in the queue or in hand, was executed, or was left out as cancelled. -/
structure Survives (s : SharedConnection ω ε ρ) : Prop where
  alive : s.worker ≠ .died
  stopped : s.worker = .stopped → .shutdownSignal ∈ s.taken
  served : ∀ i, s.accepted i = true → .call i ∈ s.queue ∨ s.worker = .dequeued i ∨ i ∈ s.begun ∨ i ∈ s.skipped
  skipped : ∀ i ∈ s.skipped, s.future? i = some .cancelled

/-- Where the worker delivers an outcome, the loop of the call is open. -/
def DeliversToOpenLoop (s : SharedConnection ω ε ρ) : ThreadAction ω ε ρ → Prop
  | .work _ => ∀ i outcome, s.worker = .executed i outcome → s.loopClosed i = false
  | _ => True

theorem Survives.extend (held : Survives s) (worker : t.worker = s.worker) (taken : t.taken = s.taken)
    (begun : t.begun = s.begun) (skipped : t.skipped = s.skipped) (queue : ∀ item ∈ s.queue, item ∈ t.queue)
    (accepted : ∀ i, t.accepted i = true → s.accepted i = true ∨ .call i ∈ t.queue)
    (cancelled : ∀ i, s.future? i = some .cancelled → t.future? i = some .cancelled) : Survives t := by
  constructor
  · rw [worker]
    exact held.alive
  · rw [worker, taken]
    exact held.stopped
  · intro i member
    rw [worker, begun, skipped]
    rcases accepted i member with before | waiting
    · rcases held.served i before with waiting | done
      · exact .inl (queue _ waiting)
      · exact .inr done
    · exact .inl waiting
  · intro i member
    rw [skipped] at member
    exact cancelled i (held.skipped i member)

theorem Survives.aside (held : Survives s) (step : Aside s t) : Survives t := by
  refine held.extend step.worker step.taken step.begun step.skipped ?_ ?_ step.cancelled
  · rw [step.queue]
    exact fun _ member => member
  · intro i member
    rw [step.accepted] at member
    exact .inl member

theorem Survives.check (held : Survives s) (operation : Operation ω) (loop : Nat) : Survives (s.check operation loop) := by
  rcases check_cases s operation loop with same | ⟨closed, call, waiting, same⟩
  · rwa [same]
  · rw [same]
    refine held.extend rfl rfl rfl rfl (fun _ member => member) ?_ ?_
    · intro i member
      rw [accepted_append call waiting] at member
      exact .inl member
    · intro i cancelled
      obtain ⟨own, found, _⟩ := Option.map_eq_some_iff.mp cancelled
      change (s.calls ++ [call])[i]?.map _ = _
      rwa [List.getElem?_append_left (List.getElem?_eq_some_iff.mp found).1]

/-- A call that is accepted is in the queue. -/
theorem Survives.put (held : Survives s) (i : Nat) : Survives (s.put i) := by
  rcases put_cases s i with same | ⟨call, own, _, same⟩
  · rwa [same]
  · rw [same]
    refine held.extend rfl rfl rfl rfl (fun _ => List.mem_append_left _) ?_ ?_
    · intro j member
      rcases (accepted_put own j).mp member with before | rfl
      · exact .inl before
      · exact .inr (List.mem_append_right _ List.mem_cons_self)
    · exact fun j => cancelled_setStage

theorem Survives.putSignal (held : Survives s) (i : Nat) : Survives (s.putSignal i) := by
  rcases putSignal_cases s i with same | ⟨call, own, received, same⟩
  · rwa [same]
  · rw [same]
    have calls := sameCalls_setStage own .signalled (by rw [received]; rfl)
    refine held.extend rfl rfl rfl rfl (fun _ => List.mem_append_left _) ?_ calls.cancelled
    intro j member
    exact .inl ((calls.accepted j).symm.trans member)

/-- The worker takes a call from the queue. -/
theorem Survives.take (held : Survives s) (idle : s.worker = .idle) (next : s.queue = .call i :: rest) :
    Survives { s with queue := rest, taken := s.taken ++ [.call i], worker := .dequeued i } where
  alive := by simp
  stopped := by simp
  served j member := by
    rcases held.served j member with waiting | own | done
    · rw [next, List.mem_cons] at waiting
      rcases waiting with first | later
      · cases first
        exact .inr (.inl rfl)
      · exact .inl later
    · rw [idle] at own
      cases own
    · exact .inr (.inr done)
  skipped := held.skipped

theorem Survives.takeSignal (held : Survives s) (idle : s.worker = .idle) (next : s.queue = .shutdownSignal :: rest) :
    Survives { s with queue := rest, taken := s.taken ++ [.shutdownSignal], worker := .stopped } where
  alive := by simp
  stopped _ := List.mem_append_right _ List.mem_cons_self
  served j member := by
    rcases held.served j member with waiting | own | done
    · rw [next, List.mem_cons] at waiting
      rcases waiting with first | later
      · cases first
      · exact .inl later
    · rw [idle] at own
      cases own
    · exact .inr (.inr done)
  skipped := held.skipped

theorem Survives.skip (held : Survives s) (own : s.worker = .dequeued i) (cancelled : s.future? i = some .cancelled) :
    Survives { s with worker := .idle, skipped := s.skipped ++ [i] } where
  alive := by simp
  stopped := by simp
  served j member := by
    rcases held.served j member with waiting | now | begun | skipped
    · exact .inl waiting
    · rw [own] at now
      cases now
      exact .inr (.inr (.inr (List.mem_append_right _ List.mem_cons_self)))
    · exact .inr (.inr (.inl begun))
    · exact .inr (.inr (.inr (List.mem_append_left _ skipped)))
  skipped j member := by
    rcases List.mem_append.mp member with before | now
    · exact held.skipped j before
    · cases List.mem_singleton.mp now
      exact cancelled

theorem Survives.begin_ (held : Survives s) (own : s.worker = .dequeued i) :
    Survives { s with worker := .executing i, begun := s.begun ++ [i] } where
  alive := by simp
  stopped := by simp
  served j member := by
    rcases held.served j member with waiting | now | begun | skipped
    · exact .inl waiting
    · rw [own] at now
      cases now
      exact .inr (.inr (.inl (List.mem_append_right _ List.mem_cons_self)))
    · exact .inr (.inr (.inl (List.mem_append_left _ begun)))
    · exact .inr (.inr (.inr skipped))
  skipped := held.skipped

/-- The worker goes on with what it has in hand. -/
theorem Survives.proceed (held : Survives s) {worker : ThreadWorker ε ρ} {callbacks : List (Nat × Except ε ρ)}
    (before : ∀ i, s.worker ≠ .dequeued i) (alive : worker ≠ .died) (running : worker ≠ .stopped) :
    Survives { s with worker, callbacks } where
  alive := alive
  stopped stopped := absurd stopped running
  served j member := by
    rcases held.served j member with waiting | now | done
    · exact .inl waiting
    · exact absurd now (before j)
    · exact .inr (.inr done)
  skipped := held.skipped

/-- The worker survives the delivery of an outcome exactly if the loop is open. -/
theorem survives_work_iff (held : Survives s) (outcome : Except ε ρ) :
    Survives (s.work outcome) ↔ DeliversToOpenLoop s (.work outcome) := by
  have elsewhere (other : ∀ i result, s.worker ≠ .executed i result) : DeliversToOpenLoop s (.work outcome) :=
    fun i result own => absurd own (other i result)
  unfold work
  split
  · rename_i idle
    refine iff_of_true ?_ (elsewhere (by simp [idle]))
    split
    · exact held
    · rename_i next
      exact held.take idle next
    · rename_i next
      exact held.takeSignal idle next
  · rename_i i own
    refine iff_of_true ?_ (elsewhere (by simp [own]))
    split
    · rename_i cancelled
      exact held.skip own cancelled
    · exact held.begin_ own
  · rename_i i own
    refine iff_of_true ?_ (elsewhere (by simp [own]))
    exact held.proceed (by simp [own]) (by simp) (by simp)
  · rename_i i result own
    split
    · rename_i closed
      refine iff_of_false (fun survives => survives.alive rfl) fun opened => ?_
      rw [opened i result own] at closed
      cases closed
    · rename_i opened
      refine iff_of_true (held.proceed (by simp [own]) (by simp) (by simp)) fun j other now => ?_
      rw [own] at now
      cases now
      exact Bool.eq_false_iff.mpr opened
  · rename_i stopped
    exact iff_of_true held (elsewhere (by simp [stopped]))
  · rename_i died
    exact absurd died held.alive

theorem survives_act_iff (held : Survives s) (action : ThreadAction ω ε ρ) :
    Survives (s.act action) ↔ DeliversToOpenLoop s action := by
  cases action with
  | check operation loop => exact iff_of_true (held.check operation loop) trivial
  | put i => exact iff_of_true (held.put i) trivial
  | receive i => exact iff_of_true (held.aside (aside_receive i)) trivial
  | putSignal i => exact iff_of_true (held.putSignal i) trivial
  | join i => exact iff_of_true (held.aside (aside_join i)) trivial
  | cancel i => exact iff_of_true (held.aside (aside_cancel i)) trivial
  | closeLoop loop => exact iff_of_true (held.aside (aside_closeLoop loop)) trivial
  | work outcome => exact survives_work_iff held outcome
  | callback loop => exact iff_of_true (held.aside (aside_callback loop)) trivial

theorem survives_fresh : Survives (fresh ω ε ρ) :=
  ⟨by simp [fresh], by simp [fresh], by simp [fresh, accepted], by simp [fresh]⟩

/-- The worker survives all calls of a run, and serves them, exactly if no event
loop is closed before the outcomes of its calls are delivered. -/
theorem worker_survives_iff (actions : List (ThreadAction ω ε ρ)) :
    Throughout act Survives (fresh ω ε ρ) actions ↔ Along act DeliversToOpenLoop (fresh ω ε ρ) actions :=
  invariant_iff (fun _ action held _ => survives_act_iff held action) survives_fresh along_true

/-- Once its thread has ended with an exception, the worker does nothing any more. -/
theorem died_act (died : s.worker = .died) (action : ThreadAction ω ε ρ) :
    (s.act action).worker = .died ∧ (s.act action).begun = s.begun := by
  have aside {t : SharedConnection ω ε ρ} (step : Aside s t) : t.worker = .died ∧ t.begun = s.begun := ⟨step.worker.trans died, step.begun⟩
  cases action with
  | check operation loop =>
    simp only [act]
    rcases check_cases s operation loop with same | ⟨_, _, _, same⟩ <;> rw [same] <;> exact ⟨died, rfl⟩
  | put i =>
    simp only [act]
    rcases put_cases s i with same | ⟨_, _, _, same⟩ <;> rw [same] <;> exact ⟨died, rfl⟩
  | receive i => exact aside (aside_receive i)
  | putSignal i =>
    simp only [act]
    rcases putSignal_cases s i with same | ⟨_, _, _, same⟩ <;> rw [same] <;> exact ⟨died, rfl⟩
  | join i => exact aside (aside_join i)
  | cancel i => exact aside (aside_cancel i)
  | closeLoop loop => exact aside (aside_closeLoop loop)
  | work outcome => simp only [act, work, died, and_self]
  | callback loop => exact aside (aside_callback loop)

theorem died_foldl_act (died : s.worker = .died) (actions : List (ThreadAction ω ε ρ)) :
    (actions.foldl act s).begun = s.begun := by
  induction actions generalizing s with
  | nil => rfl
  | cons action actions ih =>
    obtain ⟨stays, same⟩ := died_act died action
    exact (ih stays).trans same

/-- One loop is closed while the worker executes its call; then another loop
submits a call. -/
def abandonedRun : List (ThreadAction Unit Unit Unit) :=
  [.check (.client ()) 0, .put 0, .work (.ok ()), .work (.ok ()), .closeLoop 0, .work (.ok ()), .work (.ok ()),
    .check (.client ()) 1, .put 1]

/-- The worker does not survive the closing, and the second call is accepted but
never executed, whatever happens then. -/
theorem abandoned_call_never_executed :
    ¬ Throughout act Survives (fresh Unit Unit Unit) abandonedRun ∧
      (abandonedRun.foldl act (fresh Unit Unit Unit)).accepted 1 = true ∧
      (abandonedRun.foldl act (fresh Unit Unit Unit)).loopClosed 1 = false ∧
      ∀ later : List (ThreadAction Unit Unit Unit),
        1 ∉ (later.foldl act (abandonedRun.foldl act (fresh Unit Unit Unit))).begun := by
  have died : (abandonedRun.foldl act (fresh Unit Unit Unit)).worker = .died := rfl
  refine ⟨fun survives => ?_, rfl, rfl, fun later => ?_⟩
  · exact (survives _ (foldl_mem_states ..)).alive died
  · rw [died_foldl_act died later]
    decide

end SharedConnection

end PyAds
