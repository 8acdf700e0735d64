import PyAds.AsyncWorkerThreads
import PyAds.Base.Runs
import Mathlib.Data.List.TakeWhile

/-! Accepted calls and the shutdown signal. A thread that has checked the closed
flag may be so late with its call that `aclose` has put the signal into the queue
before it: the worker then never gets to the call. -/
namespace PyAds
open Runs

namespace SharedConnection
variable {ω ε ρ : Type} {s t : SharedConnection ω ε ρ}

/-- When the worker has stopped, it has taken each call of `_submit` that has
returned a future. -/
def NoneLost (s : SharedConnection ω ε ρ) : Prop :=
  s.worker = .stopped → ∀ i op, s.operation? i = some (.client op) → s.accepted i = true → .call i ∈ s.taken

/-- A client puts no call into the queue once `aclose` has put the signal there. -/
def PutsBeforeSignal (s : SharedConnection ω ε ρ) : ThreadAction ω ε ρ → Prop
  | .put i => ∀ op loop future, s.calls[i]? = some ⟨.client op, loop, future, .checked⟩ →
    .shutdownSignal ∉ s.queue ∧ s.worker ≠ .stopped
  | _ => True

/-! ## The order of the queue -/

/-- All that was put into the queue. -/
def puts (s : SharedConnection ω ε ρ) : List QueueItem := s.taken ++ s.queue

/-- The signal, and what was put into the queue behind it. -/
def behind (s : SharedConnection ω ε ρ) : List QueueItem := s.puts.dropWhile (· != .shutdownSignal)

/-- Each accepted call was put into the queue once, and the worker stops at the first signal. -/
structure Placed (s : SharedConnection ω ε ρ) : Prop where
  accepted : ∀ i, .call i ∈ s.puts ↔ s.accepted i = true
  once : ∀ i, s.puts.count (.call i) ≤ 1
  running : s.worker ≠ .stopped → .shutdownSignal ∉ s.taken
  stopped : s.worker = .stopped → ∃ before, s.taken = before ++ [.shutdownSignal] ∧ .shutdownSignal ∉ before

/-- No client call is behind the signal. -/
def InTime (s : SharedConnection ω ε ρ) : Prop :=
  ∀ i op, s.operation? i = some (.client op) → .call i ∉ s.behind

theorem dropWhile_ne_concat [DecidableEq α] (values : List α) (stop value : α) :
    (values ++ [value]).dropWhile (· != stop) =
      if stop ∈ values ∨ value = stop then values.dropWhile (· != stop) ++ [value] else [] := by
  induction values with
  | nil => by_cases same : value = stop <;> simp [same]
  | cons head rest ih =>
    by_cases same : head = stop
    · simp [same]
    · simp [same, ih, Ne.symm same]

/-- What is put into the queue last. -/
theorem behind_append (queue : t.queue = s.queue ++ [item]) (taken : t.taken = s.taken) :
    t.behind = if .shutdownSignal ∈ s.puts ∨ item = .shutdownSignal then s.behind ++ [item] else [] := by
  rw [behind, puts, queue, taken, ← List.append_assoc, dropWhile_ne_concat]
  rfl

theorem Placed.of_puts (held : Placed s) (puts : t.puts = s.puts) (worker : t.worker = s.worker)
    (taken : t.taken = s.taken) (accepted : ∀ i, t.accepted i = s.accepted i) : Placed t := by
  constructor
  · intro i
    rw [puts, accepted]
    exact held.accepted i
  · rw [puts]
    exact held.once
  · rw [worker, taken]
    exact held.running
  · rw [worker, taken]
    exact held.stopped

theorem Placed.aside (held : Placed s) (step : Aside s t) : Placed t := by
  refine held.of_puts ?_ step.worker step.taken step.accepted
  rw [puts, step.taken, step.queue, puts]

theorem Placed.check (held : Placed s) (operation : Operation ω) (loop : Nat) : Placed (s.check operation loop) := by
  rcases check_cases s operation loop with same | ⟨closed, call, waiting, same⟩
  · rwa [same]
  · rw [same]
    exact held.of_puts rfl rfl rfl (accepted_append call waiting closed)

theorem Placed.put (held : Placed s) (i : Nat) : Placed (s.put i) := by
  rcases put_cases s i with same | ⟨call, own, checked, same⟩
  · rwa [same]
  · have new : QueueItem.call i ∉ s.puts := by
      rw [held.accepted, SharedConnection.accepted, own]
      simp [checked, CallStage.accepted]
    have all : (s.put i).puts = s.puts ++ [.call i] := by
      rw [same, puts, puts, List.append_assoc]
      rfl
    constructor
    · intro j
      rw [all, List.mem_append, List.mem_singleton, held.accepted, same]
      change _ ↔ (s.setStage i .queued).accepted j = true
      rw [accepted_put own, QueueItem.call.injEq]
    · intro j
      rw [all, List.count_append]
      by_cases here : j = i
      · subst here
        simp [List.count_eq_zero_of_not_mem new]
      · have once := held.once j
        simpa [Ne.symm here] using once
    · rw [same]
      exact held.running
    · rw [same]
      exact held.stopped

theorem Placed.putSignal (held : Placed s) (i : Nat) : Placed (s.putSignal i) := by
  rcases putSignal_cases s i with same | ⟨call, own, received, same⟩
  · rwa [same]
  · have calls := sameCalls_setStage own .signalled (by rw [received]; rfl)
    have all : (s.putSignal i).puts = s.puts ++ [.shutdownSignal] := by
      rw [same, puts, puts, List.append_assoc]
      rfl
    constructor
    · intro j
      rw [all, List.mem_append, List.mem_singleton, held.accepted, same, ← calls.accepted j]
      simp
      rfl
    · intro j
      rw [all, List.count_append]
      have once := held.once j
      simpa using once
    · rw [same]
      exact held.running
    · rw [same]
      exact held.stopped

/-- The worker goes on with what it has in hand. -/
theorem Placed.proceed (held : Placed s) (puts : t.puts = s.puts) (taken : t.taken = s.taken)
    (accepted : ∀ i, t.accepted i = s.accepted i) (before : s.worker ≠ .stopped) (after : t.worker ≠ .stopped) :
    Placed t := by
  constructor
  · intro i
    rw [puts, accepted]
    exact held.accepted i
  · rw [puts]
    exact held.once
  · intro _
    rw [taken]
    exact held.running before
  · exact fun stopped => absurd stopped after

theorem puts_work (s : SharedConnection ω ε ρ) (outcome : Except ε ρ) : (s.work outcome).puts = s.puts := by
  unfold work
  split
  · split
    · rfl
    · rename_i next
      simp [puts, next]
    · rename_i next
      simp [puts, next]
  · split <;> rfl
  · rfl
  · split <;> rfl
  · rfl
  · rfl

theorem Placed.work (held : Placed s) (outcome : Except ε ρ) : Placed (s.work outcome) := by
  have all := puts_work s outcome
  unfold SharedConnection.work at all ⊢
  split
  · rename_i idle
    have before : s.worker ≠ .stopped := by simp [idle]
    simp only [idle] at all
    split
    · exact held
    · rename_i i rest next
      simp only [next] at all
      constructor
      · intro j
        rw [all]
        exact held.accepted j
      · rw [all]
        exact held.once
      · intro _ member
        rcases List.mem_append.mp member with first | last
        · exact held.running before first
        · cases List.mem_singleton.mp last
      · simp
    · rename_i rest next
      simp only [next] at all
      constructor
      · intro j
        rw [all]
        exact held.accepted j
      · rw [all]
        exact held.once
      · simp
      · exact fun _ => ⟨s.taken, rfl, held.running before⟩
  · rename_i own
    split
    · exact held.proceed rfl rfl (fun _ => rfl) (by simp [own]) (by simp)
    · exact held.proceed rfl rfl (fun _ => rfl) (by simp [own]) (by simp)
  · rename_i own
    exact held.proceed rfl rfl (fun _ => rfl) (by simp [own]) (by simp)
  · rename_i own
    split
    · exact held.proceed rfl rfl (fun _ => rfl) (by simp [own]) (by simp)
    · exact held.proceed rfl rfl (fun _ => rfl) (by simp [own]) (by simp)
  · exact held
  · exact held

theorem Placed.act (held : Placed s) (action : ThreadAction ω ε ρ) : Placed (s.act action) := by
  cases action with
  | check operation loop => exact held.check operation loop
  | put i => exact held.put i
  | receive i => exact held.aside (aside_receive i)
  | putSignal i => exact held.putSignal i
  | join i => exact held.aside (aside_join i)
  | cancel i => exact held.aside (aside_cancel i)
  | closeLoop loop => exact held.aside (aside_closeLoop loop)
  | work outcome => exact held.work outcome
  | callback loop => exact held.aside (aside_callback loop)

theorem placed_fresh : Placed (fresh ω ε ρ) :=
  ⟨by simp [fresh, puts, accepted], by simp [fresh, puts], by simp [fresh], by simp [fresh]⟩

/-! ## What is put behind the signal -/

theorem Placed.signal_iff (held : Placed s) :
    .shutdownSignal ∈ s.puts ↔ .shutdownSignal ∈ s.queue ∨ s.worker = .stopped := by
  rw [puts, List.mem_append, or_comm]
  refine or_congr_right ⟨fun member => ?_, fun stopped => ?_⟩
  · by_contra running
    exact held.running running member
  · obtain ⟨before, taken, _⟩ := held.stopped stopped
    rw [taken]
    exact List.mem_append_right _ List.mem_cons_self

theorem behind_eq_nil (unsent : .shutdownSignal ∉ s.puts) : s.behind = [] := by
  rw [behind, List.dropWhile_eq_nil_iff]
  intro item member
  simp only [bne_iff_ne, ne_eq]
  rintro rfl
  exact unsent member

theorem InTime.congr (behind : t.behind = s.behind) (operation : ∀ i, t.operation? i = s.operation? i) :
    InTime t ↔ InTime s := by
  simp only [InTime, behind, operation]

theorem inTime_aside (step : Aside s t) : InTime t ↔ InTime s := by
  refine InTime.congr ?_ step.operation
  rw [behind, puts, step.taken, step.queue, behind, puts]

theorem inTime_check (held : Placed s) (operation : Operation ω) (loop : Nat) :
    InTime (s.check operation loop) ↔ InTime s := by
  rcases check_cases s operation loop with same | ⟨closed, call, waiting, same⟩
  · rw [same]
  · rw [same]
    have known (i : Nat) (member : QueueItem.call i ∈ s.behind) :
        ({ s with closed, calls := s.calls ++ [call] }).operation? i = s.operation? i := by
      have accepted := (held.accepted i).mp (List.dropWhile_sublist _ |>.subset member)
      rw [operation?, operation?, getElem?_append_of_accepted call accepted]
    constructor
    · intro inTime i op client member
      exact inTime i op ((known i member).trans client) member
    · intro inTime i op client member
      exact inTime i op ((known i member).symm.trans client) member

/-- A call that is put into the queue is behind the signal if the signal is there. -/
theorem inTime_put_own (own : s.calls[i]? = some ⟨operation, loop, future, .checked⟩) :
    InTime { s.setStage i .queued with queue := s.queue ++ [.call i] } ↔
      InTime s ∧ (.shutdownSignal ∈ s.puts → ∀ op, operation ≠ .client op) := by
  have same (j : Nat) :
      ({ s.setStage i .queued with queue := s.queue ++ [QueueItem.call i] }).operation? j = s.operation? j := by
    simp only [operation?, setStage, List.getElem?_modify]
    by_cases here : i = j <;> cases s.calls[j]? <;> simp [here]
  have last : ({ s.setStage i .queued with queue := s.queue ++ [QueueItem.call i] }).behind =
      if .shutdownSignal ∈ s.puts ∨ QueueItem.call i = .shutdownSignal then s.behind ++ [.call i] else [] :=
    behind_append rfl rfl
  by_cases sent : .shutdownSignal ∈ s.puts
  · rw [if_pos (.inl sent)] at last
    simp only [InTime, same, last, List.mem_append, List.mem_singleton, not_or, QueueItem.call.injEq]
    constructor
    · intro inTime
      refine ⟨fun j op client => (inTime j op client).1, fun _ op client => ?_⟩
      refine (inTime i op ?_).2 rfl
      rw [operation?, own, Option.map_some, client]
    · rintro ⟨inTime, other⟩ j op client
      refine ⟨inTime j op client, ?_⟩
      rintro rfl
      rw [operation?, own, Option.map_some, Option.some.injEq] at client
      exact other sent op client
  · rw [if_neg (by simp [sent])] at last
    refine iff_of_true (fun j op _ => ?_) ⟨fun j op _ => ?_, fun now => absurd now sent⟩
    · rw [last]
      exact List.not_mem_nil
    · rw [behind_eq_nil sent]
      exact List.not_mem_nil

theorem inTime_put (held : Placed s) (i : Nat) : InTime (s.put i) ↔ InTime s ∧ PutsBeforeSignal s (.put i) := by
  unfold SharedConnection.put PutsBeforeSignal
  split
  · rename_i operation loop future own
    rw [inTime_put_own own, held.signal_iff]
    refine and_congr_right fun _ => ⟨fun late op loop future client => ?_, fun early sent op client => ?_⟩
    · rw [own, Option.some.injEq, ThreadCall.mk.injEq] at client
      rw [← not_or]
      exact fun sent => late sent op client.1
    · obtain ⟨unsent, running⟩ := early op loop future (by rw [own, client])
      exact sent.elim unsent running
  · rename_i other
    refine (and_iff_left fun op loop future own => ?_).symm
    exact absurd own (other _ _ _)

theorem inTime_putSignal (i : Nat) : InTime (s.putSignal i) ↔ InTime s := by
  rcases putSignal_cases s i with same | ⟨call, own, received, same⟩
  · rw [same]
  · have calls := sameCalls_setStage own .signalled (by rw [received]; rfl)
    have all : (s.putSignal i).behind = s.behind ++ [.shutdownSignal] := by
      have queue : (s.putSignal i).queue = s.queue ++ [.shutdownSignal] := by rw [same]
      have taken : (s.putSignal i).taken = s.taken := by rw [same]; rfl
      rw [behind_append queue taken, if_pos (Or.inr rfl)]
    have operation (j : Nat) : (s.putSignal i).operation? j = s.operation? j := by
      rw [same]
      exact calls.operation j
    simp [InTime, all, operation]

theorem inTime_work (outcome : Except ε ρ) : InTime (s.work outcome) ↔ InTime s := by
  refine InTime.congr ?_ fun i => ?_
  · rw [behind, puts_work, behind]
  · have calls : (s.work outcome).calls = s.calls := by
      unfold work
      split
      · split <;> rfl
      · split <;> rfl
      · rfl
      · split <;> rfl
      · rfl
      · rfl
    rw [operation?, operation?, calls]

theorem inTime_act (held : Placed s) (action : ThreadAction ω ε ρ) :
    InTime (s.act action) ↔ InTime s ∧ PutsBeforeSignal s action := by
  cases action with
  | check operation loop => exact (inTime_check held operation loop).trans (and_iff_left trivial).symm
  | put i => exact inTime_put held i
  | receive i => exact (inTime_aside (aside_receive i)).trans (and_iff_left trivial).symm
  | putSignal i => exact (inTime_putSignal i).trans (and_iff_left trivial).symm
  | join i => exact (inTime_aside (aside_join i)).trans (and_iff_left trivial).symm
  | cancel i => exact (inTime_aside (aside_cancel i)).trans (and_iff_left trivial).symm
  | closeLoop loop => exact (inTime_aside (aside_closeLoop loop)).trans (and_iff_left trivial).symm
  | work outcome => exact (inTime_work outcome).trans (and_iff_left trivial).symm
  | callback loop => exact (inTime_aside (aside_callback loop)).trans (and_iff_left trivial).symm

/-- A worker that has stopped has left behind what was put behind the signal. -/
theorem noneLost_iff (held : Placed s) : NoneLost s ↔ (s.worker = .stopped → InTime s) := by
  refine imp_congr_right fun stopped => ?_
  obtain ⟨before, taken, unsent⟩ := held.stopped stopped
  have behind : s.behind = .shutdownSignal :: s.queue := by
    rw [SharedConnection.behind, puts, taken, List.append_assoc, List.dropWhile_append_of_pos]
    · simp
    · intro item member
      rw [bne_iff_ne]
      rintro rfl
      exact unsent member
  constructor
  · intro none_ i op client member
    rw [behind, List.mem_cons] at member
    have waiting : .call i ∈ s.queue := member.resolve_left (by simp)
    have accepted := (held.accepted i).mp (List.mem_append_right _ waiting)
    have twice : 1 + 1 ≤ s.puts.count (.call i) := by
      rw [puts, List.count_append]
      exact Nat.add_le_add (List.count_pos_iff.mpr (none_ i op client accepted)) (List.count_pos_iff.mpr waiting)
    exact absurd (Nat.le_trans twice (held.once i)) (by omega)
  · intro inTime i op client accepted
    have member := (held.accepted i).mpr accepted
    rw [puts, List.mem_append] at member
    refine member.resolve_right fun waiting => inTime i op client ?_
    rw [behind]
    exact List.mem_cons_of_mem _ waiting

/-- The worker stops without having lost an accepted call exactly if no client
was so late between the check of the closed flag and the queue that the signal
was there first. -/
theorem none_lost_iff (actions : List (ThreadAction ω ε ρ)) :
    NoneLost (actions.foldl act (fresh ω ε ρ)) ↔
      ((actions.foldl act (fresh ω ε ρ)).worker = .stopped → Along act PutsBeforeSignal (fresh ω ε ρ) actions) := by
  have law : Throughout act Placed (fresh ω ε ρ) actions :=
    throughout_of_kept (fun _ action held _ => held.act action) placed_fresh along_true
  rw [noneLost_iff (law _ (foldl_mem_states ..)),
    last_iff (fun _ action held => inTime_act held action) (along_of_throughout law)]
  refine imp_congr_right fun _ => and_iff_right ?_
  simp [InTime, fresh, behind, puts]

/-- A call is checked, and reaches the queue only after `aclose` has put the
signal there. -/
def lateRun : List (ThreadAction Unit Unit Unit) :=
  [.check (.client ()) 0, .check .closeConnection 1, .put 1, .work (.ok ()), .work (.ok ()), .work (.ok ()),
    .work (.ok ()), .callback 1, .receive 1, .putSignal 1, .put 0, .work (.ok ())]

theorem late_call_lost : ¬ NoneLost (lateRun.foldl act (fresh Unit Unit Unit)) := by
  intro none_
  have taken : QueueItem.call 0 ∈ (lateRun.foldl act (fresh Unit Unit Unit)).taken := none_ rfl 0 () rfl rfl
  exact absurd taken (by decide)

end SharedConnection

end PyAds
