import PyAds.CallbackStore
import PyAds.StepChain

/-! The notifications of one operation in `notify` mode, from their registration
on the worker to their deletion. The coroutine knows them only through the
results of two calls, and may be cancelled before it has either. -/
namespace PyAds
open Runs

/-- How waiting for an operation ends. -/
inductive Outcome where
  | completed (values : OrderedDict String PyVal)
  | failed (error : StepChainError)
  | cancelled

/-- The coroutine before its `try` block. -/
inductive Coroutine where
  | created
  | awaiting
  | resolved (done : Outcome)

/-- `_register_notification_handles`, with the symbols that are left. -/
inductive RegisterCall where
  | queued (cancelled : Bool)
  | executing (handles : List NotificationHandles) (symbols : List String)
  | returned (result : Result (List NotificationHandles))
  | skipped

/-- `_del_notifications`, with the notifications that are left. -/
inductive DeleteCall where
  | queued (cancelled : Bool) (handles : List NotificationHandles)
  | executing (handles : List NotificationHandles)
  | returned (result : Result Unit)
  | skipped

/-- An operation registers its notifications, runs its `try` block, and deletes
them in the `finally` block, while the outcome of the former is determined. -/
inductive CleanupPhase where
  | registering (coroutine : Coroutine) (call : RegisterCall)
  | running (handles : List NotificationHandles)
  | deleting (determined : Outcome) (done : Option Outcome) (call : DeleteCall)

/-- An operation on its connection, with the notification handles that it has
asked the library to delete. -/
structure NotifyOperation (κ : Type) where
  session : AdsSession κ
  phase : CleanupPhase
  deletions : List UInt32

/-- A step of the coroutine, or of the worker: for the call of the operation or
for another one. -/
inductive NotifyAction (κ : Type) where
  | start
  | take
  | register (info : Result Nat) (reply : HandleReply) (add : Except Nat UInt32)
  | resume
  | finish (outcome : Outcome)
  | cancel
  | delete (errCode : Nat) (release : Except Nat Unit)
  | other (call : HandleCall κ)

/-- `_add_notification_with_auto_attr` on an open connection; `info` is the size
from `adsGetSymbolInfo`. -/
def addNotificationWithAutoAttr (info : Result Nat) (reply : HandleReply) (add : Except Nat UInt32)
    (callback : κ)
    (session : AdsSession κ) : Result NotificationHandles × AdsSession κ :=
  match info with
  | .error e => (.error e, session)
  | .ok _ => adsSyncAddDeviceNotificationReqEx (some reply) add callback session

/-- The loop over the symbols. -/
def RegisterCall.next (handles : List NotificationHandles) : List String → RegisterCall
  | [] => .returned (.ok handles)
  | symbol :: symbols => .executing handles (symbol :: symbols)

/-- The loop over the handles. -/
def DeleteCall.next : List NotificationHandles → DeleteCall
  | [] => .returned (.ok ())
  | handles :: rest => .executing (handles :: rest)

/-- The worker looks at the future of a call before it executes it. -/
def CleanupPhase.take (symbols : List String) : CleanupPhase → CleanupPhase
  | .registering coroutine (.queued cancelled) =>
    .registering coroutine (if cancelled then .skipped else .next [] symbols)
  | .deleting determined done (.queued cancelled handles) =>
    .deleting determined done (if cancelled then .skipped else .next handles)
  | phase => phase

/-- The coroutine gets the result of the call that it awaits; the `finally`
block lets all errors but `RuntimeError` through. -/
def CleanupPhase.resume : CleanupPhase → CleanupPhase
  | .registering .awaiting (.returned (.ok handles)) => .running handles
  | .registering .awaiting (.returned (.error e)) =>
    .registering (.resolved (.failed (.raised e))) (.returned (.error e))
  | .deleting determined none (.returned (.ok ())) => .deleting determined (some determined) (.returned (.ok ()))
  | .deleting determined none (.returned (.error (.runtimeError text))) =>
    .deleting determined (some determined) (.returned (.error (.runtimeError text)))
  | .deleting determined none (.returned (.error e)) =>
    .deleting determined (some (.failed (.raised e))) (.returned (.error e))
  | phase => phase

/-- A cancelled coroutine cancels the future that it awaits. The worker leaves
out a call only if its future was cancelled before. -/
def CleanupPhase.cancel : CleanupPhase → CleanupPhase
  | .registering .created call => .registering (.resolved .cancelled) call
  | .registering .awaiting (.queued _) => .registering (.resolved .cancelled) (.queued true)
  | .registering .awaiting call => .registering (.resolved .cancelled) call
  | .running handles => .deleting .cancelled none (.queued false handles)
  | .deleting determined none (.queued _ handles) => .deleting determined (some .cancelled) (.queued true handles)
  | .deleting determined none call => .deleting determined (some .cancelled) call
  | phase => phase

namespace NotifyOperation

def fresh (session : AdsSession κ) : NotifyOperation κ := ⟨session, .registering .created (.queued false), []⟩

/-- The worker registers the next symbol. -/
def register (op : NotifyOperation κ) (info : Result Nat) (reply : HandleReply) (add : Except Nat UInt32)
    (callback : κ) : NotifyOperation κ :=
  match op.phase with
  | .registering coroutine (.executing handles (_ :: symbols)) =>
    match addNotificationWithAutoAttr info reply add callback op.session with
    | (.ok pair, session) => { op with session, phase := .registering coroutine (.next (handles ++ [pair]) symbols) }
    | (.error e, session) => { op with session, phase := .registering coroutine (.returned (.error e)) }
  | _ => op

/-- The worker deletes the next notification. -/
def delete (op : NotifyOperation κ) (errCode : Nat) (release : Except Nat Unit) : NotifyOperation κ :=
  match op.phase with
  | .deleting determined done (.executing ((notificationHandle, userHandle) :: rest)) =>
    let deletions := op.deletions ++ [notificationHandle]
    match adsSyncDelDeviceNotificationReqEx errCode (release.mapError .adsError) notificationHandle userHandle
        op.session with
    | (.ok (), session) => ⟨session, .deleting determined done (.next rest), deletions⟩
    | (.error e, session) => ⟨session, .deleting determined done (.returned (.error e)), deletions⟩
  | _ => op

/-- All callbacks of the operation are `callback`. -/
def step (symbols : List String) (callback : κ) (op : NotifyOperation κ) : NotifyAction κ → NotifyOperation κ
  | .start =>
    match op.phase with
    | .registering .created call => { op with phase := .registering .awaiting call }
    | _ => op
  | .take => { op with phase := op.phase.take symbols }
  | .register info reply add => op.register info reply add callback
  | .resume => { op with phase := op.phase.resume }
  | .finish outcome =>
    match op.phase with
    | .running handles => { op with phase := .deleting outcome none (.queued false handles) }
    | _ => op
  | .cancel => { op with phase := op.phase.cancel }
  | .delete errCode release => op.delete errCode release
  | .other call => { op with session := call.after op.session }

end NotifyOperation
/-! ## Notifications and who knows them -/

/-- Unless it is cancelled, `done` has the values with which the operation was
completed. -/
def Outcome.KeptBy : Outcome → Option Outcome → Prop
  | .completed values, some done => done = .completed values ∨ done = .cancelled
  | _, _ => True

def RegisterCall.handles : RegisterCall → List NotificationHandles
  | .executing handles _ | .returned (.ok handles) => handles
  | .queued _ | .returned (.error _) | .skipped => []

def DeleteCall.handles : DeleteCall → List NotificationHandles
  | .queued _ handles | .executing handles => handles
  | .returned _ | .skipped => []

def DeleteCall.Waiting : DeleteCall → Prop
  | .queued _ _ => True
  | .executing _ | .returned _ | .skipped => False

namespace CleanupPhase

/-- The handles that the coroutine or one of its calls knows. -/
def handles : CleanupPhase → List NotificationHandles
  | .registering _ call => call.handles
  | .running handles => handles
  | .deleting _ _ call => call.handles

/-- The handles that will be deleted if nothing else goes wrong. -/
def toDelete : CleanupPhase → List NotificationHandles
  | .registering (.resolved _) _ => []
  | .registering .created call | .registering .awaiting call => call.handles
  | .running handles => handles
  | .deleting _ _ (.queued true _) => []
  | .deleting _ _ call => call.handles

/-- No deletion has begun. -/
def Undeleted : CleanupPhase → Prop
  | .registering _ _ | .running _ => True
  | .deleting _ _ call => call.Waiting

/-- `done` is resolved, and the worker has no call of the operation left. -/
def Drained : CleanupPhase → Prop
  | .registering (.resolved _) (.returned _) | .registering (.resolved _) .skipped => True
  | .deleting _ (some _) (.returned _) | .deleting _ (some _) .skipped => True
  | _ => False

/-- The determined result is not replaced. -/
def KeepsResult : CleanupPhase → Prop
  | .deleting determined done _ => determined.KeptBy done
  | _ => True

theorem toDelete_cases (phase : CleanupPhase) : phase.toDelete = phase.handles ∨ phase.toDelete = [] := by
  unfold toDelete
  split
  · exact .inr rfl
  · exact .inl rfl
  · exact .inl rfl
  · exact .inl rfl
  · exact .inr rfl
  · exact .inl rfl

theorem toDelete_of_drained {phase : CleanupPhase} (drained : phase.Drained) : phase.toDelete = [] := by
  unfold Drained at drained
  split at drained
  · rfl
  · rfl
  · rfl
  · rfl
  · exact drained.elim

end CleanupPhase

/-- The requests for one symbol all succeed. -/
def Registers (info : Result Nat) (reply : HandleReply) (add : Except Nat UInt32) : Prop :=
  (∃ size, info = .ok size) ∧ (∃ handle, reply = .handle handle) ∧ ∃ notification, add = .ok notification

theorem add_cases (info : Result Nat) (reply : HandleReply) (add : Except Nat UInt32) (callback : κ)
    (session : AdsSession κ) :
    (¬ Registers info reply add ∧ ∃ e later, later.registered = session.registered ∧
        later.callbackStore = session.callbackStore ∧
        addNotificationWithAutoAttr info reply add callback session = (.error e, later)) ∨
      (Registers info reply add ∧ ∃ notification handle later, add = .ok notification ∧
        later.registered = session.registered.set notification ⟨some handle, callback⟩ ∧
        later.callbackStore = session.callbackStore.set notification callback ∧
        addNotificationWithAutoAttr info reply add callback session =
          (.ok (notification, some handle), later)) := by
  cases info with
  | error e => exact .inl ⟨by simp [Registers], e, session, rfl, rfl, rfl⟩
  | ok size =>
    cases reply with
    | refused code => exact .inl ⟨by simp [Registers], _, _, rfl, rfl, rfl⟩
    | short handle bytesRead => exact .inl ⟨by simp [Registers], _, session.acquire handle, rfl, rfl, rfl⟩
    | handle handle =>
      cases add with
      | error code => exact .inl ⟨by simp [Registers], _, session.acquire handle, rfl, rfl, rfl⟩
      | ok notification =>
        exact .inr ⟨⟨⟨size, rfl⟩, ⟨handle, rfl⟩, notification, rfl⟩, notification, handle, _, rfl,
          rfl, rfl, rfl⟩

/-- A notification of the operation is registered. -/
def AdsSession.Owns (session : AdsSession κ) (callback : κ) (notification : UInt32) : Prop :=
  ∃ registration, session.registered.get? notification = some registration ∧ registration.callback = callback

/-- Another call neither uses the callback of the operation nor deletes its
notifications. -/
def HandleCall.Spares (callback : κ) (session : AdsSession κ) : HandleCall κ → Prop
  | .addDeviceNotification _ (.ok notification) another =>
    session.registered.get? notification = none ∧ another ≠ callback
  | .delDeviceNotification _ _ notification _ => ¬ session.Owns callback notification
  | _ => True

/-- The library gives out a notification handle that is not in use, and other
calls spare the notifications of the operation. -/
def NotifyAction.Lawful (callback : κ) (op : NotifyOperation κ) : NotifyAction κ → Prop
  | .register _ _ (.ok notification) => op.session.registered.get? notification = none
  | .other call => call.Spares callback op.session
  | _ => True

/-- A step that neither leaves a notification registered nor replaces a result:
a registration fails only for the first symbol, and succeeds only while the
coroutine waits for it; the coroutine is not cancelled while notifications are
registered that it does not know yet, nor before the worker has begun to delete
them; and no deletion fails. -/
def NotifyAction.CleansUp (op : NotifyOperation κ) (a : NotifyAction κ) : Prop :=
  match a, op.phase with
  | .register info reply add, .registering coroutine (.executing handles (_ :: _)) =>
    (Registers info reply add → ∀ done, coroutine ≠ .resolved done) ∧
      (¬ Registers info reply add → handles = [])
  | .cancel, .registering .created call | .cancel, .registering .awaiting call => call.handles = []
  | .cancel, .deleting _ none (.queued _ handles) => handles = []
  | .delete errCode release, .deleting _ _ (.executing ((_, userHandle) :: rest)) =>
    errCode = 0 ∧ (userHandle = none ∨ release = .ok () ∨ rest = [])
  | .resume, .deleting (.completed _) none (.returned (.error e)) => ∃ text, e = .runtimeError text
  | _, _ => True

namespace NotifyOperation

/-- The registered notifications of the operation are those it will delete. -/
def Tracked (callback : κ) (op : NotifyOperation κ) : Prop :=
  ∀ notification, op.session.Owns callback notification → notification ∈ op.phase.toDelete.map Prod.fst

/-- The handles that the operation knows are those of its notifications, each
asked to be deleted once at most. -/
structure Held (callback : κ) (op : NotifyOperation κ) : Prop where
  owned : ∀ pair ∈ op.phase.handles, op.session.Owns callback pair.1
  stored : ∀ pair ∈ op.phase.handles, ∃ entry, op.session.callbackStore.get? pair.1 = some entry
  once : (op.deletions ++ op.phase.handles.map Prod.fst).Nodup
  undeleted : op.phase.Undeleted → op.deletions = []

/-- With `done` resolved and the queue empty: nothing is left registered,
nothing was deleted twice, and a result that was determined is the result. -/
structure Clean (callback : κ) (op : NotifyOperation κ) : Prop where
  unregistered : ∀ notification, ¬ op.session.Owns callback notification
  once : ∀ notification, op.deletions.count notification ≤ 1
  result : op.phase.KeepsResult

/-- Once no handle is known, nothing is left to own. -/
theorem Held.of_none {op : NotifyOperation κ} (none : op.phase.handles = []) (once : op.deletions.Nodup)
    (undeleted : op.phase.Undeleted → op.deletions = []) : op.Held callback := by
  refine ⟨?_, ?_, ?_, undeleted⟩
  · simp [none]
  · simp [none]
  · simpa [none] using once

theorem Held.congr {op next : NotifyOperation κ} (held : op.Held callback) (session : next.session = op.session)
    (handles : next.phase.handles = op.phase.handles ∨ next.phase.handles = [])
    (deletions : next.deletions = op.deletions) (undeleted : next.phase.Undeleted → op.phase.Undeleted) :
    next.Held callback := by
  have unasked : next.phase.Undeleted → next.deletions = [] := by
    intro before
    rw [deletions]
    exact held.undeleted (undeleted before)
  rcases handles with same | none
  · refine ⟨?_, ?_, ?_, unasked⟩
    · rw [same, session]
      exact held.owned
    · rw [same, session]
      exact held.stored
    · rw [same, deletions]
      exact held.once
  · refine Held.of_none none ?_ unasked
    rw [deletions]
    exact held.once.of_append_left

/-- All is well so far. -/
def Sound (callback : κ) (op : NotifyOperation κ) : Prop := op.Tracked callback ∧ op.phase.KeepsResult

theorem sound_iff_of_same {op next : NotifyOperation κ} {a : NotifyAction κ}
    (session : next.session = op.session)
    (toDelete : next.phase.toDelete = op.phase.toDelete)
    (result : next.phase.KeepsResult ↔ op.phase.KeepsResult)
    (clean : a.CleansUp op) : next.Sound callback ↔ op.Sound callback ∧ a.CleansUp op := by
  rw [and_iff_left clean, Sound, Sound, Tracked, Tracked, session, toDelete, result]

/-- If nothing will be deleted any more, then nothing may be registered. -/
theorem tracked_iff_of_lost {op next : NotifyOperation κ} (held : op.Held callback)
    (owns : ∀ notification, next.session.Owns callback notification ↔ op.session.Owns callback notification)
    (lost : next.phase.toDelete = []) : next.Tracked callback ↔
      op.Tracked callback ∧ op.phase.handles = [] := by
  simp only [Tracked, lost, owns, List.map_nil, List.not_mem_nil, imp_false]
  constructor
  · intro none
    refine ⟨fun notification owned => absurd owned (none notification), ?_⟩
    exact List.eq_nil_iff_forall_not_mem.mpr fun pair member => none pair.1 (held.owned pair member)
  · rintro ⟨tracked, empty⟩ notification owned
    have member := tracked notification owned
    rcases op.phase.toDelete_cases with same | same <;> simp [same, empty] at member

theorem sound_iff_of_lost {op next : NotifyOperation κ} {a : NotifyAction κ} (held : op.Held callback)
    (owns : ∀ notification, next.session.Owns callback notification ↔ op.session.Owns callback notification)
    (lost : next.phase.toDelete = []) (result : next.phase.KeepsResult ↔ op.phase.KeepsResult)
    (clean : a.CleansUp op ↔ op.phase.handles = []) : next.Sound callback ↔
      op.Sound callback ∧ a.CleansUp op := by
  rw [Sound, Sound, tracked_iff_of_lost held owns lost, result, clean, and_right_comm]

/-! ## One step -/

section Steps
variable {op : NotifyOperation κ} {callback : κ} {symbols : List String}

theorem sound_start (op : NotifyOperation κ) :
    (op.step symbols callback .start).Sound callback ↔ op.Sound callback ∧ NotifyAction.start.CleansUp op := by
  simp only [step]
  split
  · rename_i phase
    exact sound_iff_of_same rfl (by rw [phase]; rfl) (by rw [phase]; rfl) trivial
  · exact sound_iff_of_same rfl rfl Iff.rfl trivial

theorem toDelete_take (phase : CleanupPhase) : (phase.take symbols).toDelete = phase.toDelete := by
  unfold CleanupPhase.take
  split
  · rename_i coroutine cancelled
    have empty : (if cancelled then RegisterCall.skipped else .next [] symbols).handles = [] := by
      cases cancelled with
      | true => rfl
      | false => cases symbols <;> rfl
    cases coroutine with
    | created => exact empty
    | awaiting => exact empty
    | resolved done => rfl
  · rename_i determined done cancelled handles
    cases cancelled with
    | true => rfl
    | false => cases handles <;> rfl
  · rfl

theorem keepsResult_take (phase : CleanupPhase) : (phase.take symbols).KeepsResult ↔ phase.KeepsResult := by
  unfold CleanupPhase.take
  split <;> rfl

theorem sound_take (op : NotifyOperation κ) :
    (op.step symbols callback .take).Sound callback ↔ op.Sound callback ∧ NotifyAction.take.CleansUp op :=
  sound_iff_of_same rfl (toDelete_take op.phase) (keepsResult_take op.phase) trivial

theorem sound_finish (op : NotifyOperation κ) (outcome : Outcome) :
    (op.step symbols callback (.finish outcome)).Sound callback ↔
      op.Sound callback ∧ (NotifyAction.finish outcome).CleansUp op := by
  simp only [step]
  split
  · rename_i phase
    refine sound_iff_of_same rfl (by rw [phase]; rfl) ?_ trivial
    rw [phase]
    cases outcome <;> exact iff_of_true trivial trivial
  · exact sound_iff_of_same rfl rfl Iff.rfl trivial

theorem toDelete_resume (phase : CleanupPhase) : phase.resume.toDelete = phase.toDelete := by
  unfold CleanupPhase.resume
  split <;> rfl

theorem sound_resume (op : NotifyOperation κ) :
    (op.step symbols callback .resume).Sound callback ↔
      op.Sound callback ∧ NotifyAction.resume.CleansUp op := by
  obtain ⟨session, phase, deletions⟩ := op
  have tracked : Tracked callback ⟨session, phase.resume, deletions⟩ ↔
    Tracked callback ⟨session, phase, deletions⟩ := by
    simp only [Tracked, toDelete_resume]
  have result : phase.resume.KeepsResult ↔
      phase.KeepsResult ∧ NotifyAction.resume.CleansUp (⟨session, phase, deletions⟩ : NotifyOperation κ) := by
    cases phase with
    | registering coroutine call =>
      refine iff_of_true ?_ ⟨trivial, trivial⟩
      unfold CleanupPhase.resume
      split <;> trivial
    | running handles => exact iff_of_true trivial ⟨trivial, trivial⟩
    | deleting determined done call =>
      cases done with
      | some done => exact (and_iff_left (by cases determined <;> trivial)).symm
      | none =>
        cases call with
        | returned result =>
          cases result with
          | ok value => cases determined <;> simp [CleanupPhase.resume, CleanupPhase.KeepsResult,
            Outcome.KeptBy, NotifyAction.CleansUp]
          | error e =>
            cases determined <;> cases e <;>
              simp [CleanupPhase.resume, CleanupPhase.KeepsResult, Outcome.KeptBy, NotifyAction.CleansUp]
        | _ => cases determined <;> exact iff_of_true trivial ⟨trivial, trivial⟩
  simp only [Sound, step, tracked, result, and_assoc]

theorem keptBy_cancelled (determined : Outcome) : determined.KeptBy (some .cancelled) ↔
    determined.KeptBy none := by
  cases determined <;> simp [Outcome.KeptBy]

theorem sound_cancel (held : op.Held callback) :
    (op.step symbols callback .cancel).Sound callback ↔
      op.Sound callback ∧ NotifyAction.cancel.CleansUp op := by
  obtain ⟨session, phase, deletions⟩ := op
  cases phase with
  | registering coroutine call =>
    cases coroutine with
    | created => exact sound_iff_of_lost held (fun _ => Iff.rfl) rfl Iff.rfl Iff.rfl
    | awaiting => cases call <;> exact sound_iff_of_lost held (fun _ => Iff.rfl) rfl Iff.rfl Iff.rfl
    | resolved done => exact sound_iff_of_same rfl rfl Iff.rfl trivial
  | running handles => exact sound_iff_of_same rfl rfl (iff_of_true trivial trivial) trivial
  | deleting determined done call =>
    cases done with
    | some done => exact sound_iff_of_same rfl rfl Iff.rfl trivial
    | none =>
      cases call with
      | queued cancelled handles =>
        exact sound_iff_of_lost held (fun _ => Iff.rfl) rfl (keptBy_cancelled determined) Iff.rfl
      | _ => exact sound_iff_of_same rfl rfl (keptBy_cancelled determined) trivial

theorem owns_set {session later : AdsSession κ} {symbolHandle : Option UInt32}
    (registered : later.registered = session.registered.set notification ⟨symbolHandle, callback⟩)
    (other : UInt32) :
    later.Owns callback other ↔ notification = other ∨ session.Owns callback other := by
  simp only [AdsSession.Owns, registered, OrderedDict.get?_set]
  by_cases same : notification = other <;> simp [same]

/-- A registration for a coroutine that is gone is never deleted. -/
theorem sound_registered {session later : AdsSession κ} {symbolHandle : Option UInt32} {a : NotifyAction κ}
    (registered : later.registered = session.registered.set notification ⟨symbolHandle, callback⟩)
    (fresh : session.registered.get? notification = none) {coroutine : Coroutine} {symbols rest : List String}
    {deletions : List UInt32}
    (clean : a.CleansUp ⟨session, .registering coroutine (.executing handles symbols), deletions⟩ ↔
      ∀ done, coroutine ≠ .resolved done) :
    Sound callback
        ⟨later, .registering coroutine (.next (handles ++ [(notification, symbolHandle)]) rest), deletions⟩ ↔
      Sound callback ⟨session, .registering coroutine (.executing handles symbols), deletions⟩ ∧
        a.CleansUp ⟨session, .registering coroutine (.executing handles symbols), deletions⟩ := by
  have known : (RegisterCall.next (handles ++ [(notification, symbolHandle)]) rest).handles =
      handles ++ [(notification, symbolHandle)] := by cases rest <;> rfl
  have unowned : ¬ session.Owns callback notification := by
    rintro ⟨registration, found, _⟩
    rw [fresh] at found
    contradiction
  have awaited {coroutine : Coroutine} (waits : ∀ call,
    (CleanupPhase.registering coroutine call).toDelete = call.handles) :
      Tracked callback
          ⟨later, .registering coroutine (.next (handles ++ [(notification, symbolHandle)]) rest), deletions⟩ ↔
        Tracked callback ⟨session, .registering coroutine (.executing handles symbols), deletions⟩ := by
    simp only [Tracked, waits, known, owns_set registered, List.map_append, List.mem_append]
    constructor
    · intro tracked other owned
      refine (tracked other (.inr owned)).resolve_right fun last => unowned ?_
      obtain rfl : other = notification := by simpa using last
      exact owned
    · rintro tracked other (rfl | owned)
      · exact .inr (by simp)
      · exact .inl (tracked other owned)
  cases coroutine with
  | created => exact (and_congr (awaited fun _ => rfl) Iff.rfl).trans (and_iff_left (clean.mpr (by simp))).symm
  | awaiting => exact (and_congr (awaited fun _ => rfl) Iff.rfl).trans (and_iff_left (clean.mpr (by simp))).symm
  | resolved done =>
    refine iff_of_false ?_ fun sound => clean.mp sound.2 done rfl
    rintro ⟨tracked, _⟩
    have member := tracked notification ((owns_set registered notification).mpr (.inl rfl))
    simp [CleanupPhase.toDelete] at member

theorem sound_register (held : op.Held callback) (info : Result Nat) (reply : HandleReply)
    (add : Except Nat UInt32)
    (lawful : (NotifyAction.register info reply add).Lawful callback op) :
    (op.step symbols callback (.register info reply add)).Sound callback ↔
      op.Sound callback ∧ (NotifyAction.register info reply add).CleansUp op := by
  obtain ⟨session, phase, deletions⟩ := op
  simp only [step, register]
  split
  · rename_i coroutine handles symbol rest
    rcases add_cases info reply add callback session with
      ⟨failed, e, later, registered, _, same⟩ | ⟨succeeds, notification, handle, later, rfl,
        registered, _, same⟩
    · rw [same]
      refine sound_iff_of_lost held (fun other => ?_) (by cases coroutine <;> rfl) Iff.rfl ?_
      · simp only [AdsSession.Owns, registered]
      · simp [NotifyAction.CleansUp, failed, CleanupPhase.handles, RegisterCall.handles]
    · rw [same]
      exact sound_registered registered lawful (by simp [NotifyAction.CleansUp, succeeds])
  · rename_i other
    apply sound_iff_of_same rfl rfl Iff.rfl
    unfold NotifyAction.CleansUp
    split <;> simp_all

theorem owns_erase {session later : AdsSession κ}
    (registered : later.registered = session.registered.erase notification) (other : UInt32) :
    later.Owns callback other ↔ other ≠ notification ∧ session.Owns callback other := by
  simp only [AdsSession.Owns, registered, OrderedDict.get?_erase]
  by_cases same : notification = other
  · simp [same]
  · simp [same, Ne.symm same]

theorem tracked_iff_of_deleted {op next : NotifyOperation κ} {pair : NotificationHandles}
    (owns : ∀ other, next.session.Owns callback other ↔ other ≠ pair.1 ∧ op.session.Owns callback other)
    (before : op.phase.toDelete = pair :: rest) (after : next.phase.toDelete = rest) :
    next.Tracked callback ↔ op.Tracked callback := by
  simp only [Tracked, owns, before, after, List.map_cons, List.mem_cons]
  constructor
  · intro tracked other owned
    by_cases same : other = pair.1
    · exact .inl same
    · exact .inr (tracked other ⟨same, owned⟩)
  · rintro tracked other ⟨different, owned⟩
    exact (tracked other owned).resolve_left different

/-- A deletion that ends the loop leaves the notifications after it. -/
theorem tracked_iff_of_stopped {op next : NotifyOperation κ} {pair : NotificationHandles}
    (held : op.Held callback)
    (owns : ∀ other, next.session.Owns callback other ↔ other ≠ pair.1 ∧ op.session.Owns callback other)
    (known : op.phase.handles = pair :: rest) (before : op.phase.toDelete = pair :: rest)
    (after : next.phase.toDelete = []) : next.Tracked callback ↔ op.Tracked callback ∧ rest = [] := by
  have distinct : pair.1 ∉ rest.map Prod.fst := by
    have once := held.once.of_append_right
    rw [known, List.map_cons, List.nodup_cons] at once
    exact once.1
  simp only [Tracked, owns, before, after, List.map_cons, List.mem_cons, List.map_nil,
    List.not_mem_nil, imp_false]
  constructor
  · intro none
    refine ⟨fun other owned => .inl (not_not.mp fun different => none other ⟨different, owned⟩), ?_⟩
    refine List.eq_nil_iff_forall_not_mem.mpr fun left member => none left.1 ⟨fun same => distinct ?_, ?_⟩
    · rw [← same]
      exact List.mem_map_of_mem member
    · exact held.owned left (by rw [known]; exact List.mem_cons_of_mem _ member)
  · rintro ⟨tracked, rfl⟩ other ⟨different, owned⟩
    have member := tracked other owned
    simp [different] at member

theorem sound_delete (held : op.Held callback) (errCode : Nat) (release : Except Nat Unit) :
    (op.step symbols callback (.delete errCode release)).Sound callback ↔
      op.Sound callback ∧ (NotifyAction.delete errCode release).CleansUp op := by
  obtain ⟨session, phase, deletions⟩ := op
  simp only [step, delete]
  split
  · rename_i determined done notification userHandle rest
    obtain ⟨registration, registered, own⟩ := held.owned (notification, userHandle) List.mem_cons_self
    obtain ⟨entry, stored⟩ := held.stored (notification, userHandle) List.mem_cons_self
    by_cases deleted : errCode = 0
    · subst deleted
      rw [del_succeeds registered stored]
      have next {later : AdsSession κ} (erased : later.registered = session.registered.erase notification) :
          Sound callback ⟨later, .deleting determined done (.next rest), deletions ++ [notification]⟩ ↔
            Sound callback
              ⟨session, .deleting determined done (.executing ((notification, userHandle) :: rest)), deletions⟩ :=
        and_congr (tracked_iff_of_deleted (owns_erase erased) rfl (by cases rest <;> rfl)) Iff.rfl
      have stopped {later : AdsSession κ} (erased : later.registered = session.registered.erase notification)
          (e : PyError) :
          Sound callback ⟨later, .deleting determined done (.returned (.error e)),
            deletions ++ [notification]⟩ ↔
            Sound callback
                ⟨session, .deleting determined done (.executing ((notification, userHandle) :: rest)), deletions⟩ ∧
              rest = [] :=
        (and_congr (tracked_iff_of_stopped held (owns_erase erased) rfl rfl rfl) Iff.rfl).trans and_right_comm
      cases userHandle with
      | none => exact (next rfl).trans (and_iff_left ⟨rfl, .inl rfl⟩).symm
      | some handle =>
        cases release with
        | ok value => exact (next rfl).trans (and_iff_left ⟨rfl, .inr (.inl rfl)⟩).symm
        | error code => exact (stopped rfl _).trans (and_congr_right fun _ => by simp [NotifyAction.CleansUp])
    · rw [del_fails registered stored deleted]
      refine iff_of_false ?_ ?_
      · rintro ⟨tracked, _⟩
        have member := tracked notification ⟨registration, registered, own⟩
        simp [CleanupPhase.toDelete, DeleteCall.handles] at member
      · rintro ⟨_, clean⟩
        exact deleted clean.1
  · apply sound_iff_of_same rfl rfl Iff.rfl
    unfold NotifyAction.CleansUp
    split <;> simp_all

end Steps

end NotifyOperation

/-! ## Other calls -/

section Other
variable {session : AdsSession κ} {callback : κ}

theorem owned_of_same {later : AdsSession κ} (same : session.SameNotifications later) :
    (∀ notification, later.Owns callback notification ↔ session.Owns callback notification) ∧
      ∀ notification, session.Owns callback notification →
        later.callbackStore.get? notification = session.callbackStore.get? notification := by
  obtain ⟨registered, stored⟩ := same
  exact ⟨fun _ => by simp only [AdsSession.Owns, registered], fun _ _ => by rw [stored]⟩

theorem owned_of_added {later : AdsSession κ} (registration : Registration κ)
    (registered : later.registered = session.registered.set notification registration)
    (stored : later.callbackStore = session.callbackStore.set notification registration.callback)
    (fresh : session.registered.get? notification = none) (another : registration.callback ≠ callback) :
    (∀ other, later.Owns callback other ↔ session.Owns callback other) ∧
      ∀ other, session.Owns callback other →
        later.callbackStore.get? other = session.callbackStore.get? other := by
  constructor
  · intro other
    simp only [AdsSession.Owns, registered, OrderedDict.get?_set]
    by_cases same : notification = other
    · subst same
      simp [fresh, another]
    · simp [same]
  · rintro other ⟨own, found, _⟩
    have different : notification ≠ other := by
      rintro rfl
      rw [fresh] at found
      contradiction
    rw [stored, OrderedDict.get?_set, if_neg different]

theorem owned_of_erased {later : AdsSession κ}
    (registered : later.registered = session.registered ∨ later.registered = session.registered.erase notification)
    (stored : later.callbackStore = session.callbackStore ∨
      later.callbackStore = session.callbackStore.erase notification)
    (spared : ¬ session.Owns callback notification) :
    (∀ other, later.Owns callback other ↔ session.Owns callback other) ∧
      ∀ other, session.Owns callback other →
        later.callbackStore.get? other = session.callbackStore.get? other := by
  have different : ∀ other, session.Owns callback other → notification ≠ other := by
    rintro _ owned rfl
    exact spared owned
  constructor
  · intro other
    rcases registered with same | erased
    · simp only [AdsSession.Owns, same]
    · rw [NotifyOperation.owns_erase erased]
      exact and_iff_right_of_imp fun owned => (different other owned).symm
  · intro other owned
    rcases stored with same | erased
    · rw [same]
    · rw [erased, OrderedDict.get?_erase, if_neg (different other owned)]

/-- Other calls leave each notification of the operation, with its callback. -/
theorem after_owned (call : HandleCall κ) (spares : call.Spares callback session) :
    (∀ notification, (call.after session).Owns callback notification ↔ session.Owns callback notification) ∧
      ∀ notification, session.Owns callback notification →
        (call.after session).callbackStore.get? notification = session.callbackStore.get? notification := by
  cases call with
  | addDeviceNotification name add another =>
    cases name with
    | none =>
      cases add with
      | error code => exact owned_of_same ⟨rfl, rfl⟩
      | ok notification =>
        exact owned_of_added ⟨none, another⟩ rfl rfl spares.1 spares.2
    | some reply =>
      cases reply with
      | handle handle =>
        cases add with
        | error code => exact owned_of_same ⟨rfl, rfl⟩
        | ok notification =>
          exact owned_of_added ⟨some handle, another⟩ rfl rfl spares.1 spares.2
      | _ => exact owned_of_same ⟨rfl, rfl⟩
  | delDeviceNotification errCode release notificationHandle userHandle =>
    obtain ⟨registered, stored⟩ := del_erases errCode release notificationHandle userHandle session
    exact owned_of_erased registered stored spares
  | _ => exact owned_of_same (sameNotifications_after _ trivial)

end Other

namespace NotifyOperation

section Runs_
variable {op : NotifyOperation κ} {callback : κ} {symbols : List String}

theorem sound_other (call : HandleCall κ) (spares : call.Spares callback op.session) :
    (op.step symbols callback (.other call)).Sound callback ↔
      op.Sound callback ∧ (NotifyAction.other call).CleansUp op := by
  refine Iff.trans ?_ (and_iff_left trivial).symm
  simp only [Sound, Tracked, step, (after_owned call spares).1]

/-- A step keeps everything sound exactly if it meets its condition. -/
theorem sound_step_iff (a : NotifyAction κ) (held : op.Held callback) (lawful : a.Lawful callback op) :
    (op.step symbols callback a).Sound callback ↔ op.Sound callback ∧ a.CleansUp op := by
  cases a with
  | start => exact sound_start op
  | take => exact sound_take op
  | register info reply add => exact sound_register held info reply add lawful
  | resume => exact sound_resume op
  | finish outcome => exact sound_finish op outcome
  | cancel => exact sound_cancel held
  | delete errCode release => exact sound_delete held errCode release
  | other call => exact sound_other call lawful

/-! ## What the operation knows -/

theorem handles_take (phase : CleanupPhase) :
    ((phase.take symbols).handles = phase.handles ∨ (phase.take symbols).handles = []) ∧
      ((phase.take symbols).Undeleted → phase.Undeleted) := by
  unfold CleanupPhase.take
  split
  · rename_i coroutine cancelled
    refine ⟨.inr ?_, id⟩
    cases cancelled with
    | true => rfl
    | false => cases symbols <;> rfl
  · rename_i determined done cancelled handles
    refine ⟨?_, fun _ => trivial⟩
    cases cancelled with
    | true => exact .inr rfl
    | false => cases handles <;> exact .inl rfl
  · exact ⟨.inl rfl, id⟩

theorem handles_resume (phase : CleanupPhase) :
    (phase.resume.handles = phase.handles ∨ phase.resume.handles = []) ∧
      (phase.resume.Undeleted → phase.Undeleted) := by
  unfold CleanupPhase.resume
  split <;> exact ⟨.inl rfl, id⟩

theorem handles_cancel (phase : CleanupPhase) :
    (phase.cancel.handles = phase.handles ∨ phase.cancel.handles = []) ∧
      (phase.cancel.Undeleted → phase.Undeleted) := by
  unfold CleanupPhase.cancel
  split <;> exact ⟨.inl rfl, id⟩

theorem Held.register (held : op.Held callback) (info : Result Nat) (reply : HandleReply)
    (add : Except Nat UInt32)
    (lawful : (NotifyAction.register info reply add).Lawful callback op) :
    (op.register info reply add callback).Held callback := by
  obtain ⟨session, phase, deletions⟩ := op
  simp only [NotifyOperation.register]
  split
  · rename_i coroutine handles symbol rest
    have none : deletions = [] := held.undeleted trivial
    subst none
    rcases add_cases info reply add callback session with
      ⟨_, e, later, _, _, same⟩ | ⟨_, notification, handle, later, rfl, registered, stored, same⟩
    · rw [same]
      exact Held.of_none rfl List.nodup_nil fun _ => rfl
    · rw [same]
      have known :
          (CleanupPhase.registering coroutine (.next (handles ++ [(notification, some handle)]) rest)).handles =
            handles ++ [(notification, some handle)] := by cases rest <;> rfl
      refine ⟨?_, ?_, ?_, fun _ => rfl⟩
      · intro pair member
        rw [known] at member
        rw [owns_set registered]
        rcases List.mem_append.mp member with old | new
        · exact .inr (held.owned pair old)
        · exact .inl (by rw [List.mem_singleton.mp new])
      · intro pair member
        rw [known] at member
        simp only [stored, OrderedDict.get?_set]
        split
        · exact ⟨callback, rfl⟩
        · rename_i other
          rcases List.mem_append.mp member with old | new
          · exact held.stored pair old
          · exact absurd (by rw [List.mem_singleton.mp new]) other
      · simp only [List.nil_append, known, List.map_append, List.map_cons, List.map_nil]
        rw [List.nodup_append]
        refine ⟨held.once, List.nodup_singleton _, ?_⟩
        -- the new handle was not in use, so it is not among those known
        intro first member last new same
        obtain ⟨pair, old, rfl⟩ := List.mem_map.mp member
        obtain ⟨registration, found, _⟩ := held.owned pair old
        have unused : session.registered.get? notification = none := lawful
        rw [same, List.mem_singleton.mp new, unused] at found
        contradiction
  · exact held

theorem Held.delete (held : op.Held callback) (errCode : Nat) (release : Except Nat Unit) :
    (op.delete errCode release).Held callback := by
  obtain ⟨session, phase, deletions⟩ := op
  simp only [NotifyOperation.delete]
  split
  · rename_i determined done notification userHandle rest
    obtain ⟨registration, registered, _⟩ := held.owned (notification, userHandle) List.mem_cons_self
    obtain ⟨entry, kept⟩ := held.stored (notification, userHandle) List.mem_cons_self
    have once : (deletions ++ (notification :: rest.map Prod.fst)).Nodup := held.once
    rw [List.append_cons] at once
    have stopped (later : AdsSession κ) (e : PyError) :
        Held callback ⟨later, .deleting determined done (.returned (.error e)), deletions ++ [notification]⟩ :=
      Held.of_none rfl once.of_append_left fun waiting => waiting.elim
    have next {later : AdsSession κ} (erased : later.registered = session.registered.erase notification)
        (dropped : later.callbackStore = session.callbackStore.erase notification) :
        Held callback ⟨later, .deleting determined done (.next rest), deletions ++ [notification]⟩ := by
      have known : (CleanupPhase.deleting determined done (.next rest)).handles = rest := by cases rest <;> rfl
      have different : ∀ pair ∈ rest, notification ≠ pair.1 := by
        rintro pair member rfl
        exact (List.nodup_append.mp once).2.2 pair.1 (by simp) pair.1 (List.mem_map_of_mem member) rfl
      refine ⟨fun pair member => ?_, fun pair member => ?_, by rw [known]; exact once, fun waiting => ?_⟩
      · rw [known] at member
        rw [owns_erase erased]
        exact ⟨(different pair member).symm, held.owned pair (List.mem_cons_of_mem _ member)⟩
      · rw [known] at member
        rw [dropped, OrderedDict.get?_erase, if_neg (different pair member)]
        exact held.stored pair (List.mem_cons_of_mem _ member)
      · cases rest <;> exact waiting.elim
    by_cases deleted : errCode = 0
    · subst deleted
      rw [del_succeeds registered kept]
      cases userHandle with
      | none => exact next rfl rfl
      | some handle =>
        cases release with
        | ok value => exact next rfl rfl
        | error code => exact stopped _ _
    · rw [del_fails registered kept deleted]
      exact stopped _ _
  · exact held

theorem Held.step (held : op.Held callback) (a : NotifyAction κ) (lawful : a.Lawful callback op) :
    (op.step symbols callback a).Held callback := by
  cases a with
  | start =>
    simp only [NotifyOperation.step]
    split
    · rename_i phase
      exact held.congr rfl (.inl (by rw [phase]; rfl)) rfl (by rw [phase]; exact id)
    · exact held
  | take => exact held.congr rfl (handles_take op.phase).1 rfl (handles_take op.phase).2
  | register info reply add => exact held.register info reply add lawful
  | resume => exact held.congr rfl (handles_resume op.phase).1 rfl (handles_resume op.phase).2
  | finish outcome =>
    simp only [NotifyOperation.step]
    split
    · rename_i phase
      exact held.congr rfl (.inl (by rw [phase]; rfl)) rfl (by rw [phase]; exact id)
    · exact held
  | cancel => exact held.congr rfl (handles_cancel op.phase).1 rfl (handles_cancel op.phase).2
  | delete errCode release => exact held.delete errCode release
  | other call =>
    obtain ⟨owns, stored⟩ := after_owned call lawful
    refine ⟨fun pair member => (owns pair.1).mpr (held.owned pair member), fun pair member => ?_, held.once,
      held.undeleted⟩
    rw [show (op.step symbols callback (.other call)).session = call.after op.session from rfl,
      stored pair.1 (held.owned pair member)]
    exact held.stored pair member

theorem held_fresh (session : AdsSession κ) : (fresh session).Held callback :=
  Held.of_none rfl List.nodup_nil fun _ => rfl

end Runs_

/-- Once `done` is resolved and the queue is empty, an operation has cleaned up
after itself exactly if each step has met its condition. -/
theorem cleaned_up_iff (symbols : List String) (callback : κ) (session : AdsSession κ)
    (unowned : ∀ notification, ¬ session.Owns callback notification) (actions : List (NotifyAction κ))
    (lawful : Along (step symbols callback) (NotifyAction.Lawful callback) (fresh session) actions)
    (drained : (actions.foldl (step symbols callback) (fresh session)).phase.Drained) :
    (actions.foldl (step symbols callback) (fresh session)).Clean callback ↔
      Along (step symbols callback) NotifyAction.CleansUp (fresh session) actions := by
  have held : Throughout (step symbols callback) (Held callback) (fresh session) actions :=
    throughout_of_kept (fun _ a held lawful => held.step a lawful) (held_fresh session) lawful
  have sound : (fresh session).Sound callback :=
    ⟨fun notification owned => absurd owned (unowned notification), trivial⟩
  have kept (op : NotifyOperation κ) (a : NotifyAction κ) (known : op.Held callback ∧ a.Lawful callback op) :
      (op.step symbols callback a).Sound callback ↔ op.Sound callback ∧ a.CleansUp op :=
    sound_step_iff a known.1 known.2
  have exact_ := last_iff kept (along_and.mpr ⟨along_of_throughout held, lawful⟩)
  rw [and_iff_right sound] at exact_
  rw [← exact_]
  have once := (held _ (foldl_mem_states _ _ _)).once.of_append_left
  constructor
  · intro clean
    exact ⟨fun notification owned => absurd owned (clean.unregistered notification), clean.result⟩
  · rintro ⟨tracked, result⟩
    refine ⟨fun notification owned => ?_, List.nodup_iff_count_le_one.mp once, result⟩
    have member := tracked notification owned
    rw [CleanupPhase.toDelete_of_drained drained] at member
    exact List.not_mem_nil member

/-- Two symbols are registered, the operation completes, and both are deleted. -/
def cleanRun : List (NotifyAction String) :=
  [.start, .take, .register (.ok 4) (.handle 1) (.ok 11), .register (.ok 1) (.handle 2) (.ok 12), .resume,
    .other (.readByName (.ok ()) (.handle 3) (.ok ())), .finish (.completed .empty), .take, .delete 0 (.ok ()),
    .delete 0 (.ok ()), .resume]

theorem cleanRun_cleans_up :
    (cleanRun.foldl (step ["GVL.fb.stStepStatus.udiRequestId", "GVL.fb.stStepStatus.xDone"] "status")
      (fresh (AdsSession.fresh String))).Clean "status" := by
  have drained : (cleanRun.foldl (step ["GVL.fb.stStepStatus.udiRequestId", "GVL.fb.stStepStatus.xDone"] "status")
      (fresh (AdsSession.fresh String))).phase.Drained := trivial
  refine (cleaned_up_iff _ "status" (AdsSession.fresh String) ?_ cleanRun ?_ drained).mpr ?_
  · rintro notification ⟨registration, found, _⟩
    cases found
  · exact ⟨trivial, trivial, rfl, rfl, trivial, trivial, trivial, trivial, trivial, trivial, trivial, trivial⟩
  · refine ⟨trivial, trivial, ⟨?_, ?_⟩, ⟨?_, ?_⟩, trivial, trivial, trivial, trivial, ⟨rfl, .inr (.inl rfl)⟩,
      ⟨rfl, .inr (.inl rfl)⟩, trivial, trivial⟩
    · simp
    · exact fun failed => absurd ⟨⟨4, rfl⟩, ⟨1, rfl⟩, 11, rfl⟩ failed
    · simp
    · exact fun failed => absurd ⟨⟨1, rfl⟩, ⟨2, rfl⟩, 12, rfl⟩ failed

/-- A registration that fails after another one, a cancellation while the worker
registers, one before it deletes, and a deletion that fails. -/
theorem notifications_left_behind :
    let run (actions : List (NotifyAction String)) : NotifyOperation String :=
      actions.foldl (step ["GVL.fb.stStepStatus.udiRequestId", "GVL.fb.stStepStatus.xDone"] "status")
        (fresh (AdsSession.fresh String))
    let registered : List (NotifyAction String) :=
      [.start, .take, .register (.ok 4) (.handle 1) (.ok 11), .register (.ok 1) (.handle 2) (.ok 12), .resume]
    let failed : NotifyOperation String :=
      run [.start, .take, .register (.ok 4) (.handle 1) (.ok 11),
        .register (.error (.adsError 1808)) (.handle 2) (.ok 12),
        .resume]
    let cancelled : NotifyOperation String :=
      run [.start, .take, .register (.ok 4) (.handle 1) (.ok 11), .cancel,
        .register (.ok 1) (.handle 2) (.ok 12)]
    let skipped : NotifyOperation String := run (registered ++ [.finish (.completed .empty), .cancel, .take])
    let undeleted : NotifyOperation String :=
      run (registered ++ [.finish (.completed .empty), .take, .delete 1861 (.ok ()), .resume])
    (failed.phase.Drained ∧ failed.session.Owns "status" 11) ∧
      (cancelled.phase.Drained ∧ cancelled.session.Owns "status" 11) ∧
      (skipped.phase.Drained ∧ skipped.session.Owns "status" 12) ∧
      undeleted.phase.Drained ∧ undeleted.session.Owns "status" 12 ∧ ¬ undeleted.phase.KeepsResult := by
  refine ⟨⟨trivial, ⟨⟨some 1, "status"⟩, rfl, rfl⟩⟩, ⟨trivial, ⟨⟨some 1, "status"⟩, rfl, rfl⟩⟩,
    ⟨trivial, ⟨⟨some 2, "status"⟩, rfl, rfl⟩⟩, trivial, ⟨⟨some 2, "status"⟩, rfl, rfl⟩, ?_⟩
  rintro (replaced | replaced) <;> cases replaced

end NotifyOperation
end PyAds
