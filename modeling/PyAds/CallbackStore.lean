import PyAds.Handles

/-! `callback_store` holds the only reference to a callback. As long as each
notification is deleted without an error the store mirrors what is registered;
an error from the ADS library drops a callback that can still be called. -/
namespace PyAds
open Runs

namespace AdsSession

/-- Every registered notification has its callback in the store. -/
def KeptAlive (session : AdsSession κ) : Prop :=
  ∀ notification registration, session.registered.get? notification = some registration →
    session.callbackStore.get? notification = some registration.callback

/-- The store has the callbacks of the registered notifications and no others. -/
def Mirrored (session : AdsSession κ) : Prop :=
  ∀ notification, session.callbackStore.get? notification =
    (session.registered.get? notification).map Registration.callback

theorem Mirrored.keptAlive {session : AdsSession κ} (mirrored : session.Mirrored) : session.KeptAlive := by
  intro notification registration found
  rw [mirrored, found]
  rfl

end AdsSession

/-- A delete that raises `ADSError` can be repeated: once all requests succeed,
it returns and the notification is gone. -/
def HandleCall.Retriable (session : AdsSession κ) : HandleCall κ → Prop
  | .delDeviceNotification errCode release notificationHandle userHandle =>
    ∀ code, (adsSyncDelDeviceNotificationReqEx errCode release notificationHandle userHandle session).1 =
        .error (.adsError code) →
      let failed := (adsSyncDelDeviceNotificationReqEx errCode release notificationHandle userHandle session).2
      let again := adsSyncDelDeviceNotificationReqEx 0 (.ok ()) notificationHandle userHandle failed
      again.1 = .ok () ∧ again.2.registered.get? notificationHandle = none
  | _ => True

/-- A delete of a registered notification raises no `ADSError`, neither for the
notification nor for the handle of its symbol. -/
def HandleCall.DeletesCleanly (session : AdsSession κ) : HandleCall κ → Prop
  | .delDeviceNotification errCode release notificationHandle userHandle =>
    session.registered.get? notificationHandle ≠ none →
      errCode = 0 ∧ (userHandle ≠ none → ∀ code, release ≠ .error (.adsError code))
  | _ => True

theorem AdsSession.Mirrored.without {session : AdsSession κ} (mirrored : session.Mirrored) (notification : UInt32) :
    (session.without notification).Mirrored := by
  intro other
  simp only [AdsSession.without, OrderedDict.get?_erase]
  split
  · rfl
  · exact mirrored other

/-! ## One call -/

section Steps
variable {session : AdsSession κ} (mirrored : session.Mirrored)
include mirrored

omit mirrored in
theorem AdsSession.Mirrored.of_same {later : AdsSession κ} (mirrored : session.Mirrored)
    (same : session.SameNotifications later) : later.Mirrored := by
  intro notification
  rw [same.1, same.2]
  exact mirrored notification

private theorem added_mirrored (handles : Multiset UInt32) (notification : UInt32) (registration : Registration κ) :
    AdsSession.Mirrored ⟨handles, session.registered.set notification registration,
      session.callbackStore.set notification registration.callback⟩ := by
  intro other
  simp only [OrderedDict.get?_set]
  split
  · rfl
  · exact mirrored other

private theorem add_mirrored (name : Option HandleReply) (add : Except Nat UInt32) (callback : κ) :
    (adsSyncAddDeviceNotificationReqEx name add callback session).2.Mirrored := by
  cases name with
  | none =>
    cases add with
    | error code => exact mirrored
    | ok notification => exact added_mirrored mirrored session.handles notification ⟨none, callback⟩
  | some reply =>
    cases reply with
    | refused code => exact mirrored
    | short handle bytesRead => exact mirrored
    | handle handle =>
      cases add with
      | error code => exact mirrored
      | ok notification =>
        exact added_mirrored mirrored (handle ::ₘ session.handles) notification ⟨some handle, callback⟩

/-- Calls other than a delete that fails keep the store as it should be. -/
theorem after_mirrored (call : HandleCall κ) (cleanly : call.DeletesCleanly session) :
    (call.after session).Mirrored := by
  cases call with
  | addDeviceNotification name add callback => exact add_mirrored mirrored name add callback
  | delDeviceNotification errCode release notificationHandle userHandle =>
    rw [HandleCall.after, HandleCall.run]
    cases registered : session.registered.get? notificationHandle with
    | none =>
      have forgotten := mirrored notificationHandle
      rw [registered] at forgotten
      rw [del_unknown registered forgotten]
      exact mirrored
    | some registration =>
      have kept := mirrored notificationHandle
      rw [registered] at kept
      obtain ⟨rfl, -⟩ := cleanly (by simp [registered])
      rw [del_succeeds registered kept]
      cases userHandle with
      | none => exact mirrored.without notificationHandle
      | some handle => cases release <;> exact mirrored.without notificationHandle
  | _ => exact mirrored.of_same (sameNotifications_after _ trivial)

/-- A delete leaves every callback alive and can be repeated if it raises,
exactly if it does not raise. -/
theorem del_safe_iff (errCode : Nat) (release : Result Unit) (notificationHandle : UInt32)
    (userHandle : Option UInt32) :
    (HandleCall.after session (.delDeviceNotification errCode release notificationHandle userHandle)).KeptAlive ∧
        HandleCall.Retriable session (.delDeviceNotification errCode release notificationHandle userHandle) ↔
      HandleCall.DeletesCleanly session (.delDeviceNotification errCode release notificationHandle userHandle) := by
  cases registered : session.registered.get? notificationHandle with
  | none =>
    have forgotten := mirrored notificationHandle
    rw [registered] at forgotten
    simp only [HandleCall.after, HandleCall.run, HandleCall.Retriable, HandleCall.DeletesCleanly, registered,
      del_unknown registered forgotten, ne_eq, not_true_eq_false, false_imp_iff, iff_true]
    refine ⟨mirrored.keptAlive, ?_⟩
    intro code raised
    cases raised
  | some registration =>
    have kept := mirrored notificationHandle
    rw [registered] at kept
    by_cases deleted : errCode = 0
    · subst deleted
      have alive : (HandleCall.after session
          (.delDeviceNotification 0 release notificationHandle userHandle)).KeptAlive := by
        rw [HandleCall.after, HandleCall.run, del_succeeds registered kept]
        cases userHandle with
        | none => exact (mirrored.without notificationHandle).keptAlive
        | some handle => cases release <;> exact (mirrored.without notificationHandle).keptAlive
      rw [and_iff_right alive]
      simp only [HandleCall.Retriable, HandleCall.DeletesCleanly, registered, del_succeeds registered kept]
      cases userHandle with
      | none => simp
      | some handle =>
        cases release with
        | ok value => simp
        | error e =>
          -- The notification is gone, so the second delete fails in the library and in the store.
          have gone := mirrored.without notificationHandle notificationHandle
          have unregistered : (session.without notificationHandle).registered.get? notificationHandle = none := by
            rw [AdsSession.without, OrderedDict.get?_erase, if_pos rfl]
          rw [unregistered] at gone
          simp [del_unknown unregistered gone]
    · refine iff_of_false ?_ ?_
      · rintro ⟨alive, -⟩
        rw [HandleCall.after, HandleCall.run, del_fails registered kept deleted] at alive
        have held := alive notificationHandle registration registered
        rw [OrderedDict.get?_erase, if_pos rfl] at held
        cases held
      · intro cleanly
        exact deleted (cleanly (by simp [registered])).1

end Steps

/-- Over a run of calls, every registered callback is alive in every state and
every delete that raises `ADSError` can be repeated, exactly if no delete of a
registered notification raises `ADSError`. -/
theorem callbacks_kept_alive_iff {session : AdsSession κ} (mirrored : session.Mirrored)
    (calls : List (HandleCall κ)) :
    (Throughout HandleCall.after AdsSession.KeptAlive session calls ∧
        Along HandleCall.after (fun later call => call.Retriable later) session calls) ↔
      Along HandleCall.after (fun later call => call.DeletesCleanly later) session calls := by
  have exact_ (later : AdsSession κ) (call : HandleCall κ) (mirrored : later.Mirrored) (_ : True) :
      ((HandleCall.after later call).KeptAlive ∧ call.Retriable later) ↔ call.DeletesCleanly later := by
    cases call with
    | delDeviceNotification errCode release notificationHandle userHandle =>
      exact del_safe_iff mirrored errCode release notificationHandle userHandle
    | _ =>
      refine iff_of_true ⟨(after_mirrored mirrored _ ?_).keptAlive, trivial⟩ trivial
      trivial
  have always : Along HandleCall.after (fun _ _ => True) session calls := along_true
  rw [throughout_iff, and_iff_right mirrored.keptAlive, ← along_and]
  exact along_iff exact_ (fun later call mirrored _ cleanly => after_mirrored mirrored call cleanly) mirrored always

/-- Two notifications, one of them deleted. -/
def cleanCalls : List (HandleCall String) :=
  [.addDeviceNotification none (.ok 7) "pressure", .addDeviceNotification (some (.handle 2)) (.ok 8) "speed",
   .delDeviceNotification 0 (.ok ()) 7 none, .delDeviceNotification 1861 (.ok ()) 9 none]

theorem cleanCalls_kept_alive :
    Throughout HandleCall.after AdsSession.KeptAlive (AdsSession.fresh String) cleanCalls ∧
      Along HandleCall.after (fun later call => call.Retriable later) (AdsSession.fresh String) cleanCalls := by
  refine (callbacks_kept_alive_iff (fun _ => rfl) cleanCalls).mpr ⟨trivial, trivial, ?_, ?_, trivial⟩
  · exact fun _ => ⟨rfl, fun named => absurd rfl named⟩
  · exact fun registered => absurd rfl registered

/-- A delete that times out drops the callback, and repeating it raises
`KeyError` after the notification is gone. -/
theorem failed_delete_drops_callback :
    let calls : List (HandleCall String) :=
      [.addDeviceNotification none (.ok 7) "pressure", .delDeviceNotification 1861 (.ok ()) 7 none]
    ¬ Throughout HandleCall.after AdsSession.KeptAlive (AdsSession.fresh String) calls ∧
      ¬ Along HandleCall.after (fun later call => call.Retriable later) (AdsSession.fresh String) calls := by
  constructor
  · intro alive
    have last := alive _ (List.mem_cons_of_mem _ (List.mem_cons_of_mem _ List.mem_cons_self)) 7 ⟨none, "pressure"⟩ rfl
    cases last
  · rintro ⟨-, retriable, -⟩
    obtain ⟨returned, -⟩ := retriable 1861 rfl
    cases returned

end PyAds
