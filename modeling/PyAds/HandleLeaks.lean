import PyAds.Handles

/-! Which handles stay with the PLC. Outside of calls these should be the ones
of the named notifications; every way to lose a handle is a failure between its
acquisition and the release that the call would make. -/
namespace PyAds
open Runs

namespace AdsSession

/-- The PLC's handles are those of the named notifications. -/
def Tracked (session : AdsSession κ) : Prop := session.handles = session.namedHandles

theorem namedHandles_set {session : AdsSession κ} (fresh : notification ∉ session.registered.keys)
    (registration : Registration κ) (handles : Multiset UInt32) (callbackStore : OrderedDict UInt32 κ) :
    namedHandles ⟨handles, session.registered.set notification registration, callbackStore⟩ =
      session.namedHandles + registration.symbolHandle.elim 0 ({·}) := by
  rw [namedHandles, OrderedDict.set_of_not_mem fresh, List.filterMap_append, ← Multiset.coe_add]
  congr 1
  cases held : registration.symbolHandle <;> simp [held]

theorem namedHandles_erase {session : AdsSession κ}
    (found : session.registered.get? notification = some registration) (handles : Multiset UInt32)
    (callbackStore : OrderedDict UInt32 κ) :
    session.namedHandles = registration.symbolHandle.elim 0 ({·}) +
      namedHandles ⟨handles, session.registered.erase notification, callbackStore⟩ := by
  have split := (OrderedDict.perm_erase found).filterMap (·.2.symbolHandle)
  rw [namedHandles, Multiset.coe_eq_coe.mpr split]
  cases held : registration.symbolHandle with
  | none => simp [held, namedHandles]
  | some handle => simp [held, namedHandles]

end AdsSession

open AdsSession

/-- A handle request that gives a handle is answered in full, and what the
handle is acquired for succeeds. -/
def HandleReply.Served (succeeds : Prop) : HandleReply → Prop
  | .refused _ => True
  | .short .. => False
  | .handle _ => succeeds

/-- No failure of the call comes between acquiring a handle and releasing it. -/
def HandleCall.KeepsTrack (session : AdsSession κ) : HandleCall κ → Prop
  | .readByName before reply use | .writeByName before reply use | .readStructureByName before reply use _
  | .writeStructureByName before reply use => before = .ok () → reply.Served (use = .ok ())
  | .callRpcMethod reply _ => reply.Served True
  | .addDeviceNotification name add _ =>
    ∀ reply, name = some reply → reply.Served (∃ notification, add = .ok notification)
  | .delDeviceNotification errCode _ notificationHandle _ => errCode = 0 →
    ∀ registration, session.registered.get? notificationHandle = some registration →
      registration.symbolHandle ≠ none → notificationHandle ∈ session.callbackStore.keys

/-- The library gives out a notification handle that is not in use, a
notification is deleted with the pair of handles that adding it returned, and
a release that is issued succeeds. -/
def HandleCall.Lawful (session : AdsSession κ) : HandleCall κ → Prop
  | .addDeviceNotification _ add _ =>
    ∀ notification, add = .ok notification → notification ∉ session.registered.keys
  | .delDeviceNotification _ release notificationHandle userHandle => release = .ok () ∧
    ∀ registration, session.registered.get? notificationHandle = some registration →
      userHandle = registration.symbolHandle
  | _ => True

/-! ## One call -/

section Steps
variable {session : AdsSession κ} (tracked : session.Tracked)
include tracked

private theorem not_tracked_acquire (handle : UInt32) : ¬ (session.acquire handle).Tracked := by
  intro again
  have grown : handle ::ₘ session.handles = session.namedHandles := again
  rw [← tracked] at grown
  have card := congrArg Multiset.card grown
  rw [Multiset.card_cons] at card
  omega

private theorem tracked_release_acquire (handle : UInt32) : ((session.acquire handle).release handle).Tracked := by
  have back : (handle ::ₘ session.handles).erase handle = session.handles := Multiset.erase_cons_head ..
  exact back.trans tracked

theorem useByName_tracked_iff (reply : HandleReply) (use : Result Unit) :
    (useByName reply use session).2.Tracked ↔ reply.Served (use = .ok ()) := by
  cases reply with
  | refused code => exact iff_of_true tracked trivial
  | short handle bytesRead => exact iff_of_false (not_tracked_acquire tracked handle) id
  | handle handle =>
    cases use with
    | error e => exact iff_of_false (not_tracked_acquire tracked handle) (by simp [HandleReply.Served])
    | ok value => exact iff_of_true (tracked_release_acquire tracked handle) rfl

theorem prepared_tracked_iff (before : Result Unit) (reply : HandleReply) (use : Result Unit) :
    (prepared before reply use session).2.Tracked ↔ (before = .ok () → reply.Served (use = .ok ())) := by
  cases before with
  | error e => exact iff_of_true tracked (by simp)
  | ok value => simpa [prepared] using useByName_tracked_iff tracked reply use

theorem callRpcMethod_tracked_iff (reply : HandleReply) (use : Result Unit) :
    (callRpcMethod reply use session).2.Tracked ↔ reply.Served True := by
  cases reply with
  | refused code => exact iff_of_true tracked trivial
  | short handle bytesRead => exact iff_of_false (not_tracked_acquire tracked handle) id
  | handle handle => exact iff_of_true (tracked_release_acquire tracked handle) trivial

theorem add_tracked_iff (name : Option HandleReply) (add : Except Nat UInt32) (callback : κ)
    (fresh : ∀ notification, add = .ok notification → notification ∉ session.registered.keys) :
    (adsSyncAddDeviceNotificationReqEx name add callback session).2.Tracked ↔
      ∀ reply, name = some reply → reply.Served (∃ notification, add = .ok notification) := by
  cases name with
  | none =>
    refine iff_of_true ?_ (by simp)
    cases add with
    | error code => exact tracked
    | ok notification =>
      have named := namedHandles_set (fresh notification rfl) ⟨none, callback⟩ session.handles
        (session.callbackStore.set notification callback)
      exact tracked.trans ((Multiset.add_zero _).symm.trans named.symm)
  | some reply =>
    simp only [Option.some.injEq, forall_eq']
    cases reply with
    | refused code => exact iff_of_true tracked trivial
    | short handle bytesRead => exact iff_of_false (not_tracked_acquire tracked handle) id
    | handle handle =>
      cases add with
      | error code => exact iff_of_false (not_tracked_acquire tracked handle) (by simp [HandleReply.Served])
      | ok notification =>
        refine iff_of_true ?_ ⟨notification, rfl⟩
        have named := namedHandles_set (fresh notification rfl) ⟨some handle, callback⟩ (handle ::ₘ session.handles)
          (session.callbackStore.set notification callback)
        have grown : handle ::ₘ session.handles = session.namedHandles + {handle} := by
          rw [tracked]
          exact (Multiset.singleton_add ..).symm.trans (Multiset.add_comm ..)
        exact grown.trans named.symm

/-- The handle of a notification that is forgotten, but was registered. -/
theorem tracked_forgotten_iff (found : session.registered.get? notificationHandle = some registration) :
    Tracked { session with registered := session.registered.erase notificationHandle } ↔
      registration.symbolHandle = none := by
  have split := tracked.trans (namedHandles_erase found session.handles session.callbackStore)
  cases held : registration.symbolHandle with
  | none =>
    rw [held] at split
    exact iff_of_true (split.trans (Multiset.zero_add _)) rfl
  | some handle =>
    rw [held] at split
    refine iff_of_false ?_ (by simp)
    intro again
    have grown := congrArg Multiset.card (again.symm.trans split)
    rw [Multiset.card_add] at grown
    simp at grown

/-- A notification is deleted together with its handle. -/
theorem tracked_deleted (found : session.registered.get? notificationHandle = some registration)
    (kept : session.callbackStore.get? notificationHandle = some callback) :
    (adsSyncDelDeviceNotificationReqEx 0 (.ok ()) notificationHandle registration.symbolHandle session).2.Tracked := by
  rw [del_succeeds found kept]
  have split (handles : Multiset UInt32) := tracked.trans (namedHandles_erase found handles
    (session.callbackStore.erase notificationHandle))
  cases held : registration.symbolHandle with
  | none =>
    rw [held] at split
    exact (split session.handles).trans (Multiset.zero_add _)
  | some handle =>
    rw [held] at split
    have back := congrArg (Multiset.erase · handle) (split (session.handles.erase handle))
    exact back.trans (by rw [Option.elim_some, Multiset.singleton_add, Multiset.erase_cons_head]; rfl)

theorem del_tracked_iff (errCode : Nat) (notificationHandle : UInt32) (userHandle : Option UInt32)
    (pair : ∀ registration, session.registered.get? notificationHandle = some registration →
      userHandle = registration.symbolHandle) :
    (adsSyncDelDeviceNotificationReqEx errCode (.ok ()) notificationHandle userHandle session).2.Tracked ↔
      (errCode = 0 → ∀ registration, session.registered.get? notificationHandle = some registration →
        registration.symbolHandle ≠ none → notificationHandle ∈ session.callbackStore.keys) := by
  have unchanged (refused : session.registered.get? notificationHandle = none ∨ errCode ≠ 0) :
      (adsSyncDelDeviceNotificationReqEx errCode (.ok ()) notificationHandle userHandle session).2.Tracked := by
    obtain ⟨handles, registered⟩ := del_refused refused (.ok ()) userHandle
    rw [Tracked, handles, namedHandles, registered]
    exact tracked
  cases found : session.registered.get? notificationHandle with
  | none => exact iff_of_true (unchanged (.inl found)) (by simp)
  | some registration =>
    by_cases deleted : errCode = 0
    · subst deleted
      simp only [Option.some.injEq, forall_eq', forall_const]
      cases kept : session.callbackStore.get? notificationHandle with
      | none =>
        have forgotten := OrderedDict.get?_eq_none_iff.mp kept
        simp only [del_forgotten found kept, forgotten, imp_false, not_not]
        exact tracked_forgotten_iff tracked found
      | some callback =>
        have known : notificationHandle ∈ session.callbackStore.keys := by
          by_contra absent
          rw [OrderedDict.get?_eq_none_iff.mpr absent] at kept
          cases kept
        refine iff_of_true ?_ fun _ => known
        rw [pair registration found]
        exact tracked_deleted tracked found kept
    · exact iff_of_true (unchanged (.inr deleted)) (by simp [deleted])

end Steps

/-- A call keeps the handles tracked exactly if none of its failures comes
between acquiring and releasing one. -/
theorem after_tracked_iff {session : AdsSession κ} (tracked : session.Tracked) (call : HandleCall κ)
    (lawful : call.Lawful session) : (call.after session).Tracked ↔ call.KeepsTrack session := by
  cases call with
  | readByName before reply use => exact prepared_tracked_iff tracked before reply use
  | writeByName before reply use => exact prepared_tracked_iff tracked before reply use
  | readStructureByName before reply use decode =>
    rw [after_readStructureByName]
    exact prepared_tracked_iff tracked before reply use
  | writeStructureByName before reply use => exact prepared_tracked_iff tracked before reply use
  | callRpcMethod reply use => exact callRpcMethod_tracked_iff tracked reply use
  | addDeviceNotification name add callback => exact add_tracked_iff tracked name add callback lawful
  | delDeviceNotification errCode release notificationHandle userHandle =>
    obtain ⟨rfl, pair⟩ := lawful
    exact del_tracked_iff tracked errCode notificationHandle userHandle pair

/-- Over a run of calls, the PLC's handles are always those of the named
notifications exactly if no call loses a handle to a failure. -/
theorem handles_tracked_iff {session : AdsSession κ} (tracked : session.Tracked) (calls : List (HandleCall κ))
    (lawful : Along HandleCall.after (fun session call => call.Lawful session) session calls) :
    Throughout HandleCall.after Tracked session calls ↔
      Along HandleCall.after (fun session call => call.KeepsTrack session) session calls := by
  have exact_ (later : AdsSession κ) (call : HandleCall κ) (tracked : later.Tracked) (lawful : call.Lawful later) :
      (HandleCall.after later call).Tracked ↔ call.KeepsTrack later := after_tracked_iff tracked call lawful
  exact invariant_iff exact_ tracked lawful

/-- A failing call of a method, a notification added and deleted, and a read. -/
def carefulCalls : List (HandleCall Unit) :=
  [.callRpcMethod (.handle 1) (.error (.adsError 1861)), .addDeviceNotification (some (.handle 2)) (.ok 7) (),
   .delDeviceNotification 0 (.ok ()) 7 (some 2), .readByName (.ok ()) (.handle 3) (.ok ())]

theorem carefulCalls_tracked : Throughout HandleCall.after Tracked (AdsSession.fresh Unit) carefulCalls := by
  have start : (AdsSession.fresh Unit).Tracked := rfl
  refine (handles_tracked_iff start carefulCalls ?_).mpr ?_
  · refine ⟨trivial, ?_, ⟨rfl, ?_⟩, trivial, trivial⟩
    · intro notification _
      exact List.not_mem_nil
    · intro registration found
      cases found
      rfl
  · refine ⟨trivial, ?_, ?_, fun _ => rfl, trivial⟩
    · rintro reply same
      cases same
      exact ⟨7, rfl⟩
    · intro _ registration _ _
      exact List.mem_singleton.mpr rfl

/-- A read that times out leaves its handle with the PLC. -/
theorem failed_read_leaks : ¬ Throughout HandleCall.after Tracked (AdsSession.fresh Unit)
    [.readByName (.ok ()) (.handle 1) (.error (.adsError 1861))] := by
  intro all
  have last := all _ (List.mem_cons_of_mem _ List.mem_cons_self)
  have grown : ({1} : Multiset UInt32) = 0 := last
  simp at grown

/-! ## The plain read -/

/-- What a read by name returns is what its use of the handle returns. -/
theorem adsSyncReadByNameEx_eq (plc : NamePlc) (dataName : String) (dataType : PlcDataType)
    (acquired : plc.adsGetHandle dataName = .ok handle) (released : plc.adsReleaseHandle handle = .ok ())
    (session : AdsSession κ) : adsSyncReadByNameEx plc dataName (some dataType) =
      (useByName (.handle handle) (adsSyncReadReqEx2 (plc.adsSyncRead handle) dataType) session).1 := by
  simp only [adsSyncReadByNameEx, acquired, bind, Except.bind, useByName, getHandle]
  cases adsSyncReadReqEx2 (plc.adsSyncRead handle) dataType with
  | error e => rfl
  | ok value =>
    simp only [released]
    rfl

end PyAds
