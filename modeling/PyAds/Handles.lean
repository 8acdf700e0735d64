import Mathlib.Data.Multiset.Filter
import PyAds.Base.Runs
import PyAds.PlainRead

/-! Symbol handles and notifications. A call that goes by a name acquires a
handle, uses it, and releases it; a notification by name keeps its handle until
it is deleted. Each request can fail, and the library keeps its own record of
callbacks next to what the ADS library has registered. -/
namespace PyAds

/-- A notification in the ADS library: the handle of its symbol, if it was
added by name, and its callback. -/
structure Registration (κ : Type) where
  symbolHandle : Option UInt32
  callback : κ

/-- One connection: the handles that the PLC has given out and not taken back,
the notifications registered in the ADS library, and the entries of
`callback_store` for the address of the connection. -/
structure AdsSession (κ : Type) where
  handles : Multiset UInt32
  registered : OrderedDict UInt32 (Registration κ)
  callbackStore : OrderedDict UInt32 κ

namespace AdsSession

/-- Nothing acquired and nothing registered yet. -/
def fresh (κ : Type) : AdsSession κ := ⟨0, OrderedDict.empty, OrderedDict.empty⟩

def acquire (session : AdsSession κ) (handle : UInt32) : AdsSession κ :=
  { session with handles := handle ::ₘ session.handles }

/-- `adsReleaseHandle`, carried out by the PLC. -/
def release (session : AdsSession κ) (handle : UInt32) : AdsSession κ :=
  { session with handles := session.handles.erase handle }

/-- The handles of the named notifications that are registered. -/
def namedHandles (session : AdsSession κ) : Multiset UInt32 :=
  (session.registered.entries.filterMap (·.2.symbolHandle) : List UInt32)

end AdsSession

/-- The answer to the request for a handle. A short answer is refused although
the PLC has given out the handle. -/
inductive HandleReply where
  | refused (code : Nat)
  | short (handle : UInt32) (bytesRead : Nat)
  | handle (handle : UInt32)

/-- `adsGetHandle` -/
def getHandle (reply : HandleReply) (session : AdsSession κ) : Result UInt32 × AdsSession κ :=
  match reply with
  | .refused code => (.error (.adsError code), session)
  | .short handle bytesRead =>
    (.error (.runtimeError s!"Insufficient data (expected 4 bytes, {bytesRead} were read)."), session.acquire handle)
  | .handle handle => (.ok handle, session.acquire handle)

/-- `adsSyncReadByNameEx` and `adsSyncWriteByNameEx` without a given handle:
`use` is the outcome of the read or write request, with its checks. -/
def useByName (reply : HandleReply) (use : Result α) (session : AdsSession κ) : Result α × AdsSession κ :=
  match getHandle reply session with
  | (.error e, session) => (.error e, session)
  | (.ok handle, session) =>
    match use with
    | .error e => (.error e, session)
    | .ok value => (.ok value, session.release handle)

/-- `Connection.call_rpc_method`, which releases the handle in any case. -/
def callRpcMethod (reply : HandleReply) (use : Result α) (session : AdsSession κ) : Result α × AdsSession κ :=
  match getHandle reply session with
  | (.error e, session) => (.error e, session)
  | (.ok handle, session) => (use, session.release handle)

/-- What `add_device_notification` returns. -/
abbrev NotificationHandles := UInt32 × Option UInt32

/-- `adsSyncAddDeviceNotificationReqEx`, by name with the answer to the request
for a handle, or else by address; `add` is the answer of the ADS library. -/
def adsSyncAddDeviceNotificationReqEx (name : Option HandleReply) (add : Except Nat UInt32) (callback : κ)
    (session : AdsSession κ) : Result (UInt32 × Option UInt32) × AdsSession κ :=
  match (match name with
    | some reply =>
      match getHandle reply session with
      | (.error e, session) => (.error e, session)
      | (.ok handle, session) => (.ok (some handle), session)
    | none => (.ok none, session) : Result (Option UInt32) × AdsSession κ) with
  | (.error e, session) => (.error e, session)
  | (.ok hnl, session) =>
    match add with
    | .error code => (.error (.adsError code), session)
    | .ok notification =>
      (.ok (notification, hnl), { session with
        registered := session.registered.set notification ⟨hnl, callback⟩
        callbackStore := session.callbackStore.set notification callback })

/-- The code for a notification handle that is not registered. -/
def ADSERR_DEVICE_NOTIFYHNDINVALID : Nat := 1812

/-- The ADS library deletes a notification unless the request fails or there
is no such notification. -/
def deleteRegistered (errCode : Nat) (notificationHandle : UInt32) (session : AdsSession κ) : Nat × AdsSession κ :=
  match session.registered.get? notificationHandle with
  | none => (if errCode = 0 then ADSERR_DEVICE_NOTIFYHNDINVALID else errCode, session)
  | some _ =>
    if errCode = 0 then (0, { session with registered := session.registered.erase notificationHandle })
    else (errCode, session)

/-- `adsSyncDelDeviceNotificationReqEx`. Note that the callback is dropped
before the error code is looked at. -/
def adsSyncDelDeviceNotificationReqEx (errCode : Nat) (release : Result Unit) (notificationHandle : UInt32)
    (userHandle : Option UInt32) (session : AdsSession κ) : Result Unit × AdsSession κ :=
  let (errCode, session) := deleteRegistered errCode notificationHandle session
  match session.callbackStore.get? notificationHandle with
  | none => (.error (.codeKeyError notificationHandle.toNat), session)
  | some _ =>
    let session := { session with callbackStore := session.callbackStore.erase notificationHandle }
    if errCode ≠ 0 then (.error (.adsError errCode), session)
    else
      match userHandle with
      | none => (.ok (), session)
      | some handle =>
        match release with
        | .error e => (.error e, session)
        | .ok () => (.ok (), session.release handle)

/-! ## Calls -/

/-- The calls that deal with handles, each with the outcomes of its requests.
A data type that has to be looked up, and a value that has to be turned into
bytes, can fail before the first of them. -/
inductive HandleCall (κ : Type) where
  | readByName (plcDatatype : Result Unit) (reply : HandleReply) (read : Result Unit)
  | writeByName (plcDatatype : Result Unit) (reply : HandleReply) (write : Result Unit)
  | readStructureByName (size : Result Unit) (reply : HandleReply) (read : Result Unit) (decode : Result Unit)
  | writeStructureByName (bytes : Result Unit) (reply : HandleReply) (write : Result Unit)
  | callRpcMethod (reply : HandleReply) (readWrite : Result Unit)
  | addDeviceNotification (name : Option HandleReply) (add : Except Nat UInt32) (callback : κ)
  | delDeviceNotification (errCode : Nat) (release : Result Unit) (notificationHandle : UInt32)
      (userHandle : Option UInt32)

/-- A use by name after a step that touches no handle. -/
def prepared (before : Result Unit) (reply : HandleReply) (use : Result Unit) (session : AdsSession κ) :
    Result Unit × AdsSession κ :=
  match before with
  | .error e => (.error e, session)
  | .ok () => useByName reply use session

def HandleCall.run (session : AdsSession κ) : HandleCall κ → Result Unit × AdsSession κ
  | .readByName plcDatatype reply read => prepared plcDatatype reply read session
  | .writeByName plcDatatype reply write => prepared plcDatatype reply write session
  | .readStructureByName size reply read decode =>
    match prepared size reply read session with
    | (.error e, session) => (.error e, session)
    | (.ok (), session) => (decode, session)
  | .writeStructureByName bytes reply write => prepared bytes reply write session
  | .callRpcMethod reply readWrite => PyAds.callRpcMethod reply readWrite session
  | .addDeviceNotification name add callback =>
    let (handles, session) := adsSyncAddDeviceNotificationReqEx name add callback session
    (handles.map fun _ => (), session)
  | .delDeviceNotification errCode release notificationHandle userHandle =>
    adsSyncDelDeviceNotificationReqEx errCode release notificationHandle userHandle session

/-- The session after a call. -/
def HandleCall.after (session : AdsSession κ) (call : HandleCall κ) : AdsSession κ := (call.run session).2

/-! ## One delete -/

/-- A delete drops its own notification at most. -/
theorem del_erases (errCode : Nat) (release : Result Unit) (notification : UInt32) (userHandle : Option UInt32)
    (session : AdsSession κ) :
    let later := (adsSyncDelDeviceNotificationReqEx errCode release notification userHandle session).2
    (later.registered = session.registered ∨ later.registered = session.registered.erase notification) ∧
      (later.callbackStore = session.callbackStore ∨
        later.callbackStore = session.callbackStore.erase notification) := by
  have library : ((deleteRegistered errCode notification session).2.registered = session.registered ∨
      (deleteRegistered errCode notification session).2.registered = session.registered.erase notification) ∧
      (deleteRegistered errCode notification session).2.callbackStore = session.callbackStore := by
    unfold deleteRegistered
    split
    · exact ⟨.inl rfl, rfl⟩
    · split
      · exact ⟨.inr rfl, rfl⟩
      · exact ⟨.inl rfl, rfl⟩
  obtain ⟨registered, stored⟩ := library
  simp only [adsSyncDelDeviceNotificationReqEx]
  split
  · exact ⟨registered, .inl stored⟩
  · have dropped : (deleteRegistered errCode notification session).2.callbackStore.erase notification =
        session.callbackStore.erase notification := by rw [stored]
    split
    · exact ⟨registered, .inr dropped⟩
    · split
      · exact ⟨registered, .inr dropped⟩
      · split <;> exact ⟨registered, .inr dropped⟩

section Delete
variable {session : AdsSession κ} {notificationHandle : UInt32}

/-- A notification that neither side knows. -/
theorem del_unknown (unregistered : session.registered.get? notificationHandle = none)
    (forgotten : session.callbackStore.get? notificationHandle = none) (errCode : Nat) (release : Result Unit)
    (userHandle : Option UInt32) :
    adsSyncDelDeviceNotificationReqEx errCode release notificationHandle userHandle session =
      (.error (.codeKeyError notificationHandle.toNat), session) := by
  simp only [adsSyncDelDeviceNotificationReqEx, deleteRegistered, unregistered, forgotten]

/-- A request that deletes nothing. -/
theorem del_refused (refused : session.registered.get? notificationHandle = none ∨ errCode ≠ 0)
    (release : Result Unit) (userHandle : Option UInt32) :
    (adsSyncDelDeviceNotificationReqEx errCode release notificationHandle userHandle session).2.handles =
        session.handles ∧
      (adsSyncDelDeviceNotificationReqEx errCode release notificationHandle userHandle session).2.registered =
        session.registered := by
  have library : ∃ code, code ≠ 0 ∧ deleteRegistered errCode notificationHandle session = (code, session) := by
    unfold deleteRegistered
    by_cases deleted : errCode = 0
    · rw [refused.resolve_right (not_not.mpr deleted), if_pos deleted]
      exact ⟨ADSERR_DEVICE_NOTIFYHNDINVALID, by decide, rfl⟩
    · refine ⟨errCode, deleted, ?_⟩
      cases session.registered.get? notificationHandle <;> simp [deleted]
  obtain ⟨code, failed, same⟩ := library
  simp only [adsSyncDelDeviceNotificationReqEx, same]
  cases session.callbackStore.get? notificationHandle with
  | none => exact ⟨rfl, rfl⟩
  | some callback =>
    rw [if_pos failed]
    exact ⟨rfl, rfl⟩

/-- A notification whose callback was dropped before. -/
theorem del_forgotten (registered : session.registered.get? notificationHandle = some registration)
    (forgotten : session.callbackStore.get? notificationHandle = none) (release : Result Unit)
    (userHandle : Option UInt32) :
    adsSyncDelDeviceNotificationReqEx 0 release notificationHandle userHandle session =
      (.error (.codeKeyError notificationHandle.toNat),
        { session with registered := session.registered.erase notificationHandle }) := by
  simp only [adsSyncDelDeviceNotificationReqEx, deleteRegistered, registered, forgotten, ↓reduceIte]

/-- The session without a notification and its callback. -/
def AdsSession.without (session : AdsSession κ) (notificationHandle : UInt32) : AdsSession κ :=
  ⟨session.handles, session.registered.erase notificationHandle, session.callbackStore.erase notificationHandle⟩

variable (registered : session.registered.get? notificationHandle = some registration)
  (kept : session.callbackStore.get? notificationHandle = some callback)
include registered kept

theorem del_succeeds (release : Result Unit) (userHandle : Option UInt32) :
    adsSyncDelDeviceNotificationReqEx 0 release notificationHandle userHandle session =
      match userHandle with
      | none => (.ok (), session.without notificationHandle)
      | some handle =>
        match release with
        | .error e => (.error e, session.without notificationHandle)
        | .ok () => (.ok (), (session.without notificationHandle).release handle) := by
  simp only [adsSyncDelDeviceNotificationReqEx, deleteRegistered, registered, kept, ↓reduceIte, ne_eq,
    not_true_eq_false]
  rfl

theorem del_fails (failed : errCode ≠ 0) (release : Result Unit) (userHandle : Option UInt32) :
    adsSyncDelDeviceNotificationReqEx errCode release notificationHandle userHandle session =
      (.error (.adsError errCode),
        { session with callbackStore := session.callbackStore.erase notificationHandle }) := by
  simp only [adsSyncDelDeviceNotificationReqEx, deleteRegistered, registered, kept, failed, ↓reduceIte, ne_eq,
    not_false_eq_true]

end Delete

/-! ## Calls that go by a name -/

/-- Calls that leave the notifications alone. -/
def AdsSession.SameNotifications (session later : AdsSession κ) : Prop :=
  later.registered = session.registered ∧ later.callbackStore = session.callbackStore

def HandleCall.ByName : HandleCall κ → Prop
  | .addDeviceNotification .. | .delDeviceNotification .. => False
  | _ => True

section ByName
variable {session : AdsSession κ}

theorem sameNotifications_useByName (reply : HandleReply) (use : Result Unit) :
    session.SameNotifications (useByName reply use session).2 := by
  cases reply with
  | handle handle => cases use <;> exact ⟨rfl, rfl⟩
  | _ => exact ⟨rfl, rfl⟩

theorem sameNotifications_prepared (before : Result Unit) (reply : HandleReply) (use : Result Unit) :
    session.SameNotifications (prepared before reply use session).2 := by
  cases before with
  | error e => exact ⟨rfl, rfl⟩
  | ok value => exact sameNotifications_useByName reply use

theorem after_readStructureByName (before : Result Unit) (reply : HandleReply) (use decode : Result Unit) :
    HandleCall.after session (.readStructureByName before reply use decode) =
      (prepared before reply use session).2 := by
  rw [HandleCall.after, HandleCall.run]
  rcases prepared before reply use session with ⟨outcome, later⟩
  cases outcome <;> rfl

theorem sameNotifications_after (call : HandleCall κ) (named : call.ByName) :
    session.SameNotifications (call.after session) := by
  cases call with
  | readByName before reply use => exact sameNotifications_prepared before reply use
  | writeByName before reply use => exact sameNotifications_prepared before reply use
  | readStructureByName before reply use decode =>
    rw [after_readStructureByName]
    exact sameNotifications_prepared before reply use
  | writeStructureByName before reply use => exact sameNotifications_prepared before reply use
  | callRpcMethod reply use => cases reply <;> exact ⟨rfl, rfl⟩
  | addDeviceNotification name add callback => exact named.elim
  | delDeviceNotification errCode release notificationHandle userHandle => exact named.elim

end ByName

end PyAds
