import PyAds.Handles
import PyAds.Sessions
import PyAds.SymbolNotifications

/-! A symbol and its notifications. The symbol keeps the handles, the connection
its port and the library the callbacks; a request that fails, or a connection
that is closed in between, changes one of them without the others. -/
namespace PyAds

/-- The callback of a notification: `_value_callback`, one given to the symbol,
or one of another part of the program. -/
inductive SymbolCallback (κ : Type) where
  | value
  | given (callback : κ)
  | foreign (callback : κ)

def SymbolCallback.Own : SymbolCallback κ → Prop
  | .foreign _ => False
  | _ => True

/-- A symbol and its connection, with the notifications that are registered
through the port of the connection. -/
structure SymbolSession (κ : Type) extends Session where
  ads : AdsSession (SymbolCallback κ)
  handlesList : List (Option NotificationHandles)
  autoUpdateHandle : Option NotificationHandles

/-! ## The connection -/

/-- `Connection.add_device_notification` at an address. -/
def Connection.addDeviceNotification (port : Option Int) (add : Except Nat UInt32) (callback : κ)
    (session : AdsSession κ) : Result (Option NotificationHandles) × AdsSession κ :=
  match port with
  | none => (.ok none, session)
  | some _ =>
    match adsSyncAddDeviceNotificationReqEx none add callback session with
    | (.error e, session) => (.error e, session)
    | (.ok handles, session) => (.ok (some handles), session)

@[simp] theorem Connection.addDeviceNotification_open (port : Int) (notification : UInt32) (callback : κ)
    (session : AdsSession κ) :
    Connection.addDeviceNotification (some port) (.ok notification) callback session =
      (.ok (some (notification, none)), { session with
        registered := session.registered.set notification ⟨none, callback⟩
        callbackStore := session.callbackStore.set notification callback }) := rfl

/-- `Connection.del_device_notification(*handles)`, with the answer of the PLC
for each notification. A notification at an address has no handle to release. -/
def Connection.delDeviceNotification (port : Option Int) (errCode : UInt32 → Nat)
    (handles : Option NotificationHandles) (session : AdsSession κ) : Result Unit × AdsSession κ :=
  match handles with
  | none => (.error .typeError, session)
  | some (notificationHandle, userHandle) =>
    match port with
    | none => (.ok (), session)
    | some _ =>
      adsSyncDelDeviceNotificationReqEx (errCode notificationHandle) (.ok ()) notificationHandle userHandle session

/-! ## The symbol -/

/-- The loop of `clear_device_notifications`. -/
def deleteAll (port : Option Int) (errCode : UInt32 → Nat) :
    List (Option NotificationHandles) → AdsSession κ → Result Unit × AdsSession κ
  | [], session => (.ok (), session)
  | handles :: rest, session =>
    match Connection.delDeviceNotification port errCode handles session with
    | (.error e, session) => (.error e, session)
    | (.ok (), session) => deleteAll port errCode rest session

namespace SymbolSession

/-- A symbol that has been created; the constructor then assigns `auto_update`. -/
def new (connection : Session) (ads : AdsSession (SymbolCallback κ)) : SymbolSession κ := ⟨connection, ads, [], none⟩

/-- `add_device_notification`; without `attr`, which is given by its length,
the size of the symbol is looked up. -/
def addDeviceNotification (symbol : AdsSymbol) (attr : Option Nat) (add : Except Nat UInt32)
    (callback : SymbolCallback κ) (s : SymbolSession κ) : Result (Option NotificationHandles) × SymbolSession κ :=
  match attr.elim symbol.notificationLength Except.ok with
  | .error e => (.error e, s)
  | .ok _ =>
    match Connection.addDeviceNotification s.port add callback s.ads with
    | (.error e, ads) => (.error e, { s with ads := ads })
    | (.ok handles, ads) => (.ok handles, { s with ads := ads, handlesList := s.handlesList ++ [handles] })

/-- `clear_device_notifications` -/
def clearDeviceNotifications (errCode : UInt32 → Nat) (s : SymbolSession κ) : Result Unit × SymbolSession κ :=
  match deleteAll s.port errCode s.handlesList s.ads with
  | (.error e, ads) => (.error e, { s with ads := ads })
  | (.ok (), ads) => (.ok (), { s with ads := ads, handlesList := [], autoUpdateHandle := none })

/-- `del_device_notification` -/
def delDeviceNotification (errCode : UInt32 → Nat) (handles : Option NotificationHandles) (s : SymbolSession κ) :
    Result Unit × SymbolSession κ :=
  if handles ∈ s.handlesList then
    match Connection.delDeviceNotification s.port errCode handles s.ads with
    | (.error e, ads) => (.error e, { s with ads := ads })
    | (.ok (), ads) => (.ok (), { s with ads := ads, handlesList := s.handlesList.erase handles })
  else (.ok (), s)

/-- `auto_update` -/
def autoUpdate (s : SymbolSession κ) : Bool := s.autoUpdateHandle.isSome

/-- The setter of `auto_update`. -/
def setAutoUpdate (symbol : AdsSymbol) (value : Bool) (add : Except Nat UInt32) (errCode : UInt32 → Nat)
    (s : SymbolSession κ) : Result Unit × SymbolSession κ :=
  match value, s.autoUpdateHandle with
  | true, none =>
    match s.addDeviceNotification symbol none add .value with
    | (.error e, s) => (.error e, s)
    | (.ok handles, s) => (.ok (), { s with autoUpdateHandle := handles })
  | false, some handles =>
    match s.delDeviceNotification errCode (some handles) with
    | (.error e, s) => (.error e, s)
    | (.ok (), s) => (.ok (), { s with autoUpdateHandle := none })
  | _, _ => (.ok (), s)

/-- `__del__` -/
def destruct (errCode : UInt32 → Nat) (s : SymbolSession κ) : Result Unit × SymbolSession κ :=
  match s.clearDeviceNotifications errCode with
  | (.error (.adsError _), s) => (.ok (), s)
  | outcome => outcome

/-- The connection has been opened or closed. Notifications end with the port
that they were made through, and through a new one there are none yet. -/
def withConnection (s : SymbolSession κ) (connection : Session) : SymbolSession κ :=
  { s with
    toSession := connection
    ads := if connection.port = s.port then s.ads else { s.ads with registered := OrderedDict.empty } }

end SymbolSession

/-- The calls on a symbol and its connection, each with the answers to its
requests. -/
inductive SymbolCall (κ : Type) where
  | open_ (router : Router)
  | close (router : Router)
  | addDeviceNotification (attr : Option Nat) (add : Except Nat UInt32) (callback : κ)
  | setAutoUpdate (value : Bool) (add : Except Nat UInt32) (errCode : UInt32 → Nat)
  | delDeviceNotification (handles : Option NotificationHandles) (errCode : UInt32 → Nat)
  | clearDeviceNotifications (errCode : UInt32 → Nat)

namespace SymbolCall

def run (linux : Bool) (symbol : AdsSymbol) (s : SymbolSession κ) : SymbolCall κ → Result Unit × SymbolSession κ
  | .open_ router =>
    let (outcome, connection) := s.toSession.open_ linux router
    (outcome, s.withConnection connection)
  | .close router =>
    let (outcome, connection) := s.toSession.close router
    (outcome, s.withConnection connection)
  | .addDeviceNotification attr add callback =>
    let (handles, s) := s.addDeviceNotification symbol attr add (.given callback)
    (handles.map fun _ => (), s)
  | .setAutoUpdate value add errCode => s.setAutoUpdate symbol value add errCode
  | .delDeviceNotification handles errCode => s.delDeviceNotification errCode handles
  | .clearDeviceNotifications errCode => s.clearDeviceNotifications errCode

/-- The state after a call. -/
def after (linux : Bool) (symbol : AdsSymbol) (s : SymbolSession κ) (call : SymbolCall κ) : SymbolSession κ :=
  (call.run linux symbol s).2

/-- The same call again, with no error for its delete requests. -/
def again : SymbolCall κ → SymbolCall κ
  | .setAutoUpdate value add _ => .setAutoUpdate value add fun _ => 0
  | .delDeviceNotification handles _ => .delDeviceNotification handles fun _ => 0
  | .clearDeviceNotifications _ => .clearDeviceNotifications fun _ => 0
  | call => call

end SymbolCall

/-! ## One delete -/

/-- The PLC carries out the request to delete a notification. -/
def AdsSession.Deletes (session : AdsSession κ) (errCode : Nat) (notification : UInt32) : Prop :=
  session.registered.get? notification ≠ none ∧ errCode = 0

/-- `callback_store` has the callback of a notification. -/
def AdsSession.Stores (session : AdsSession κ) (notification : UInt32) : Prop :=
  session.callbackStore.get? notification ≠ none

namespace AdsSession
variable {session : AdsSession κ} {notification other : UInt32}

theorem deletes_without :
    (session.without notification).Deletes errCode other ↔ other ≠ notification ∧ session.Deletes errCode other := by
  simp only [Deletes, without, OrderedDict.get?_erase]
  by_cases same : notification = other
  · simp [same]
  · simp [same, Ne.symm same]

theorem stores_without :
    (session.without notification).Stores other ↔ other ≠ notification ∧ session.Stores other := by
  simp only [Stores, without, OrderedDict.get?_erase]
  by_cases same : notification = other
  · simp [same]
  · simp [same, Ne.symm same]

theorem deleteRegistered_iff : (deleteRegistered errCode notification session).1 = 0 ↔
    session.Deletes errCode notification := by
  unfold deleteRegistered Deletes
  by_cases deleted : errCode = 0
  · cases session.registered.get? notification <;> simp [deleted, ADSERR_DEVICE_NOTIFYHNDINVALID]
  · cases session.registered.get? notification <;> simp [deleted]

end AdsSession

section Delete
variable (errCode : Nat) (notification : UInt32) (session : AdsSession κ)

/-- A delete without a handle to release, by what the PLC does and what is stored. -/
theorem del_cases :
    let later := adsSyncDelDeviceNotificationReqEx errCode (.ok ()) notification none session
    (session.Deletes errCode notification ∧ session.Stores notification ∧
        later = (.ok (), session.without notification)) ∨
      (session.Deletes errCode notification ∧ ¬ session.Stores notification ∧
        later = (.error (.codeKeyError notification.toNat),
          { session with registered := session.registered.erase notification })) ∨
      (¬ session.Deletes errCode notification ∧ session.Stores notification ∧
        ∃ code, later = (.error (.adsError code),
          { session with callbackStore := session.callbackStore.erase notification })) ∨
      (¬ session.Deletes errCode notification ∧ ¬ session.Stores notification ∧
        later = (.error (.codeKeyError notification.toNat), session)) := by
  unfold AdsSession.Deletes AdsSession.Stores
  cases registered : session.registered.get? notification with
  | none =>
    right
    right
    have refused : ∃ code, code ≠ 0 ∧ deleteRegistered errCode notification session = (code, session) := by
      unfold deleteRegistered
      rw [registered]
      by_cases deleted : errCode = 0
      · exact ⟨ADSERR_DEVICE_NOTIFYHNDINVALID, by decide, by simp [deleted]⟩
      · exact ⟨errCode, deleted, by simp [deleted]⟩
    obtain ⟨code, failed, same⟩ := refused
    cases stored : session.callbackStore.get? notification with
    | none =>
      refine .inr ⟨by simp, by simp, ?_⟩
      simp only [adsSyncDelDeviceNotificationReqEx, same, stored]
    | some callback =>
      refine .inl ⟨by simp, by simp, code, ?_⟩
      simp only [adsSyncDelDeviceNotificationReqEx, same, stored, failed, ne_eq, not_false_eq_true, ↓reduceIte]
  | some registration =>
    by_cases deleted : errCode = 0
    · subst deleted
      cases stored : session.callbackStore.get? notification with
      | none => exact .inr (.inl ⟨by simp, by simp, del_forgotten registered stored _ _⟩)
      | some callback => exact .inl ⟨by simp, by simp, del_succeeds registered stored _ _⟩
    · right
      right
      cases stored : session.callbackStore.get? notification with
      | none =>
        refine .inr ⟨by simp [deleted], by simp, ?_⟩
        simp only [adsSyncDelDeviceNotificationReqEx, deleteRegistered, registered, stored, deleted, ↓reduceIte]
      | some callback =>
        exact .inl ⟨by simp [deleted], by simp, errCode, del_fails registered stored deleted _ _⟩

variable {errCode notification session}

theorem without_of_deleted
    (deleted : adsSyncDelDeviceNotificationReqEx errCode (.ok ()) notification none session = (.ok (), later)) :
    later = session.without notification := by
  rcases del_cases errCode notification session with
      ⟨_, _, same⟩ | ⟨_, _, same⟩ | ⟨_, _, _, same⟩ | ⟨_, _, same⟩ <;>
    rw [same] at deleted <;> cases deleted
  rfl

/-- With an `ADSError` the callback has been dropped. -/
theorem forgotten_of_raised
    (raised : adsSyncDelDeviceNotificationReqEx errCode (.ok ()) notification none session =
      (.error (.adsError code), later)) : ¬ later.Stores notification := by
  rcases del_cases errCode notification session with
      ⟨_, _, same⟩ | ⟨_, _, same⟩ | ⟨_, _, _, same⟩ | ⟨_, _, same⟩ <;>
    rw [same] at raised <;> cases raised
  simp [AdsSession.Stores, OrderedDict.get?_erase]

end Delete

/-! ## The loop -/

/-- The notifications of a symbol are at an address: no handle is to be released. -/
def Addressed (handlesList : List (Option NotificationHandles)) : Prop :=
  ∀ handles ∈ handlesList, ∀ pair ∈ handles, pair.2 = none

theorem Addressed.concat {handlesList : List (Option NotificationHandles)} (addressed : Addressed handlesList)
    {handles : Option NotificationHandles} (address : ∀ pair ∈ handles, pair.2 = none) :
    Addressed (handlesList ++ [handles]) := by
  intro other member
  rcases List.mem_append.mp member with old | new
  · exact addressed other old
  · exact List.mem_singleton.mp new ▸ address

/-- There is no notification and no callback that was not there before. -/
def AdsSession.Within (later session : AdsSession κ) : Prop :=
  (∀ notification registration, later.registered.get? notification = some registration →
      session.registered.get? notification = some registration) ∧
    ∀ notification, later.Stores notification → session.Stores notification

theorem AdsSession.Within.refl (session : AdsSession κ) : session.Within session := ⟨fun _ _ => id, fun _ => id⟩

theorem AdsSession.Within.trans {first second third : AdsSession κ} (later : third.Within second)
    (earlier : second.Within first) : third.Within first :=
  ⟨fun n r found => earlier.1 n r (later.1 n r found), fun n stored => earlier.2 n (later.2 n stored)⟩

theorem within_del (port : Option Int) (errCode : UInt32 → Nat) (handles : Option NotificationHandles)
    (session : AdsSession κ) : (Connection.delDeviceNotification port errCode handles session).2.Within session := by
  unfold Connection.delDeviceNotification
  split
  · exact .refl session
  · split
    · exact .refl session
    · rename_i notification userHandle _ _
      obtain ⟨registered, stored⟩ := del_erases (errCode notification) (.ok ()) notification userHandle session
      constructor
      · intro other registration found
        rcases registered with same | erased
        · rwa [same] at found
        · rw [erased, OrderedDict.get?_erase] at found
          split at found
          · cases found
          · exact found
      · unfold AdsSession.Stores
        intro other found
        rcases stored with same | erased
        · rwa [same] at found
        · rw [erased, OrderedDict.get?_erase] at found
          split at found
          · exact absurd rfl found
          · exact found

theorem within_deleteAll (port : Option Int) (errCode : UInt32 → Nat) (handlesList : List (Option NotificationHandles))
    (session : AdsSession κ) : (deleteAll port errCode handlesList session).2.Within session := by
  induction handlesList generalizing session with
  | nil => exact .refl session
  | cons handles rest ih =>
    have first := within_del port errCode handles session
    rw [deleteAll]
    generalize Connection.delDeviceNotification port errCode handles session = answer at first
    obtain ⟨_ | _, later⟩ := answer
    · exact first
    · exact (ih later).trans first

section Open
variable (port : Int) {errCode : UInt32 → Nat} {session later : AdsSession κ}

omit errCode in
/-- A callback that has been dropped is asked for again. -/
theorem del_without_callback (forgotten : ¬ session.Stores notification) (errCode : UInt32 → Nat) :
    ∃ key, (Connection.delDeviceNotification (some port) errCode (some (notification, none)) session).1 =
      .error (.codeKeyError key) := by
  refine ⟨notification.toNat, ?_⟩
  simp only [Connection.delDeviceNotification]
  rcases del_cases (errCode notification) notification session with
    ⟨_, stored, _⟩ | ⟨_, _, same⟩ | ⟨_, stored, _⟩ | ⟨_, _, same⟩
  · exact absurd stored forgotten
  · rw [same]
  · exact absurd stored forgotten
  · rw [same]

/-- After an `ADSError` the first handle has no callback any more. -/
theorem deleteAll_again {handlesList : List (Option NotificationHandles)} (addressed : Addressed handlesList)
    (raised : deleteAll (some port) errCode handlesList session = (.error (.adsError code), later))
    (errCode' : UInt32 → Nat) :
    ∃ key, (deleteAll (some port) errCode' handlesList later).1 = .error (.codeKeyError key) := by
  cases handlesList with
  | nil => cases raised
  | cons handles rest =>
    cases handles with
    | none => cases raised
    | some pair =>
      obtain ⟨notification, userHandle⟩ := pair
      obtain rfl : userHandle = none := addressed _ List.mem_cons_self _ rfl
      have forgotten : ¬ later.Stores notification := by
        rw [deleteAll] at raised
        cases first : Connection.delDeviceNotification (some port) errCode (some (notification, none)) session with
        | mk answer between =>
          rw [first] at raised
          cases answer with
          | error e =>
            cases raised
            exact forgotten_of_raised first
          | ok _ =>
            obtain rfl := without_of_deleted first
            have within := within_deleteAll (some port) errCode rest (session.without notification)
            rw [show deleteAll (some port) errCode rest (session.without notification) = _ from raised] at within
            intro stored
            exact (AdsSession.stores_without.mp (within.2 notification stored)).1 rfl
      obtain ⟨key, again⟩ := del_without_callback port forgotten errCode'
      refine ⟨key, ?_⟩
      rw [deleteAll]
      generalize Connection.delDeviceNotification (some port) errCode' (some (notification, none)) later = answer
        at again
      obtain ⟨_ | _, _⟩ := answer
      · exact again
      · cases again

theorem del_removes {pair : NotificationHandles} (address : pair.2 = none)
    (deleted : Connection.delDeviceNotification (some port) errCode (some pair) session = (.ok (), later)) :
    later.registered.get? pair.1 = none := by
  obtain ⟨notification, userHandle⟩ := pair
  obtain rfl : userHandle = none := address
  obtain rfl := without_of_deleted deleted
  simp [AdsSession.without, OrderedDict.get?_erase]

/-- A loop that completes has deleted all notifications of the list. -/
theorem deleteAll_removes {handlesList : List (Option NotificationHandles)} (addressed : Addressed handlesList)
    (deleted : deleteAll (some port) errCode handlesList session = (.ok (), later)) :
    ∀ pair, some pair ∈ handlesList → later.registered.get? pair.1 = none := by
  induction handlesList generalizing session with
  | nil => simp
  | cons handles rest ih =>
    intro pair member
    rw [deleteAll] at deleted
    cases first : Connection.delDeviceNotification (some port) errCode handles session with
    | mk answer between =>
      rw [first] at deleted
      cases answer with
      | error e => cases deleted
      | ok _ =>
        have others : Addressed rest := fun handles member => addressed handles (List.mem_cons_of_mem _ member)
        rcases List.mem_cons.mp member with rfl | member
        · have gone := del_removes port (addressed _ List.mem_cons_self _ rfl) first
          have within := within_deleteAll (some port) errCode rest between
          rw [show deleteAll (some port) errCode rest between = _ from deleted] at within
          by_contra registered
          obtain ⟨registration, found⟩ := Option.ne_none_iff_exists'.mp registered
          rw [within.1 _ _ found] at gone
          cases gone
        · exact ih others deleted pair member

end Open

theorem deleteAll_closed (errCode : UInt32 → Nat) (handlesList : List (Option NotificationHandles))
    (session : AdsSession κ) : deleteAll none errCode handlesList session =
      (if none ∈ handlesList then .error .typeError else .ok (), session) := by
  induction handlesList with
  | nil => rfl
  | cons handles rest ih =>
    cases handles with
    | none => simp [deleteAll, Connection.delDeviceNotification]
    | some pair => simp [deleteAll, Connection.delDeviceNotification, ih]

end PyAds
