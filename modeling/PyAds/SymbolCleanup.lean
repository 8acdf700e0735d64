import PyAds.SymbolSessions

/-! Cleaning up the notifications of a symbol. A delete drops the callback before
it looks at the answer of the PLC, and a clear empties the list only when it has
gone through it; what is left of either stops the next attempt. -/
namespace PyAds
open Runs

/-! ## The promise -/

/-- No delete request of the loop fails. -/
def RequestsSucceed (port : Option Int) (errCode : UInt32 → Nat) :
    List (Option NotificationHandles) → AdsSession κ → Prop
  | [], _ => True
  | handles :: rest, session =>
    (port ≠ none → ∀ pair ∈ handles, (deleteRegistered (errCode pair.1) pair.1 session).1 = 0) ∧
      ((Connection.delDeviceNotification port errCode handles session).1 = .ok () →
        RequestsSucceed port errCode rest (Connection.delDeviceNotification port errCode handles session).2)

namespace SymbolCall

/-- A call that raises `ADSError` leaves the handles of all notifications that
are still registered in the list, and can be repeated. -/
def Repeatable (linux : Bool) (symbol : AdsSymbol) (s : SymbolSession κ) (call : SymbolCall κ) : Prop :=
  ∀ code, (call.run linux symbol s).1 = .error (.adsError code) →
    (∀ handles ∈ s.handlesList, (∃ pair ∈ handles, (call.after linux symbol s).ads.registered.get? pair.1 ≠ none) →
        handles ∈ (call.after linux symbol s).handlesList) ∧
      (call.again.run linux symbol (call.after linux symbol s)).1 = .ok ()

/-- What the symbol promises of a call that deletes notifications. -/
def CleansUp (linux : Bool) (symbol : AdsSymbol) (s : SymbolSession κ) : SymbolCall κ → Prop
  | .delDeviceNotification handles errCode => Repeatable linux symbol s (.delDeviceNotification handles errCode)
  | .setAutoUpdate false add errCode => Repeatable linux symbol s (.setAutoUpdate false add errCode)
  | .clearDeviceNotifications errCode =>
    Repeatable linux symbol s (.clearDeviceNotifications errCode) ∧
      (RequestsSucceed s.port errCode s.handlesList s.ads →
        (s.clearDeviceNotifications errCode).1 = .ok () ∧ ∀ notification registration,
          (s.clearDeviceNotifications errCode).2.ads.registered.get? notification = some registration →
            ¬ registration.callback.Own)
  | _ => True

end SymbolCall

/-! ## Its condition -/

/-- Each handle that the loop gets to without an error is one that comes a
second time, or the PLC deletes its notification exactly if the callback is
still stored. -/
def AdsSession.Unobstructed (session : AdsSession κ) (errCode : UInt32 → Nat)
    (handlesList : List (Option NotificationHandles)) : Prop :=
  ∀ before handles later, handlesList = before ++ handles :: later → before.Nodup →
    (∀ earlier ∈ before, ∃ pair, earlier = some pair ∧
        session.Deletes (errCode pair.1) pair.1 ∧ session.Stores pair.1) →
      handles ∈ before ∨
        ∃ pair, handles = some pair ∧ (session.Deletes (errCode pair.1) pair.1 ↔ session.Stores pair.1)

namespace SymbolCall

/-- While the connection is open, the PLC refuses no request to delete a
notification whose callback is still stored, and a clear meets neither a
notification without a stored callback nor the `None` of an add while closed. -/
def Undisturbed (s : SymbolSession κ) : SymbolCall κ → Prop
  | .delDeviceNotification handles errCode => s.port ≠ none → handles ∈ s.handlesList →
    ∀ pair ∈ handles, s.ads.Stores pair.1 → s.ads.Deletes (errCode pair.1) pair.1
  | .setAutoUpdate false _ errCode => s.port ≠ none → ∀ pair ∈ s.autoUpdateHandle, some pair ∈ s.handlesList →
    s.ads.Stores pair.1 → s.ads.Deletes (errCode pair.1) pair.1
  | .clearDeviceNotifications errCode =>
    match s.port with
    | none => none ∉ s.handlesList
    | some _ => s.ads.Unobstructed errCode s.handlesList
  | _ => True

end SymbolCall

/-! ## A clear on an open connection -/

section Loop
variable {errCode : UInt32 → Nat} {session : AdsSession κ}

theorem unobstructed_none : ¬ session.Unobstructed errCode (none :: rest) := by
  intro unobstructed
  rcases unobstructed [] none rest rfl List.nodup_nil (by simp) with member | ⟨pair, found, _⟩
  · cases member
  · cases found

/-- The first handle, and the others in the session without it. -/
theorem unobstructed_cons (addressed : Addressed (some (notification, none) :: rest)) :
    session.Unobstructed errCode (some (notification, none) :: rest) ↔
      (session.Deletes (errCode notification) notification ↔ session.Stores notification) ∧
        (session.Stores notification → (session.without notification).Unobstructed errCode rest) := by
  have apart {pair : NotificationHandles} (member : some pair ∈ rest)
      (other : some pair ≠ some (notification, none)) : pair.1 ≠ notification := by
    intro same
    have address : pair.2 = none := addressed (some pair) (List.mem_cons_of_mem _ member) pair rfl
    exact other (congrArg some (Prod.ext same address))
  constructor
  · intro unobstructed
    have first : session.Deletes (errCode notification) notification ↔ session.Stores notification := by
      rcases unobstructed [] _ rest rfl List.nodup_nil (by simp) with member | ⟨pair, found, settled⟩
      · cases member
      · cases found
        exact settled
    refine ⟨first, ?_⟩
    rintro stored before handles later rfl nodup removed
    have fresh : some (notification, none) ∉ before := by
      intro member
      obtain ⟨pair, found, _, kept⟩ := removed _ member
      cases found
      exact (AdsSession.stores_without.mp kept).1 rfl
    have kept : ∀ earlier ∈ some (notification, none) :: before, ∃ pair, earlier = some pair ∧
        session.Deletes (errCode pair.1) pair.1 ∧ session.Stores pair.1 := by
      intro earlier member
      rcases List.mem_cons.mp member with rfl | member
      · exact ⟨_, rfl, first.mpr stored, stored⟩
      · obtain ⟨pair, found, deleted, kept⟩ := removed earlier member
        exact ⟨pair, found, (AdsSession.deletes_without.mp deleted).2, (AdsSession.stores_without.mp kept).2⟩
    have distinct := List.nodup_cons.mpr ⟨fresh, nodup⟩
    rcases unobstructed _ handles later rfl distinct kept with member | ⟨pair, found, settled⟩
    · rcases List.mem_cons.mp member with rfl | member
      · right
        refine ⟨_, rfl, ?_⟩
        simp [AdsSession.deletes_without, AdsSession.stores_without]
      · exact .inl member
    · right
      refine ⟨pair, found, ?_⟩
      rw [AdsSession.deletes_without, AdsSession.stores_without, settled]
  · rintro ⟨first, others⟩ before handles later split nodup removed
    cases before with
    | nil =>
      obtain ⟨rfl, rfl⟩ := List.cons.inj split
      exact .inr ⟨_, rfl, first⟩
    | cons head before =>
      obtain ⟨rfl, rfl⟩ := List.cons.inj split
      obtain ⟨fresh, nodup⟩ := List.nodup_cons.mp nodup
      obtain ⟨pair, found, _, stored⟩ := removed _ List.mem_cons_self
      cases found
      have kept : ∀ earlier ∈ before, ∃ pair, earlier = some pair ∧
          (session.without notification).Deletes (errCode pair.1) pair.1 ∧
          (session.without notification).Stores pair.1 := by
        intro earlier member
        obtain ⟨pair, rfl, deleted, stored⟩ := removed earlier (List.mem_cons_of_mem _ member)
        have other : pair.1 ≠ notification := by
          refine apart (List.mem_append_left _ member) ?_
          rintro same
          exact fresh (same ▸ member)
        exact ⟨pair, rfl, AdsSession.deletes_without.mpr ⟨other, deleted⟩,
          AdsSession.stores_without.mpr ⟨other, stored⟩⟩
      rcases others stored before handles later rfl nodup kept with member | ⟨pair, rfl, settled⟩
      · exact .inl (List.mem_cons_of_mem _ member)
      · by_cases same : some pair = some (notification, none)
        · exact .inl (same ▸ List.mem_cons_self)
        · have other := apart (List.mem_append_right _ List.mem_cons_self) same
          simp only [AdsSession.deletes_without, AdsSession.stores_without, ne_eq, other, not_false_eq_true,
            true_and] at settled
          exact .inr ⟨pair, rfl, settled⟩

/-- The loop raises no `ADSError`, and returns unless a request fails, exactly
if nothing obstructs it. -/
theorem deleteAll_open_iff {handlesList : List (Option NotificationHandles)} (addressed : Addressed handlesList)
    (port : Int) :
    ((∀ code, (deleteAll (some port) errCode handlesList session).1 ≠ .error (.adsError code)) ∧
        (RequestsSucceed (some port) errCode handlesList session →
          (deleteAll (some port) errCode handlesList session).1 = .ok ())) ↔
      session.Unobstructed errCode handlesList := by
  induction handlesList generalizing session with
  | nil => simp [deleteAll, AdsSession.Unobstructed]
  | cons handles rest ih =>
    cases handles with
    | none =>
      refine iff_of_false ?_ unobstructed_none
      rintro ⟨_, returned⟩
      have stops : RequestsSucceed (some port) errCode (none :: rest) session := by
        refine ⟨by simp, ?_⟩
        rintro ⟨⟩
      cases returned stops
    | some pair =>
      obtain ⟨notification, userHandle⟩ := pair
      obtain rfl : userHandle = none := addressed _ List.mem_cons_self _ rfl
      have others : Addressed rest := fun handles member => addressed handles (List.mem_cons_of_mem _ member)
      rw [unobstructed_cons addressed]
      simp only [deleteAll, RequestsSucceed, Connection.delDeviceNotification]
      rcases del_cases (errCode notification) notification session with
        ⟨deleted, stored, same⟩ | ⟨deleted, forgotten, same⟩ | ⟨refused, stored, code, same⟩ |
          ⟨refused, forgotten, same⟩
      · simp [same, deleted, stored, AdsSession.deleteRegistered_iff, ← ih others]
      · simp [same, deleted, forgotten, AdsSession.deleteRegistered_iff]
      · simp [same, refused, stored]
      · simp [same, refused, forgotten, AdsSession.deleteRegistered_iff]

end Loop

/-! ## Whole runs -/

/-- The symbol has added its notifications by address and has the handles of
those that are registered; there are none without a port. -/
structure SymbolSession.Tracked (s : SymbolSession κ) : Prop where
  addressed : Addressed s.handlesList
  listed : ∀ notification registration, s.ads.registered.get? notification = some registration →
    registration.callback.Own → s.port ≠ none ∧ some (notification, none) ∈ s.handlesList

namespace SymbolSession.Tracked
variable {s : SymbolSession κ}

theorem of_within {later : SymbolSession κ} (tracked : s.Tracked) (port : later.port = s.port)
    (within : later.ads.Within s.ads) (same : later.handlesList = s.handlesList) : later.Tracked := by
  refine ⟨by rw [same]; exact tracked.addressed, fun notification registration found own => ?_⟩
  rw [port, same]
  exact tracked.listed notification registration (within.1 _ _ found) own

theorem withConnection (tracked : s.Tracked) (connection : Session) : (s.withConnection connection).Tracked := by
  refine ⟨tracked.addressed, fun notification registration found own => ?_⟩
  dsimp only [SymbolSession.withConnection] at found ⊢
  split at found
  · rename_i same
    rw [same]
    exact tracked.listed notification registration found own
  · cases found

theorem add (tracked : s.Tracked) (symbol : AdsSymbol) (attr : Option Nat) (add : Except Nat UInt32)
    (callback : SymbolCallback κ) : (s.addDeviceNotification symbol attr add callback).2.Tracked := by
  unfold SymbolSession.addDeviceNotification
  cases attr.elim symbol.notificationLength Except.ok with
  | error e => exact tracked
  | ok length =>
    unfold Connection.addDeviceNotification
    cases port : s.port with
    | none =>
      refine ⟨tracked.addressed.concat (by simp), fun notification registration found own => ?_⟩
      exact absurd port (tracked.listed notification registration found own).1
    | some opened =>
      cases add with
      | error code => exact tracked
      | ok added =>
        have stillOpen : s.port ≠ none := by simp [port]
        refine ⟨tracked.addressed.concat (by simp), fun notification registration found own => ⟨stillOpen, ?_⟩⟩
        have found : (s.ads.registered.set added ⟨none, callback⟩).get? notification = some registration := found
        rw [OrderedDict.get?_set] at found
        split at found
        · rename_i same
          exact List.mem_append_right _ (by simp [same])
        · exact List.mem_append_left _ (tracked.listed notification registration found own).2

theorem del (tracked : s.Tracked) (errCode : UInt32 → Nat) (handles : Option NotificationHandles) :
    (s.delDeviceNotification errCode handles).2.Tracked := by
  unfold SymbolSession.delDeviceNotification
  split
  · rename_i member
    have within := within_del s.port errCode handles s.ads
    cases deleted : Connection.delDeviceNotification s.port errCode handles s.ads with
    | mk answer later =>
      rw [deleted] at within
      cases answer with
      | error e => exact tracked.of_within rfl within rfl
      | ok _ =>
        refine ⟨fun handles member => tracked.addressed handles (List.mem_of_mem_erase member), ?_⟩
        intro notification registration found own
        obtain ⟨opened, listed⟩ := tracked.listed notification registration (within.1 _ _ found) own
        refine ⟨opened, (List.mem_erase_of_ne ?_).mpr listed⟩
        rintro rfl
        obtain ⟨port, opened⟩ := Option.ne_none_iff_exists'.mp opened
        rw [opened] at deleted
        have gone : later.registered.get? notification = none := del_removes port rfl deleted
        cases gone.symm.trans found
  · exact tracked

theorem clear (tracked : s.Tracked) (errCode : UInt32 → Nat) : (s.clearDeviceNotifications errCode).2.Tracked := by
  unfold SymbolSession.clearDeviceNotifications
  have within := within_deleteAll s.port errCode s.handlesList s.ads
  cases deleted : deleteAll s.port errCode s.handlesList s.ads with
  | mk answer later =>
    rw [deleted] at within
    cases answer with
    | error e => exact tracked.of_within rfl within rfl
    | ok _ =>
      refine ⟨by simp [Addressed], fun notification registration found own => ?_⟩
      obtain ⟨opened, listed⟩ := tracked.listed notification registration (within.1 _ _ found) own
      obtain ⟨port, opened⟩ := Option.ne_none_iff_exists'.mp opened
      rw [opened] at deleted
      rw [deleteAll_removes port tracked.addressed deleted _ listed] at found
      cases found

theorem setAutoUpdate (tracked : s.Tracked) (symbol : AdsSymbol) (value : Bool) (add : Except Nat UInt32)
    (errCode : UInt32 → Nat) : (s.setAutoUpdate symbol value add errCode).2.Tracked := by
  unfold SymbolSession.setAutoUpdate
  split
  · have added := tracked.add symbol none add .value
    split
    · rename_i same
      rwa [same] at added
    · rename_i same
      rw [same] at added
      exact ⟨added.addressed, added.listed⟩
  · rename_i handles _
    have deleted := tracked.del errCode (some handles)
    split
    · rename_i same
      rwa [same] at deleted
    · rename_i same
      rw [same] at deleted
      exact ⟨deleted.addressed, deleted.listed⟩
  · exact tracked

theorem after (tracked : s.Tracked) (linux : Bool) (symbol : AdsSymbol) (call : SymbolCall κ) :
    (call.after linux symbol s).Tracked := by
  cases call with
  | open_ router => exact tracked.withConnection _
  | close router => exact tracked.withConnection _
  | addDeviceNotification attr add callback => exact tracked.add symbol attr add (.given callback)
  | setAutoUpdate value add errCode => exact tracked.setAutoUpdate symbol value add errCode
  | delDeviceNotification handles errCode => exact tracked.del errCode handles
  | clearDeviceNotifications errCode => exact tracked.clear errCode

end SymbolSession.Tracked

/-! ## Deletes and clears -/

/-- Where a call that has raised `ADSError` raises again, it can be repeated
exactly if it never does. -/
theorem repeatable_iff {s : SymbolSession κ} {call : SymbolCall κ}
    (stuck : ∀ code, (call.run linux symbol s).1 = .error (.adsError code) →
      (call.again.run linux symbol (call.after linux symbol s)).1 ≠ .ok ()) :
    call.Repeatable linux symbol s ↔ ∀ code, (call.run linux symbol s).1 ≠ .error (.adsError code) := by
  constructor
  · intro repeatable code raised
    exact stuck code raised (repeatable code raised).2
  · intro never code raised
    exact absurd raised (never code)

namespace SymbolSession

section Steps
variable {s : SymbolSession κ} (tracked : s.Tracked) {errCode : UInt32 → Nat}
include tracked

/-- A delete raises `ADSError` exactly if the PLC refuses the request while the
callback is stored. -/
theorem del_raises_iff (errCode : UInt32 → Nat) (handles : Option NotificationHandles) :
    (∀ code, (s.delDeviceNotification errCode handles).1 ≠ .error (.adsError code)) ↔
      (s.port ≠ none → handles ∈ s.handlesList →
        ∀ pair ∈ handles, s.ads.Stores pair.1 → s.ads.Deletes (errCode pair.1) pair.1) := by
  unfold delDeviceNotification
  by_cases member : handles ∈ s.handlesList
  · rw [if_pos member]
    cases handles with
    | none => simp [Connection.delDeviceNotification]
    | some pair =>
      obtain ⟨notification, userHandle⟩ := pair
      obtain rfl : userHandle = none := tracked.addressed _ member _ rfl
      simp only [Connection.delDeviceNotification]
      cases port : s.port with
      | none => simp
      | some opened =>
        rcases del_cases (errCode notification) notification s.ads with
          ⟨deleted, _, same⟩ | ⟨deleted, _, same⟩ | ⟨refused, stored, code, same⟩ | ⟨_, forgotten, same⟩
        · simp [same, deleted]
        · simp [same, deleted]
        · simp [same, member, refused, stored]
        · simp [same, forgotten]
  · simp [member]

/-- A delete that raises `ADSError` has dropped the callback and kept the handle. -/
theorem del_raised {handles : Option NotificationHandles}
    (raised : (s.delDeviceNotification errCode handles).1 = .error (.adsError code)) :
    ∃ opened notification ads, s.port = some opened ∧ handles = some (notification, none) ∧ handles ∈ s.handlesList ∧
      ¬ ads.Stores notification ∧
      s.delDeviceNotification errCode handles = (.error (.adsError code), { s with ads := ads }) := by
  by_cases member : handles ∈ s.handlesList
  · cases deleted : Connection.delDeviceNotification s.port errCode handles s.ads with
    | mk answer ads =>
      cases answer with
      | ok _ =>
        rw [delDeviceNotification, if_pos member, deleted] at raised
        cases raised
      | error e =>
        have whole : s.delDeviceNotification errCode handles = (.error e, { s with ads := ads }) := by
          rw [delDeviceNotification, if_pos member, deleted]
        rw [whole] at raised
        cases raised
        cases handles with
        | none => cases deleted
        | some pair =>
          obtain ⟨notification, userHandle⟩ := pair
          obtain rfl : userHandle = none := tracked.addressed _ member _ rfl
          cases port : s.port with
          | none =>
            rw [port] at deleted
            cases deleted
          | some opened =>
            refine ⟨opened, notification, ads, rfl, rfl, member, ?_, whole⟩
            rw [port] at deleted
            exact forgotten_of_raised deleted
  · rw [delDeviceNotification, if_neg member] at raised
    cases raised

omit tracked in
theorem del_without_callback (s : SymbolSession κ) (port : s.port = some opened) (member : some (notification, none) ∈ s.handlesList)
    (forgotten : ¬ s.ads.Stores notification) (errCode : UInt32 → Nat) :
    ∃ key, (s.delDeviceNotification errCode (some (notification, none))).1 = .error (.codeKeyError key) := by
  obtain ⟨key, raised⟩ := PyAds.del_without_callback opened forgotten errCode
  refine ⟨key, ?_⟩
  rw [delDeviceNotification, if_pos member, port]
  generalize Connection.delDeviceNotification (some opened) errCode (some (notification, none)) s.ads = answer at raised
  obtain ⟨_ | _, _⟩ := answer
  · exact raised
  · cases raised

theorem del_stuck {handles : Option NotificationHandles}
    (raised : (s.delDeviceNotification errCode handles).1 = .error (.adsError code)) (errCode' : UInt32 → Nat) :
    ((s.delDeviceNotification errCode handles).2.delDeviceNotification errCode' handles).1 ≠ .ok () := by
  obtain ⟨opened, notification, ads, port, rfl, member, forgotten, whole⟩ := del_raised tracked raised
  rw [whole]
  obtain ⟨key, again⟩ := del_without_callback { s with ads := ads } port member forgotten errCode'
  rw [again]
  rintro ⟨⟩

omit tracked in
theorem switchOff_outcome (symbol : AdsSymbol) (add : Except Nat UInt32) (enabled : s.autoUpdateHandle = some pair)
    (errCode : UInt32 → Nat) :
    (s.setAutoUpdate symbol false add errCode).1 = (s.delDeviceNotification errCode (some pair)).1 := by
  simp only [setAutoUpdate, enabled]
  split <;> rename_i same <;> rw [same]

theorem switchOff_stuck (symbol : AdsSymbol) (add : Except Nat UInt32)
    (raised : (s.setAutoUpdate symbol false add errCode).1 = .error (.adsError code)) (errCode' : UInt32 → Nat) :
    ((s.setAutoUpdate symbol false add errCode).2.setAutoUpdate symbol false add errCode').1 ≠ .ok () := by
  cases enabled : s.autoUpdateHandle with
  | none =>
    simp only [setAutoUpdate, enabled] at raised
    cases raised
  | some pair =>
    rw [switchOff_outcome symbol add enabled] at raised
    obtain ⟨opened, notification, ads, port, found, member, forgotten, whole⟩ := del_raised tracked raised
    cases found
    have later : s.setAutoUpdate symbol false add errCode = (.error (.adsError code), { s with ads := ads }) := by
      simp only [setAutoUpdate, enabled, whole]
    rw [later]
    dsimp only
    have still : SymbolSession.autoUpdateHandle { s with ads := ads } = some (notification, none) := enabled
    obtain ⟨key, again⟩ := del_without_callback { s with ads := ads } port member forgotten errCode'
    rw [switchOff_outcome symbol add still, again]
    rintro ⟨⟩

omit tracked in
theorem clear_outcome (errCode : UInt32 → Nat) (s : SymbolSession κ) :
    (s.clearDeviceNotifications errCode).1 = (deleteAll s.port errCode s.handlesList s.ads).1 := by
  unfold clearDeviceNotifications
  split <;> rename_i same <;> rw [same]

omit tracked in
theorem clear_empties (cleared : (s.clearDeviceNotifications errCode).1 = .ok ()) :
    (s.clearDeviceNotifications errCode).2.handlesList = [] := by
  unfold clearDeviceNotifications at cleared ⊢
  split at cleared
  · cases cleared
  · rfl

theorem clear_stuck (raised : (s.clearDeviceNotifications errCode).1 = .error (.adsError code))
    (errCode' : UInt32 → Nat) :
    ((s.clearDeviceNotifications errCode).2.clearDeviceNotifications errCode').1 ≠ .ok () := by
  rw [clear_outcome] at raised ⊢
  cases deleted : deleteAll s.port errCode s.handlesList s.ads with
  | mk answer ads =>
    rw [deleted] at raised
    cases raised
    cases port : s.port with
    | none =>
      rw [port, deleteAll_closed] at deleted
      split at deleted <;> cases deleted
    | some opened =>
      have later : s.clearDeviceNotifications errCode = (.error (.adsError code), { s with ads := ads }) := by
        rw [clearDeviceNotifications, deleted]
      rw [port] at deleted
      obtain ⟨key, again⟩ := deleteAll_again opened tracked.addressed deleted errCode'
      rw [later]
      dsimp only
      rw [port, again]
      rintro ⟨⟩

end Steps
end SymbolSession

theorem requestsSucceed_closed (errCode : UInt32 → Nat) (handlesList : List (Option NotificationHandles))
    (session : AdsSession κ) : RequestsSucceed none errCode handlesList session := by
  induction handlesList generalizing session with
  | nil => trivial
  | cons handles rest ih => exact ⟨fun opened => absurd rfl opened, fun _ => ih _⟩

section Runs_
variable {s : SymbolSession κ} (tracked : s.Tracked) (linux : Bool) (symbol : AdsSymbol)
include tracked

theorem clear_cleansUp_iff (errCode : UInt32 → Nat) :
    SymbolCall.CleansUp linux symbol s (.clearDeviceNotifications errCode) ↔
      SymbolCall.Undisturbed s (.clearDeviceNotifications errCode) := by
  have repeatable : SymbolCall.Repeatable linux symbol s (.clearDeviceNotifications errCode) ↔
      ∀ code, (deleteAll s.port errCode s.handlesList s.ads).1 ≠ .error (.adsError code) := by
    rw [← SymbolSession.clear_outcome]
    refine repeatable_iff ?_
    intro code raised
    exact SymbolSession.clear_stuck tracked raised fun _ => 0
  -- What a clear leaves behind would still have its handle in the list.
  have removed : (s.clearDeviceNotifications errCode).1 = .ok () → ∀ notification registration,
      (s.clearDeviceNotifications errCode).2.ads.registered.get? notification = some registration →
        ¬ registration.callback.Own := by
    intro cleared notification registration found own
    have listed := ((tracked.clear errCode).listed notification registration found own).2
    rw [SymbolSession.clear_empties cleared] at listed
    cases listed
  have returns : (RequestsSucceed s.port errCode s.handlesList s.ads →
        (s.clearDeviceNotifications errCode).1 = .ok () ∧ ∀ notification registration,
          (s.clearDeviceNotifications errCode).2.ads.registered.get? notification = some registration →
            ¬ registration.callback.Own) ↔
      (RequestsSucceed s.port errCode s.handlesList s.ads →
        (deleteAll s.port errCode s.handlesList s.ads).1 = .ok ()) := by
    rw [← SymbolSession.clear_outcome]
    exact forall_congr' fun _ => and_iff_left_of_imp removed
  simp only [SymbolCall.CleansUp, SymbolCall.Undisturbed]
  rw [repeatable, returns]
  cases port : s.port with
  | none =>
    rw [deleteAll_closed]
    by_cases closedAdd : none ∈ s.handlesList <;> simp [closedAdd, requestsSucceed_closed]
  | some opened => exact deleteAll_open_iff tracked.addressed opened

/-- A call does what the symbol promises exactly if it is not disturbed. -/
theorem cleansUp_iff (call : SymbolCall κ) : call.CleansUp linux symbol s ↔ call.Undisturbed s := by
  cases call with
  | clearDeviceNotifications errCode => exact clear_cleansUp_iff tracked linux symbol errCode
  | delDeviceNotification handles errCode =>
    refine Iff.trans ?_ (SymbolSession.del_raises_iff tracked errCode handles)
    exact repeatable_iff fun code raised => SymbolSession.del_stuck tracked raised fun _ => 0
  | setAutoUpdate value add errCode =>
    cases value with
    | true => exact Iff.rfl
    | false =>
      have stuck (code : Nat) (raised : (s.setAutoUpdate symbol false add errCode).1 = .error (.adsError code)) :=
        SymbolSession.switchOff_stuck tracked symbol add raised fun _ => 0
      refine Iff.trans (repeatable_iff stuck) ?_
      cases enabled : s.autoUpdateHandle with
      | none => simp [SymbolCall.run, SymbolCall.Undisturbed, SymbolSession.setAutoUpdate, enabled]
      | some pair =>
        have raises := SymbolSession.del_raises_iff tracked errCode (some pair)
        simp only [SymbolCall.run, SymbolCall.Undisturbed, SymbolSession.switchOff_outcome symbol add enabled, raises,
          enabled, Option.mem_some_iff, forall_eq']
  | _ => exact Iff.rfl

end Runs_

/-- Over a run of calls on a new symbol and its connection, every delete and
clear does what the symbol promises exactly if none of them is disturbed. -/
theorem symbol_cleans_up_iff (linux : Bool) (symbol : AdsSymbol) (connection : Session)
    (ads : AdsSession (SymbolCallback κ))
    (unowned : ∀ notification registration, ads.registered.get? notification = some registration →
      ¬ registration.callback.Own) (calls : List (SymbolCall κ)) :
    Along (SymbolCall.after linux symbol) (SymbolCall.CleansUp linux symbol) (SymbolSession.new connection ads) calls ↔
      Along (SymbolCall.after linux symbol) SymbolCall.Undisturbed (SymbolSession.new connection ads) calls := by
  have tracked : (SymbolSession.new connection ads).Tracked :=
    ⟨by simp [SymbolSession.new, Addressed], fun notification registration found own => absurd own (unowned notification registration found)⟩
  have exact_ (s : SymbolSession κ) (call : SymbolCall κ) (tracked : s.Tracked) (_ : True) :
      call.CleansUp linux symbol s ↔ call.Undisturbed s := cleansUp_iff tracked linux symbol call
  exact along_iff exact_ (fun s call tracked _ _ => tracked.after linux symbol call) tracked along_true

/-- Auto-update and a callback of the program, one of them deleted, and a clear
before and after the connection is closed. -/
def tidyCalls : List (SymbolCall String) :=
  [.open_ (answering 30000 0 0), .setAutoUpdate true (.ok 7) fun _ => 0,
    .addDeviceNotification none (.ok 8) "speed", .delDeviceNotification (some (8, none)) fun _ => 0,
    .clearDeviceNotifications fun _ => 0, .close (answering 0 0 0), .clearDeviceNotifications fun _ => 0]

theorem tidyCalls_clean_up :
    Along (SymbolCall.after true speeds) (SymbolCall.CleansUp true speeds)
      (SymbolSession.new tankSession (AdsSession.fresh _)) tidyCalls := by
  refine (symbol_cleans_up_iff true speeds tankSession (AdsSession.fresh _) ?_ tidyCalls).mpr ?_
  · rintro notification registration ⟨⟩
  refine ⟨trivial, trivial, trivial, ?_, ?_, trivial, ?_, trivial⟩
  · rintro - - _ ⟨⟩ -
    refine ⟨?_, rfl⟩
    rintro ⟨⟩
  · have addressed : Addressed [some ((7 : UInt32), none)] := by simp [Addressed]
    show AdsSession.Unobstructed (AdsSession.mk _ _ _) (fun _ => 0) [some ((7 : UInt32), none)]
    refine (unobstructed_cons addressed).mpr ⟨?_, fun _ => ?_⟩
    · refine iff_of_true ⟨?_, rfl⟩ ?_ <;> rintro ⟨⟩
    · simp [AdsSession.Unobstructed]
  · exact List.not_mem_nil

/-- A delete that fails cannot be repeated, nor can a clear that fails at its
second notification; the `None` of an add while closed stops every clear, and
the destructor. -/
theorem cleanup_gets_stuck :
    let new : SymbolSession String := SymbolSession.new tankSession (AdsSession.fresh _)
    let failing : UInt32 → Nat := fun notification => if notification = 8 then 1861 else 0
    let opened : List (SymbolCall String) :=
      [.open_ (answering 30000 0 0), .addDeviceNotification none (.ok 7) "speed",
        .addDeviceNotification none (.ok 8) "limit"]
    let stuck (calls : List (SymbolCall String)) : Prop :=
      ¬ Along (SymbolCall.after true speeds) (SymbolCall.CleansUp true speeds) new calls
    stuck (opened ++ [.delDeviceNotification (some (8, none)) failing]) ∧
      stuck (opened ++ [.clearDeviceNotifications failing]) ∧
      stuck [.addDeviceNotification none (.ok 7) "speed", .clearDeviceNotifications fun _ => 0] ∧
      (((SymbolCall.addDeviceNotification none (.ok 7) "speed").after true speeds new).destruct fun _ => 0).1 =
        .error .typeError := by
  refine ⟨?_, ?_, ?_, rfl⟩
  · rintro ⟨-, -, -, repeatable, -⟩
    cases (repeatable 1861 rfl).2
  · rintro ⟨-, -, -, ⟨repeatable, -⟩, -⟩
    cases (repeatable 1861 rfl).2
  · rintro ⟨-, ⟨-, returns⟩, -⟩
    have noRequest := requestsSucceed_closed (fun _ => 0) [none] (AdsSession.fresh (SymbolCallback String))
    cases (returns noRequest).1

end PyAds
