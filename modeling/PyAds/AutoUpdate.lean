import PyAds.SymbolSessions

/-! Auto-update. A symbol takes its handle for the sign that its value callback is
registered, while the registration lasts as long as the port of the connection,
of which the symbol is not told. -/
namespace PyAds
open Runs

namespace SymbolSession

/-- `auto_update` is true exactly while the value callback is registered
through the port that is open. -/
def TellsTruth (s : SymbolSession κ) : Prop :=
  s.autoUpdate = true ↔
    s.port ≠ none ∧ ∃ notification symbolHandle, s.ads.registered.get? notification = some ⟨symbolHandle, .value⟩

/-- Auto-update is off; only adding while closed has left handles in the list. -/
structure SwitchedOff (s : SymbolSession κ) : Prop where
  handle : s.autoUpdateHandle = none
  listed : ∀ handles ∈ s.handlesList, handles = none
  unregistered : ∀ notification symbolHandle, s.ads.registered.get? notification ≠ some ⟨symbolHandle, .value⟩

/-- Auto-update is on, by one notification, whose handle is the last in the list. -/
structure SwitchedOn (s : SymbolSession κ) (notification : UInt32) : Prop where
  handle : s.autoUpdateHandle = some (notification, none)
  listed : ∃ before, s.handlesList = before ++ [some (notification, none)] ∧ ∀ handles ∈ before, handles = none
  opened : s.port ≠ none
  registered : s.ads.registered.get? notification = some ⟨none, .value⟩
  stored : s.ads.Stores notification
  only : ∀ other symbolHandle, s.ads.registered.get? other = some ⟨symbolHandle, .value⟩ → other = notification

/-- The symbol, its connection and the library are in one of the two states. -/
def Switched (s : SymbolSession κ) : Prop :=
  s.toSession.InStep ∧ (s.SwitchedOff ∨ ∃ notification, s.SwitchedOn notification)

theorem Switched.tellsTruth {s : SymbolSession κ} (switched : s.Switched) : s.TellsTruth := by
  rcases switched.2 with off | ⟨notification, on⟩
  · refine iff_of_false (by simp [autoUpdate, off.handle]) ?_
    rintro ⟨_, other, symbolHandle, found⟩
    exact off.unregistered other symbolHandle found
  · exact iff_of_true (by simp [autoUpdate, on.handle]) ⟨on.opened, notification, none, on.registered⟩

end SymbolSession

namespace SymbolCall

/-- Assignments of `auto_update`, clears, and calls on the connection, with all
requests granted. -/
def Granted (_ : SymbolSession κ) : SymbolCall κ → Prop
  | .open_ router => router.portOpenEx ≠ 0 ∧ ∀ netId ipAddress, router.addRoute netId ipAddress = 0
  | .close router => ∀ port, router.portCloseEx port = 0
  | .setAutoUpdate _ add errCode => (∃ notification, add = .ok notification) ∧ ∀ notification, errCode notification = 0
  | .clearDeviceNotifications errCode => ∀ notification, errCode notification = 0
  | .addDeviceNotification .. | .delDeviceNotification .. => False

/-- The connection is not closed while auto-update is on. -/
def ClosesOff (s : SymbolSession κ) : SymbolCall κ → Prop
  | .close _ => s.isOpen = true → s.autoUpdate = false
  | _ => True

end SymbolCall

/-! ## One call -/

namespace SymbolSession

section Steps
variable {s : SymbolSession κ}

theorem SwitchedOn.deleted (on : s.SwitchedOn notification) (granted : errCode notification = 0) :
    Connection.delDeviceNotification s.port errCode (some (notification, none)) s.ads =
      (.ok (), s.ads.without notification) := by
  obtain ⟨opened, port⟩ := Option.ne_none_iff_exists'.mp on.opened
  obtain ⟨callback, kept⟩ := Option.ne_none_iff_exists'.mp on.stored
  simp only [Connection.delDeviceNotification, port, granted]
  exact del_succeeds on.registered kept _ none

theorem SwitchedOn.without_unregistered (on : s.SwitchedOn notification) (other : UInt32)
    (symbolHandle : Option UInt32) :
    (s.ads.without notification).registered.get? other ≠ some ⟨symbolHandle, .value⟩ := by
  simp only [AdsSession.without, OrderedDict.get?_erase]
  split
  · rintro ⟨⟩
  · rename_i different
    exact fun found => different (on.only other symbolHandle found).symm

theorem withConnection_same (s : SymbolSession κ) : s.withConnection s.toSession = s := by
  simp [withConnection]

theorem SwitchedOff.withConnection (off : s.SwitchedOff) (connection : Session) :
    (s.withConnection connection).SwitchedOff := by
  refine ⟨off.handle, off.listed, fun notification symbolHandle => ?_⟩
  dsimp only [SymbolSession.withConnection]
  split
  · exact off.unregistered notification symbolHandle
  · rintro ⟨⟩

theorem SwitchedOff.setAutoUpdate_true (off : s.SwitchedOff) (symbol : AdsSymbol) (notification : UInt32)
    (errCode : UInt32 → Nat) :
    (s.setAutoUpdate symbol true (.ok notification) errCode).2.SwitchedOff ∨
      (s.setAutoUpdate symbol true (.ok notification) errCode).2.SwitchedOn notification := by
  simp only [setAutoUpdate, off.handle, addDeviceNotification, Option.elim_none]
  cases symbol.notificationLength with
  | error e => exact .inl off
  | ok length =>
    cases port : s.port with
    | none =>
      refine .inl ⟨rfl, fun handles member => ?_, off.unregistered⟩
      rcases List.mem_append.mp member with old | new
      · exact off.listed handles old
      · exact List.mem_singleton.mp new
    | some opened =>
      right
      have stillOpen : s.port ≠ none := by simp [port]
      refine ⟨rfl, ⟨s.handlesList, rfl, off.listed⟩, stillOpen, ?_, ?_, ?_⟩
      · simp
      · simp [AdsSession.Stores]
      · intro other symbolHandle found
        by_contra different
        simp only [Connection.addDeviceNotification_open, OrderedDict.get?_set, Ne.symm different, ↓reduceIte] at found
        exact off.unregistered other symbolHandle found

theorem SwitchedOn.setAutoUpdate_false (on : s.SwitchedOn notification) (symbol : AdsSymbol) (add : Except Nat UInt32)
    (granted : errCode notification = 0) : (s.setAutoUpdate symbol false add errCode).2.SwitchedOff := by
  obtain ⟨before, listed, others⟩ := on.listed
  have member : some (notification, none) ∈ s.handlesList := by simp [listed]
  have deleted := on.deleted granted
  simp only [setAutoUpdate, on.handle, delDeviceNotification, member, ↓reduceIte, deleted]
  refine ⟨rfl, ?_, on.without_unregistered⟩
  have new : some (notification, none) ∉ before := fun old => nomatch others _ old
  rw [listed, List.erase_append_right _ new, List.erase_cons_head, List.append_nil]
  exact others

/-- The loop stops at a `None` that comes first. -/
theorem clear_closedAdd (errCode : UInt32 → Nat) (listed : s.handlesList = none :: rest) :
    (s.clearDeviceNotifications errCode).2 = s := by
  have stopped : deleteAll s.port errCode s.handlesList s.ads = (.error .typeError, s.ads) := by
    rw [listed]
    rfl
  rw [clearDeviceNotifications, stopped]

theorem SwitchedOff.clear (off : s.SwitchedOff) (errCode : UInt32 → Nat) :
    (s.clearDeviceNotifications errCode).2.SwitchedOff := by
  cases listed : s.handlesList with
  | nil =>
    rw [clearDeviceNotifications, listed]
    exact ⟨rfl, List.forall_mem_nil _, off.unregistered⟩
  | cons handles rest =>
    obtain rfl := off.listed handles (by simp [listed])
    rw [clear_closedAdd errCode listed]
    exact off

theorem SwitchedOn.clear (on : s.SwitchedOn notification) (granted : errCode notification = 0) :
    (s.clearDeviceNotifications errCode).2.SwitchedOff ∨
      (s.clearDeviceNotifications errCode).2.SwitchedOn notification := by
  obtain ⟨before, listed, others⟩ := on.listed
  cases before with
  | nil =>
    left
    rw [clearDeviceNotifications, listed, List.nil_append]
    simp only [deleteAll, on.deleted granted]
    exact ⟨rfl, List.forall_mem_nil _, on.without_unregistered⟩
  | cons handles rest =>
    right
    obtain rfl := others handles List.mem_cons_self
    rw [clear_closedAdd errCode listed]
    exact on

theorem add_toSession (symbol : AdsSymbol) (attr : Option Nat) (add : Except Nat UInt32) (callback : SymbolCallback κ) :
    (s.addDeviceNotification symbol attr add callback).2.toSession = s.toSession := by
  unfold addDeviceNotification
  split
  · rfl
  · split <;> rfl

theorem del_toSession (errCode : UInt32 → Nat) (handles : Option NotificationHandles) :
    (s.delDeviceNotification errCode handles).2.toSession = s.toSession := by
  unfold delDeviceNotification
  split
  · split <;> rfl
  · rfl

theorem clear_toSession (errCode : UInt32 → Nat) : (s.clearDeviceNotifications errCode).2.toSession = s.toSession := by
  unfold clearDeviceNotifications
  split <;> rfl

theorem setAutoUpdate_toSession (symbol : AdsSymbol) (value : Bool) (add : Except Nat UInt32) (errCode : UInt32 → Nat) :
    (s.setAutoUpdate symbol value add errCode).2.toSession = s.toSession := by
  unfold setAutoUpdate
  split
  · have same := s.add_toSession symbol none add .value
    split <;> rename_i added <;> rw [added] at same <;> exact same
  · rename_i handles _
    have same := s.del_toSession errCode (some handles)
    split <;> rename_i deleted <;> rw [deleted] at same <;> exact same
  · rfl

theorem Switched.open_ (switched : s.Switched) (linux : Bool) {router : Router}
    (granted : router.portOpenEx ≠ 0 ∧ ∀ netId ipAddress, router.addRoute netId ipAddress = 0) :
    (s.withConnection (s.toSession.open_ linux router).2).Switched := by
  obtain ⟨inStep, state⟩ := switched
  have rolledBack : SessionCall.RollsBack linux s.toSession (.open_ router) :=
    fun _ _ prepared _ _ failed => absurd (granted.2 _ _) failed
  refine ⟨(Session.open_inStep_iff inStep linux router).mpr rolledBack, ?_⟩
  cases isOpen : s.isOpen with
  | true =>
    have same : (s.toSession.open_ linux router).2 = s.toSession := by simp [Session.open_, isOpen]
    rw [same, withConnection_same]
    exact state
  | false =>
    rcases state with off | ⟨notification, on⟩
    · exact .inl (off.withConnection _)
    · exact absurd (inStep.of_closed isOpen).1 on.opened

theorem Switched.close (switched : s.Switched) (router : Router) (off : s.isOpen = true → s.autoUpdate = false) :
    (s.withConnection (s.toSession.close router).2).Switched := by
  obtain ⟨inStep, state⟩ := switched
  refine ⟨Session.close_inStep inStep router, ?_⟩
  cases isOpen : s.isOpen with
  | false =>
    have same : (s.toSession.close router).2 = s.toSession := by simp [Session.close, isOpen]
    rw [same, withConnection_same]
    exact state
  | true =>
    rcases state with off | ⟨notification, on⟩
    · exact .inl (off.withConnection _)
    · have enabled := off isOpen
      simp [autoUpdate, on.handle] at enabled

/-- A connection that is closed takes the registration along, and leaves the handle. -/
theorem Switched.close_lies (switched : s.Switched) {router : Router} (granted : ∀ port, router.portCloseEx port = 0)
    (isOpen : s.isOpen = true) (enabled : s.autoUpdate = true) :
    ¬ (s.withConnection (s.toSession.close router).2).TellsTruth := by
  have closed : (s.toSession.close router).2.port = none := by
    obtain ⟨port, opened⟩ := Option.ne_none_iff_exists'.mp (switched.1.open_iff.mp isOpen)
    simp [Session.close, isOpen, opened, Router.adsPortCloseEx, granted]
  intro truth
  exact (truth.mp enabled).1 closed

end Steps
end SymbolSession

section Runs_
variable {s : SymbolSession κ} (switched : s.Switched) (linux : Bool) (symbol : AdsSymbol)
include switched

theorem switched_after (call : SymbolCall κ) (granted : call.Granted s) (closesOff : call.ClosesOff s) :
    (call.after linux symbol s).Switched := by
  cases call with
  | open_ router => exact switched.open_ linux granted
  | close router => exact switched.close router closesOff
  | setAutoUpdate value add errCode =>
    obtain ⟨⟨notification, rfl⟩, deleted⟩ := granted
    rw [SymbolCall.after, SymbolCall.run]
    refine ⟨by rw [SymbolSession.setAutoUpdate_toSession]; exact switched.1, ?_⟩
    rcases switched.2 with off | ⟨registered, on⟩
    · cases value with
      | true => exact (off.setAutoUpdate_true symbol notification errCode).imp_right fun on => ⟨notification, on⟩
      | false =>
        simp only [SymbolSession.setAutoUpdate, off.handle]
        exact .inl off
    · cases value with
      | true =>
        simp only [SymbolSession.setAutoUpdate, on.handle]
        exact .inr ⟨registered, on⟩
      | false => exact .inl (on.setAutoUpdate_false symbol _ (deleted registered))
  | clearDeviceNotifications errCode =>
    rw [SymbolCall.after, SymbolCall.run]
    refine ⟨by rw [SymbolSession.clear_toSession]; exact switched.1, ?_⟩
    rcases switched.2 with off | ⟨registered, on⟩
    · exact .inl (off.clear errCode)
    · exact (on.clear (granted registered)).imp_right fun on => ⟨registered, on⟩
  | addDeviceNotification => exact granted.elim
  | delDeviceNotification => exact granted.elim

end Runs_

/-- Over a run of calls on a new symbol and its connection, with all requests
granted, `auto_update` tells the truth in every state exactly if the connection
is never closed while it is on. -/
theorem autoUpdate_tells_truth_iff (linux : Bool) (symbol : AdsSymbol) {connection : Session}
    (inStep : connection.InStep) {ads : AdsSession (SymbolCallback κ)}
    (unregistered : ∀ notification symbolHandle, ads.registered.get? notification ≠ some ⟨symbolHandle, .value⟩)
    {calls : List (SymbolCall κ)}
    (granted : Along (SymbolCall.after linux symbol) SymbolCall.Granted (SymbolSession.new connection ads) calls) :
    Throughout (SymbolCall.after linux symbol) SymbolSession.TellsTruth (SymbolSession.new connection ads) calls ↔
      Along (SymbolCall.after linux symbol) SymbolCall.ClosesOff (SymbolSession.new connection ads) calls := by
  have start : (SymbolSession.new connection ads).Switched := ⟨inStep, .inl ⟨rfl, List.forall_mem_nil _, unregistered⟩⟩
  have kept (s : SymbolSession κ) (call : SymbolCall κ) (switched : s.Switched) (granted : call.Granted s)
      (closesOff : call.ClosesOff s) : (call.after linux symbol s).Switched :=
    switched_after switched linux symbol call granted closesOff
  refine throughout_iff_of_lost (fun s switched => switched.tellsTruth) kept ?_ start granted
  intro s call switched granted closed
  cases call with
  | close router =>
    obtain ⟨isOpen, enabled⟩ := Classical.not_imp.mp closed
    exact switched.close_lies granted isOpen (Bool.eq_true_of_not_eq_false enabled)
  | _ => exact absurd trivial closed

/-- Auto-update is switched off, or cleared, before each session ends. -/
def honestCalls : List (SymbolCall String) :=
  [.setAutoUpdate true (.ok 6) fun _ => 0, .open_ (answering 30000 0 0), .setAutoUpdate true (.ok 7) fun _ => 0,
    .setAutoUpdate false (.ok 8) fun _ => 0, .close (answering 0 0 0), .open_ (answering 30001 0 0),
    .setAutoUpdate true (.ok 7) fun _ => 0]

theorem honestCalls_tell_truth :
    Throughout (SymbolCall.after true speeds) SymbolSession.TellsTruth
      (SymbolSession.new tankSession (AdsSession.fresh _)) honestCalls := by
  have granted : Along (SymbolCall.after true speeds) SymbolCall.Granted
      (SymbolSession.new tankSession (AdsSession.fresh _)) honestCalls :=
    ⟨⟨⟨6, rfl⟩, fun _ => rfl⟩, ⟨by decide, fun _ _ => rfl⟩, ⟨⟨7, rfl⟩, fun _ => rfl⟩, ⟨⟨8, rfl⟩, fun _ => rfl⟩,
      fun _ => rfl, ⟨by decide, fun _ _ => rfl⟩, ⟨⟨7, rfl⟩, fun _ => rfl⟩, trivial⟩
  refine (autoUpdate_tells_truth_iff true speeds (Session.InStep.new tankSession_new) ?_ granted).mpr ?_
  · rintro notification symbolHandle ⟨⟩
  · exact ⟨trivial, trivial, trivial, trivial, fun _ => rfl, trivial, trivial, trivial⟩

/-- A connection closed while auto-update is on: `auto_update` stays true, also
in the next session, and assigning it again registers nothing. -/
theorem autoUpdate_outlives_session :
    let new : SymbolSession String := SymbolSession.new tankSession (AdsSession.fresh _)
    let calls : List (SymbolCall String) := [.open_ (answering 30000 0 0), .setAutoUpdate true (.ok 7) fun _ => 0,
      .close (answering 0 0 0), .open_ (answering 30001 0 0), .setAutoUpdate true (.ok 7) fun _ => 0]
    Along (SymbolCall.after true speeds) SymbolCall.Granted new calls ∧
      ¬ Throughout (SymbolCall.after true speeds) SymbolSession.TellsTruth new calls ∧
      (calls.foldl (SymbolCall.after true speeds) new).autoUpdate = true ∧
      (calls.foldl (SymbolCall.after true speeds) new).ads.registered.entries = [] := by
  refine ⟨?_, ?_, rfl, rfl⟩
  · exact ⟨⟨by decide, fun _ _ => rfl⟩, ⟨⟨7, rfl⟩, fun _ => rfl⟩, fun _ => rfl, ⟨by decide, fun _ _ => rfl⟩,
      ⟨⟨7, rfl⟩, fun _ => rfl⟩, trivial⟩
  · intro truthful
    have last := truthful _ (foldl_mem_states _ _ _)
    obtain ⟨_, notification, symbolHandle, found⟩ := last.mp rfl
    cases found

end PyAds
