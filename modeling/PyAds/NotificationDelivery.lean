import PyAds.HandlerNotifications
import PyAds.ServedValues

/-! Notifications as the clients of the advanced handler see them. Each write of
a request that changes a variable calls the callbacks of its registrations with
the new value, before the response is sent. -/
namespace PyAds
open Runs WriteLog

/-- A call of a stored callback: the handle in the header, and the sample. -/
structure Notified (α κ : Type) where
  client : α
  handle : Nat
  callback : κ
  sample : Bytes
  deriving DecidableEq

/-- The handler with its registrations, and the calls that it has made. -/
structure ObservedHandler (α κ : Type) where
  server : NotifyingHandler α κ
  notified : List (Notified α κ)

/-- A client that asks for a notification stores its callback with the answer. -/
inductive HandlerEvent (α κ : Type) where
  | addVariable (id : Nat)
  | asks (client : α) (request : AdsRequest) (callback : κ)

namespace HandlerEvent

/-- What an event does to the registrations. -/
def note? : HandlerEvent α κ → Option (NoteRequest α κ)
  | .addVariable id => some (.addVariable id)
  | .asks client (.addDevicenote indexGroup indexOffset) callback =>
    some (.addNotification client indexGroup indexOffset callback)
  | .asks client (.deleteDevicenote handle) _ => some (.deleteNotification client handle)
  | .asks .. => none

/-- A client asks for a notification. -/
abbrev adds (client : α) (indexGroup indexOffset : UInt32) (callback : κ) : HandlerEvent α κ :=
  .asks client (.addDevicenote indexGroup indexOffset) callback

/-- The variables that an event writes, each with its new value. -/
def writes (handler : AdvancedHandler) : HandlerEvent α κ → List (Nat × Bytes)
  | .addVariable _ => []
  | .asks _ request _ => request.writes handler

end HandlerEvent

namespace AdvancedHandler

/-- The writes of a request: the calls that they make, and the handler afterwards. -/
def writeAll (callbackStore : OrderedDict (α × UInt32) κ) : List (Nat × Bytes) → AdvancedHandler →
    List (Notified α κ) × AdvancedHandler
  | [], handler => ([], handler)
  | (id, value) :: log, handler =>
    let (calls, var) := (handler.objects id).write callbackStore value
    let (later, handler) := writeAll callbackStore log (handler.setObject id var)
    (calls.map (fun (client, handle, callback) => ⟨client, handle, callback, value⟩) ++ later, handler)

theorem writeAll_withValues (callbackStore : OrderedDict (α × UInt32) κ) (log : List (Nat × Bytes))
    (values : Nat → Bytes) (handler : AdvancedHandler) :
    (writeAll callbackStore log (handler.withValues values)).2 = handler.withValues (lastWritten values log) := by
  induction log generalizing values with
  | nil => rfl
  | cons write log ih =>
    obtain ⟨id, value⟩ := write
    rw [writeAll, lastWritten_cons, ← ih]
    simp only [setObject_write, setValue_withValues]

theorem revalued_writeAll (callbackStore : OrderedDict (α × UInt32) κ) (log : List (Nat × Bytes))
    (handler : AdvancedHandler) : Revalued handler (writeAll callbackStore log handler).2 := by
  have written := writeAll_withValues callbackStore log handler.values handler
  rw [withValues_values] at written
  rw [written]
  exact handler.revalued_withValues _

end AdvancedHandler

/-- A request is handled; the calls that it makes are noted. -/
def HandlerEvent.after [DecidableEq α] (s : ObservedHandler α κ) (event : HandlerEvent α κ) : ObservedHandler α κ :=
  match event.note? with
  | some request => { s with server := request.after s.server }
  | none =>
    let (calls, handler) := s.server.handler.writeAll s.server.callbackStore (event.writes s.server.handler)
    ⟨{ s.server with handler := handler }, s.notified ++ calls⟩

/-- No handle of a live registration is given out again. -/
def HandlerEvent.KeepsApart [DecidableEq α] (s : ObservedHandler α κ) (event : HandlerEvent α κ) : Prop :=
  ∀ request ∈ event.note?, request.KeepsApart s.server

namespace ObservedHandler
variable [DecidableEq α]

/-- All writes of a run, one after the other. -/
def writes (s : ObservedHandler α κ) : List (HandlerEvent α κ) → List (Nat × Bytes)
  | [] => []
  | event :: events => event.writes s.server.handler ++ writes (event.after s) events

/-- The registrations are told apart by their handles. -/
structure Regular (s : ObservedHandler α κ) : Prop where
  consistent : s.server.Consistent
  sound : s.server.Sound

end ObservedHandler

/-! ## Writes -/

section Writes
variable {handler : AdvancedHandler} {id : Nat} {item : Nat × Bytes}
  (keyed : ∀ key id, handler.data.get? key = some id → (handler.objects id).indices = key)
include keyed

theorem AdvancedHandler.holds_of_indices {indexGroup indexOffset : UInt32}
    (found : handler.getVariableByIndices indexGroup indexOffset = .ok id) : handler.Holds id := by
  unfold AdvancedHandler.getVariableByIndices at found
  cases there : handler.data.get? (indexGroup, indexOffset) with
  | none =>
    rw [there] at found
    cases found
  | some other =>
    rw [there] at found
    cases found
    exact AdvancedHandler.holds_of_get? keyed there

theorem AdvancedHandler.holds_of_foundItems {items : List (SumRequest × Bytes)}
    (member : item ∈ handler.foundItems items) : handler.Holds item.1 := by
  induction items with
  | nil => cases member
  | cons item items ih =>
    obtain ⟨request, value⟩ := item
    rw [foundItems] at member
    cases found : handler.getVariableByIndices request.iGroup request.iOffset with
    | error e =>
      rw [found] at member
      cases member
    | ok id =>
      rw [found] at member
      rcases List.mem_cons.mp member with rfl | later
      · exact holds_of_indices keyed found
      · exact ih later

/-- A request writes variables that the handler holds. -/
theorem AdsRequest.holds_of_writes {request : AdsRequest} (member : item ∈ request.writes handler) :
    handler.Holds item.1 := by
  have single {found : Result Nat} {value : Bytes} (held : ∀ id, found = .ok id → handler.Holds id)
      (member : item ∈ found.toOption.toList.map (·, value)) : handler.Holds item.1 := by
    cases found with
    | error e => cases member
    | ok id =>
      cases List.mem_singleton.mp member
      exact held id rfl
  cases request with
  | write indexGroup indexOffset value =>
    simp only [writes] at member
    split at member
    · cases member
    · split at member
      · exact single (fun id found => (AdvancedHandler.of_firstWith keyed found).1) member
      · exact single (fun id => AdvancedHandler.holds_of_indices keyed) member
  | readWrite indexGroup indexOffset readLength writeData =>
    simp only [writes] at member
    split at member
    · cases member
    · split at member
      · split at member
        · cases member
        · exact AdvancedHandler.holds_of_foundItems keyed member
      · exact single (fun id => AdvancedHandler.holds_of_indices keyed) member
  | _ => cases member

theorem HandlerEvent.holds_of_writes {event : HandlerEvent α κ} (member : item ∈ event.writes handler) :
    handler.Holds item.1 := by
  cases event with
  | addVariable id => cases member
  | asks client request callback => exact AdsRequest.holds_of_writes keyed member

end Writes

/-- The call of a registration's callback. -/
def DeviceNote.notified (note : DeviceNote α κ) (sample : Bytes) : Notified α κ :=
  ⟨note.client, note.handle.toNat, note.callback, sample⟩

namespace NotifyingHandler
variable [DecidableEq α] {server : NotifyingHandler α κ} {later : AdvancedHandler}

omit [DecidableEq α] in
theorem Consistent.revalued (consistent : server.Consistent)
    (revalued : AdvancedHandler.Revalued server.handler later) :
    Consistent { server with handler := later } := by
  have indices := revalued.field (f := PLCVariable.indices) fun _ _ => rfl
  have notifications := revalued.field (f := PLCVariable.notifications) fun _ _ => rfl
  have next := revalued.field (f := PLCVariable.nextNotification) fun _ _ => rfl
  refine ⟨fun key id found => ?_, fun id => ?_, fun id => ?_, fun id => ?_⟩
  · rw [indices]
    exact consistent.keyed key id (revalued.data ▸ found)
  · rw [notifications]
    exact consistent.registered id
  · rw [notifications, next]
    exact consistent.bounded id
  · rw [notifications]
    exact consistent.nodup id

omit [DecidableEq α] in
theorem live_revalued (revalued : AdvancedHandler.Revalued server.handler later) :
    live { server with handler := later } = server.live :=
  List.filter_congr fun note _ => decide_eq_decide.mpr (revalued.holds_iff note.variable_)

theorem Sound.revalued (sound : server.Sound) (revalued : AdvancedHandler.Revalued server.handler later) :
    Sound { server with handler := later } := by
  have live := live_revalued revalued
  exact ⟨by rw [live]; exact sound.apart, by rw [live]; exact sound.kept⟩

section Callback
variable [DecidableEq κ] {callback : κ} {registered : Option (DeviceNote α κ)}

/-- A write calls a callback that is registered once if it changes the variable
of the registration, and one that is not registered never. -/
theorem notified_write (consistent : server.Consistent) (sound : server.Sound)
    (own : server.notes.filter (·.callback = callback) = registered.toList) {id : Nat} (held : server.handler.Holds id)
    (value : Bytes) : (((server.handler.objects id).write server.callbackStore value).1).filter (·.2.2 = callback) =
      (registered.toList.filter fun note => note.variable_ = id ∧ (server.handler.objects id).value ≠ value).map
        fun note => (note.client, note.handle.toNat, note.callback) := by
  by_cases changed : (server.handler.objects id).value ≠ value
  · have called := (consistent.identifies_iff.mpr sound).called id held value changed
    rw [called, live_on held, List.filter_map, List.filter_filter, ← own, List.filter_filter]
    congr 1
    apply List.filter_congr
    intro note _
    simp [changed, Bool.and_comm]
  · have kept : ((server.handler.objects id).write server.callbackStore value).1 = [] := by
      rw [PLCVariable.write, if_neg changed]
    simp [kept, changed]

/-- All writes of a request together call it for the changes of this variable. -/
theorem notified_writeAll (consistent : server.Consistent) (sound : server.Sound)
    (own : server.notes.filter (·.callback = callback) = registered.toList) {log : List (Nat × Bytes)}
    (held : ∀ item ∈ log, server.handler.Holds item.1) :
    (server.handler.writeAll server.callbackStore log).1.filter (·.callback = callback) =
      registered.toList.flatMap fun note =>
        (changes note.variable_ (server.handler.objects note.variable_).value log).map note.notified := by
  induction log generalizing server with
  | nil => cases registered <;> rfl
  | cons item log ih =>
    obtain ⟨id, value⟩ := item
    obtain ⟨here, later⟩ := List.forall_mem_cons.mp held
    have revalued := AdvancedHandler.Revalued.setValue id value server.handler
    have rest := ih (consistent.revalued revalued) (sound.revalued revalued) own
      (fun item member => (revalued.holds_iff item.1).mpr (later item member))
    have first := notified_write consistent sound own here value
    have calls : (((server.handler.objects id).write server.callbackStore value).1.map
        fun (client, handle, callback) => (⟨client, handle, callback, value⟩ : Notified α κ)).filter
          (·.callback = callback) =
        (registered.toList.filter fun note => note.variable_ = id ∧ (server.handler.objects id).value ≠ value).map
          fun note => note.notified value := by
      rw [List.filter_map, show (fun call : Notified α κ => decide (call.callback = callback)) ∘
        (fun (client, handle, callback) => (⟨client, handle, callback, value⟩ : Notified α κ)) =
          fun call : α × Nat × κ => decide (call.2.2 = callback) from rfl, first, List.map_map]
      rfl
    rw [AdvancedHandler.writeAll]
    simp only [List.filter_append, calls]
    rw [AdvancedHandler.setObject_write]
    refine (congrArg _ rest).trans ?_
    cases registered with
    | none => rfl
    | some note =>
      simp only [Option.toList_some, List.flatMap_cons, List.flatMap_nil, List.append_nil]
      have valued : ((server.handler.setValue id value).objects note.variable_).value =
          if note.variable_ = id then value else (server.handler.objects note.variable_).value := by
        rw [AdvancedHandler.setValue, AdvancedHandler.setObject]
        dsimp only
        rw [Function.update_apply]
        split <;> rfl
      rw [valued, changes]
      by_cases same : note.variable_ = id
      · by_cases kept : (server.handler.objects id).value = value
        · simp [same, kept]
        · simp [same, kept]
      · simp [same, Ne.symm same]

end Callback

end NotifyingHandler

/-! ## Runs -/

namespace HandlerEvent

/-- The event is to register a callback. -/
def Registers (callback : κ) : HandlerEvent α κ → Prop
  | .asks _ (.addDevicenote ..) other => other = callback
  | _ => False

/-- The event is to delete the registrations with a handle. -/
def Deletes (handle : UInt32) : HandlerEvent α κ → Prop
  | .asks _ (.deleteDevicenote other) _ => other = handle
  | _ => False

instance [DecidableEq κ] (callback : κ) (event : HandlerEvent α κ) : Decidable (event.Registers callback) := by
  unfold Registers
  split <;> infer_instance

instance (handle : UInt32) (event : HandlerEvent α κ) : Decidable (event.Deletes handle) := by
  unfold Deletes
  split <;> infer_instance

theorem writes_of_note {event : HandlerEvent α κ} (noted : event.note? = some request) (handler : AdvancedHandler) :
    event.writes handler = [] := by
  cases event with
  | addVariable id => rfl
  | asks client request callback => cases request <;> first | rfl | cases noted

theorem writes_of_deletes {event : HandlerEvent α κ} (deletes : event.Deletes handle) (handler : AdvancedHandler) :
    event.writes handler = [] := by
  cases event with
  | addVariable id => rfl
  | asks client request callback => cases request <;> first | rfl | cases deletes

end HandlerEvent

namespace ObservedHandler
variable [DecidableEq α] {s : ObservedHandler α κ}

theorem Regular.after (regular : s.Regular) {event : HandlerEvent α κ} (apart : event.KeepsApart s) :
    (event.after s).Regular := by
  obtain ⟨consistent, sound⟩ := regular
  unfold HandlerEvent.after
  cases noted : event.note? with
  | some request =>
    exact ⟨request.after_consistent consistent sound,
      (request.after_sound_iff consistent sound).mpr (apart request noted)⟩
  | none =>
    have revalued := AdvancedHandler.revalued_writeAll s.server.callbackStore (event.writes s.server.handler)
      s.server.handler
    exact ⟨consistent.revalued revalued, sound.revalued revalued⟩

/-- A registration is refused, made without an answer, or answered with its handle. -/
theorem addNotification_cases (server : NotifyingHandler α κ) (client : α) (indexGroup indexOffset : UInt32)
    (callback : κ) : server.addNotification client indexGroup indexOffset callback = server ∨ ∃ id,
      (server.handler.getVariableByIndices indexGroup indexOffset = .ok id ∧
        server.addNotification client indexGroup indexOffset callback =
          { server with handler := server.handler.setObject id (server.handler.objects id).registerNotification.2 }) ∨
      ∃ handle, server.handler.getVariableByIndices indexGroup indexOffset = .ok id ∧
        handle.toNat = (server.handler.objects id).nextNotification ∧
        server.addNotification client indexGroup indexOffset callback =
          ⟨server.handler.setObject id (server.handler.objects id).registerNotification.2,
            server.callbackStore.set (client, handle) callback, server.notes ++ [⟨id, handle, client, callback⟩]⟩ := by
  cases found : server.handler.getVariableByIndices indexGroup indexOffset with
  | error e =>
    left
    simp only [NotifyingHandler.addNotification, AdvancedHandler.handleAddDevicenote, found]
  | ok id =>
    refine .inr ⟨id, ?_⟩
    by_cases small : (server.handler.objects id).nextNotification < 2 ^ 32
    · have packed : (UInt32.ofNat (server.handler.objects id).nextNotification).toNat =
          (server.handler.objects id).nextNotification := by
        rw [UInt32.toNat_ofNat', Nat.mod_eq_of_lt small]
      exact .inr ⟨_, rfl, packed, NotifyingHandler.addNotification_small found packed client callback⟩
    · exact .inl ⟨rfl, NotifyingHandler.addNotification_large found small client callback⟩

/-- Requests of notifications leave all values. -/
theorem values_note (server : NotifyingHandler α κ) (request : NoteRequest α κ) :
    (request.after server).handler.values = server.handler.values := by
  have unchanged (id : Nat) (var : PLCVariable) (same : var.value = (server.handler.objects id).value) :
      (server.handler.setObject id var).values = server.handler.values := by
    funext other
    rw [AdvancedHandler.values, AdvancedHandler.values, AdvancedHandler.setObject]
    dsimp only
    rw [Function.update_apply]
    split
    · rename_i here
      rw [same, here]
    · rfl
  cases request with
  | addVariable id => rfl
  | addNotification client indexGroup indexOffset callback =>
    rcases addNotification_cases server client indexGroup indexOffset callback with
      same | ⟨id, ⟨-, same⟩ | ⟨handle, -, -, same⟩⟩
    · rw [NoteRequest.after, same]
    · rw [NoteRequest.after, same]
      exact unchanged id _ rfl
    · rw [NoteRequest.after, same]
      exact unchanged id _ rfl
  | deleteNotification client handle =>
    simp only [NoteRequest.after, NotifyingHandler.deleteNotification, AdvancedHandler.handleDeleteDevicenote]
    cases server.handler.getVariableByNotificationHandle handle.toNat with
    | error e => rfl
    | ok id => exact unchanged id _ rfl

/-- An event leaves what its writes wrote last. -/
theorem values_after (s : ObservedHandler α κ) (event : HandlerEvent α κ) :
    (event.after s).server.handler.values =
      lastWritten s.server.handler.values (event.writes s.server.handler) := by
  unfold HandlerEvent.after
  cases noted : event.note? with
  | some request =>
    rw [HandlerEvent.writes_of_note noted]
    exact values_note s.server request
  | none =>
    have written := AdvancedHandler.writeAll_withValues s.server.callbackStore (event.writes s.server.handler)
      s.server.handler.values s.server.handler
    rw [AdvancedHandler.withValues_values] at written
    dsimp only
    rw [written]
    rfl

section Callback
variable [DecidableEq κ] {callback : κ} {registered : Option (DeviceNote α κ)}

theorem notified_after (registered : Option (DeviceNote α κ)) (regular : s.Regular)
    (own : s.server.notes.filter (·.callback = callback) = registered.toList) (event : HandlerEvent α κ) :
    (event.after s).notified.filter (·.callback = callback) =
      s.notified.filter (·.callback = callback) ++ registered.toList.flatMap fun note =>
        (changes note.variable_ (s.server.handler.values note.variable_) (event.writes s.server.handler)).map
          note.notified := by
  unfold HandlerEvent.after
  cases noted : event.note? with
  | some request =>
    rw [HandlerEvent.writes_of_note noted]
    cases registered <;> simp [changes]
  | none =>
    dsimp only
    rw [List.filter_append, NotifyingHandler.notified_writeAll regular.consistent regular.sound own
      fun item => HandlerEvent.holds_of_writes regular.consistent.keyed]
    rfl

/-- The registration of a callback stays as long as its handle is not deleted. -/
theorem own_after (own : s.server.notes.filter (·.callback = callback) = registered.toList) {event : HandlerEvent α κ}
    (other : ¬ event.Registers callback) (kept : ∀ note ∈ registered, ¬ event.Deletes note.handle) :
    (event.after s).server.notes.filter (·.callback = callback) = registered.toList := by
  unfold HandlerEvent.after
  cases event with
  | addVariable id => exact own
  | asks client request function =>
    cases request with
    | addDevicenote indexGroup indexOffset =>
      change ((s.server.addNotification client indexGroup indexOffset function).notes.filter _) = _
      rcases addNotification_cases s.server client indexGroup indexOffset function with
        same | ⟨id, ⟨-, same⟩ | ⟨handle, -, -, same⟩⟩
      · rw [same, own]
      · rw [same, own]
      · have differs : function ≠ callback := other
        rw [same, List.filter_append, own]
        simp [differs]
    | deleteDevicenote handle =>
      have stays : ∀ note ∈ registered.toList, note.handle ≠ handle := by
        intro note member same
        exact kept note (Option.mem_toList.mp member) same.symm
      change ((s.server.deleteNotification client handle).notes.filter _) = _
      unfold NotifyingHandler.deleteNotification
      split
      · exact own
      · dsimp only
        rw [List.filter_comm, own, List.filter_eq_self]
        intro note member
        simp [stays note member]
    | _ => exact own

/-- A run in which no other event is about the callback: it is called for the
changes of the variable of its registration, if there is one. -/
theorem notified_run (registered : Option (DeviceNote α κ)) (regular : s.Regular)
    (own : s.server.notes.filter (·.callback = callback) = registered.toList) {events : List (HandlerEvent α κ)}
    (apart : Along HandlerEvent.after HandlerEvent.KeepsApart s events)
    (others : ∀ event ∈ events, ¬ event.Registers callback)
    (kept : ∀ note ∈ registered, ∀ event ∈ events, ¬ event.Deletes note.handle) :
    (events.foldl HandlerEvent.after s).Regular ∧
      (events.foldl HandlerEvent.after s).server.notes.filter (·.callback = callback) = registered.toList ∧
      (events.foldl HandlerEvent.after s).notified.filter (·.callback = callback) =
        s.notified.filter (·.callback = callback) ++ registered.toList.flatMap fun note =>
          (changes note.variable_ (s.server.handler.values note.variable_) (s.writes events)).map note.notified := by
  induction events generalizing s with
  | nil =>
    refine ⟨regular, own, ?_⟩
    cases registered <;> simp [writes, changes]
  | cons event events ih =>
    obtain ⟨here, later⟩ := apart
    obtain ⟨otherHere, otherLater⟩ := List.forall_mem_cons.mp others
    have keptHere (note : DeviceNote α κ) (member : note ∈ registered) := (List.forall_mem_cons.mp (kept note member)).1
    have keptLater (note : DeviceNote α κ) (member : note ∈ registered) :=
      (List.forall_mem_cons.mp (kept note member)).2
    obtain ⟨lastRegular, lastOwn, called⟩ :=
      ih (regular.after here) (own_after own otherHere keptHere) later otherLater keptLater
    refine ⟨lastRegular, lastOwn, ?_⟩
    rw [List.foldl_cons, called, notified_after registered regular own, List.append_assoc]
    cases registered with
    | none => rfl
    | some note =>
      simp only [Option.toList_some, List.flatMap_cons, List.flatMap_nil, List.append_nil, writes, changes_append,
        List.map_append, values_after]

end Callback

/-- The handler before any event. -/
def fresh (α κ : Type) (objects : Nat → PLCVariable) : ObservedHandler α κ := ⟨.fresh α κ objects, []⟩

/-- The handler after a run. -/
def observed (objects : Nat → PLCVariable) (events : List (HandlerEvent α κ)) : ObservedHandler α κ :=
  events.foldl HandlerEvent.after (fresh α κ objects)

section Callback
variable [DecidableEq κ] {callback : κ} {note : DeviceNote α κ}

/-- The answer to a registration carries the handle of the callback. -/
theorem own_registered {id : Nat} (none_ : s.server.notes.filter (·.callback = callback) = [])
    (found : s.server.handler.getVariableByIndices indexGroup indexOffset = .ok id)
    (answered : (s.server.handler.handleAddDevicenote indexGroup indexOffset).1 = .ok handle) (client : α) :
    (HandlerEvent.after s (.adds client indexGroup indexOffset callback)).server.notes.filter (·.callback = callback) =
      [⟨id, handle, client, callback⟩] := by
  have small : handle.toNat = (s.server.handler.objects id).nextNotification := by
    simp only [AdvancedHandler.handleAddDevicenote, found] at answered
    by_cases small : (s.server.handler.objects id).registerNotification.1 < 2 ^ 32
    · rw [if_pos small] at answered
      cases answered
      rw [UInt32.toNat_ofNat', Nat.mod_eq_of_lt small]
      rfl
    · rw [if_neg small] at answered
      cases answered
  change ((s.server.addNotification client indexGroup indexOffset callback).notes.filter _) = _
  rw [NotifyingHandler.addNotification_small found small, List.filter_append, none_]
  simp

/-- Deleting the handle of a live registration ends it. -/
theorem own_deleted (regular : s.Regular) (own : s.server.notes.filter (·.callback = callback) = [note])
    {event : HandlerEvent α κ} (deletes : event.Deletes note.handle) (held : s.server.handler.Holds note.variable_) :
    (event.after s).server.notes.filter (·.callback = callback) = [] := by
  have member : note ∈ s.server.notes := (List.mem_filter.mp (own ▸ List.mem_singleton_self note)).1
  have live : note ∈ s.server.live := NotifyingHandler.mem_live.mpr ⟨member, held⟩
  have deleted := (regular.consistent.identifies_iff.mpr regular.sound).deleted note live
  cases event with
  | addVariable id => cases deletes
  | asks client request function =>
    cases request with
    | deleteDevicenote handle =>
      cases deletes
      change ((s.server.deleteNotification client note.handle).notes.filter _) = _
      simp only [NotifyingHandler.deleteNotification, deleted]
      rw [List.filter_comm, own]
      simp [held]
    | _ => cases deletes

end Callback

section Registered
variable [DecidableEq κ] {objects : Nat → PLCVariable} (unregistered : ∀ id, (objects id).notifications = [])
  {client : α} {indexGroup indexOffset handle : UInt32} {callback : κ} {before during : List (HandlerEvent α κ)} {id : Nat}
  (apart : Along HandlerEvent.after HandlerEvent.KeepsApart (fresh α κ objects)
    (before ++ .adds client indexGroup indexOffset callback :: during))
  (found : (observed objects before).server.handler.getVariableByIndices indexGroup indexOffset = .ok id)
  (answered : ((observed objects before).server.handler.handleAddDevicenote indexGroup indexOffset).1 = .ok handle)
  (others : ∀ event ∈ before ++ during, ¬ event.Registers callback) (kept : ∀ event ∈ during, ¬ event.Deletes handle)
include unregistered apart found answered others kept

/-- A callback that is registered has been called for the changes of its variable
since then. -/
theorem notified_registered :
    (observed objects (before ++ .adds client indexGroup indexOffset callback :: during)).Regular ∧
      (observed objects (before ++ .adds client indexGroup indexOffset callback :: during)).server.notes.filter
        (·.callback = callback) = [⟨id, handle, client, callback⟩] ∧
      (observed objects (before ++ .adds client indexGroup indexOffset callback :: during)).notified.filter
        (·.callback = callback) =
          (changes id ((observed objects before).server.handler.values id)
            ((observed objects (before ++ [.adds client indexGroup indexOffset callback])).writes during)).map
              fun sample => ⟨client, handle.toNat, callback, sample⟩ := by
  have consistent := NotifyingHandler.fresh_consistent (α := α) (κ := κ) unregistered
  have start : (fresh α κ objects).Regular :=
    ⟨consistent, consistent.identifies_iff.mp (NotifyingHandler.fresh_identifies unregistered)⟩
  simp only [observed, List.foldl_append, List.foldl_cons, List.foldl_nil] at found answered ⊢
  obtain ⟨apartBefore, apartHere, apartDuring⟩ := along_append.mp apart
  obtain ⟨othersBefore, othersDuring⟩ := List.forall_mem_append.mp others
  obtain ⟨regular, none_, silent⟩ := notified_run none start rfl apartBefore othersBefore
    (fun _ member => by cases member)
  have own := own_registered none_ found answered client
  have registering := notified_after none regular none_ (.adds client indexGroup indexOffset callback)
  have values := values_after (before.foldl HandlerEvent.after (fresh α κ objects))
    (.adds client indexGroup indexOffset callback)
  obtain ⟨lastRegular, lastOwn, called⟩ := notified_run (some ⟨id, handle, client, callback⟩)
    (regular.after apartHere) own apartDuring othersDuring
    (fun note member event inside => by cases member; exact kept event inside)
  refine ⟨lastRegular, lastOwn, ?_⟩
  rw [called, registering, silent, values]
  simp [fresh, HandlerEvent.writes, AdsRequest.writes, DeviceNote.notified]

end Registered

/-- In a run that keeps the handles of registrations apart, a callback that is
registered once is called once for each change of its variable, in order, as long
as it is registered. -/
theorem callback_sees_changes [DecidableEq κ] {objects : Nat → PLCVariable}
    (unregistered : ∀ id, (objects id).notifications = []) (client : α) (indexGroup indexOffset : UInt32) (callback : κ)
    (before during rest : List (HandlerEvent α κ)) (id : Nat)
    (apart : Along HandlerEvent.after HandlerEvent.KeepsApart (fresh α κ objects)
      ((before ++ .adds client indexGroup indexOffset callback :: during) ++ rest))
    (found : (observed objects before).server.handler.getVariableByIndices indexGroup indexOffset = .ok id)
    (answered : ((observed objects before).server.handler.handleAddDevicenote indexGroup indexOffset).1 = .ok handle)
    (others : ∀ event ∈ (before ++ during) ++ rest, ¬ event.Registers callback)
    (kept : ∀ event ∈ during, ¬ event.Deletes handle)
    (ends : rest = [] ∨ ∃ event later, rest = event :: later ∧ event.Deletes handle ∧
      (observed objects (before ++ .adds client indexGroup indexOffset callback :: during)).server.handler.Holds id) :
    (observed objects ((before ++ .adds client indexGroup indexOffset callback :: during) ++ rest)).notified.filter
        (·.callback = callback) =
      (changes id ((observed objects before).server.handler.values id)
        ((observed objects (before ++ [.adds client indexGroup indexOffset callback])).writes during)).map
          fun sample => ⟨client, handle.toNat, callback, sample⟩ := by
  obtain ⟨apartFirst, apartRest⟩ := along_append.mp apart
  obtain ⟨othersFirst, othersRest⟩ := List.forall_mem_append.mp others
  obtain ⟨regular, own, heard⟩ := notified_registered unregistered apartFirst found answered othersFirst kept
  rw [← heard]
  rcases ends with rfl | ⟨event, later, rfl, deletes, held⟩
  · rw [List.append_nil]
  · obtain ⟨apartEnd, apartAfter⟩ := apartRest
    have gone := own_deleted regular own deletes held
    obtain ⟨-, -, rest⟩ := notified_run none (regular.after apartEnd) gone apartAfter
      (List.forall_mem_cons.mp othersRest).2 (fun _ member => by cases member)
    have ending := notified_after (some ⟨id, handle, client, callback⟩) regular own event
    rw [HandlerEvent.writes_of_deletes deletes] at ending
    rw [observed, List.foldl_append, List.foldl_cons]
    change (later.foldl HandlerEvent.after (event.after (observed objects _))).notified.filter _ = _
    rw [rest, ending]
    simp [changes]

/-- Two clients write a level that one of them is notified of, until it deletes
its registration. -/
theorem level_changes_seen : (observed byteVariable [.addVariable 0, .adds false 12345 0 "level",
      .asks true (.write 12345 0 [7]) "", .asks false (.write 12345 0 [7]) "", .asks true (.readWrite 12345 0 1 [9]) "",
      .asks false (.deleteDevicenote 10) "", .asks true (.write 12345 0 [3]) ""]).notified.filter (·.callback = "level") =
    [⟨false, 10, "level", [7]⟩, ⟨false, 10, "level", [9]⟩] := by
  let added : List (HandlerEvent Bool String) := [.addVariable 0]
  have answered : ((observed byteVariable added).server.handler.handleAddDevicenote 12345 0).1 =
      .ok (10 : UInt32) := rfl
  have seen := callback_sees_changes byteVariable_unregistered false 12345 0 "level" added
    [.asks true (.write 12345 0 [7]) "", .asks false (.write 12345 0 [7]) "", .asks true (.readWrite 12345 0 1 [9]) ""]
    [.asks false (.deleteDevicenote 10) "", .asks true (.write 12345 0 [3]) ""] 0 ?_ rfl answered ?_ ?_ ?_
  · exact seen
  · refine ⟨?_, ?_, nofun, nofun, nofun, ?_, nofun, trivial⟩
    · rintro _ ⟨⟩ _ note noted
      cases noted
    · rintro _ ⟨⟩ id handle found next
      refine ⟨?_, fun _ stored => ?_⟩
      · intro note member
        cases member
      · cases stored
    · rintro _ ⟨⟩
      trivial
  · decide
  · decide
  · exact .inr ⟨_, _, rfl, rfl, by decide⟩

end ObservedHandler

end PyAds
