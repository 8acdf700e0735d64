import PyAds.AdvancedHandler
import PyAds.Base.Runs

/-! Notifications of the advanced handler. A handle is counted for each variable,
while deleting and dispatching search all variables and all callbacks for it. -/
namespace PyAds
open Runs

/-- A registration: what it is on, the handle that the request was given, and
the callback that the client has stored for it. -/
structure DeviceNote (α κ : Type) where
  variable_ : Nat
  handle : UInt32
  client : α
  callback : κ

/-- The handler, the callbacks that the clients keep under their handles, and
the registrations that no request has deleted. -/
structure NotifyingHandler (α κ : Type) where
  handler : AdvancedHandler
  callbackStore : OrderedDict (α × UInt32) κ
  notes : List (DeviceNote α κ)

/-- The calls for one handle: all callbacks that are stored under it. -/
def callsFor (callbackStore : OrderedDict (α × UInt32) κ) (handle : Nat) : List (α × Nat × κ) :=
  callbackStore.entries.filterMap fun entry =>
    if entry.1.2.toNat = handle then some (entry.1.1, handle, entry.2) else none

/-- `PLCVariable.write`: the calls that it makes, and the variable afterwards. -/
def PLCVariable.write (callbackStore : OrderedDict (α × UInt32) κ) (value : Bytes) (var : PLCVariable) :
    List (α × Nat × κ) × PLCVariable :=
  (if var.value ≠ value then var.notifications.flatMap (callsFor callbackStore) else [], { var with value := value })

inductive NoteRequest (α κ : Type) where
  | addVariable (id : Nat)
  | addNotification (client : α) (indexGroup indexOffset : UInt32) (callback : κ)
  | deleteNotification (client : α) (handle : UInt32)

namespace NotifyingHandler
variable [DecidableEq α]

/-- The registrations on variables that the handler holds. -/
def live (server : NotifyingHandler α κ) : List (DeviceNote α κ) :=
  server.notes.filter fun note => server.handler.Holds note.variable_

/-- The client stores its callback under the handle in the answer. -/
def addNotification (client : α) (indexGroup indexOffset : UInt32) (callback : κ) (server : NotifyingHandler α κ) :
    NotifyingHandler α κ :=
  match server.handler.getVariableByIndices indexGroup indexOffset,
    server.handler.handleAddDevicenote indexGroup indexOffset with
  | .ok id, (.ok handle, handler) =>
    ⟨handler, server.callbackStore.set (client, handle) callback, server.notes ++ [⟨id, handle, client, callback⟩]⟩
  | _, (_, handler) => { server with handler := handler }

/-- The client forgets its callback whatever the answer is. -/
def deleteNotification (client : α) (handle : UInt32) (server : NotifyingHandler α κ) : NotifyingHandler α κ :=
  match server.handler.handleDeleteDevicenote handle with
  | (.error _, handler) => ⟨handler, server.callbackStore.erase (client, handle), server.notes⟩
  | (.ok _, handler) =>
    ⟨handler, server.callbackStore.erase (client, handle),
      server.notes.filter fun note => ¬ (note.handle = handle ∧ server.handler.Holds note.variable_)⟩

/-- The handles of the live registrations tell them apart: deleting one takes
it from the variable that its registration is on, and a write that changes a
variable calls the callbacks of the registrations on it. -/
structure Identifies (server : NotifyingHandler α κ) : Prop where
  distinct : (server.live.map (·.handle)).Nodup
  deleted : ∀ note ∈ server.live, server.handler.handleDeleteDevicenote note.handle =
    (.ok (), server.handler.setObject note.variable_
      ((server.handler.objects note.variable_).unregisterNotification note.handle.toNat))
  called : ∀ id, server.handler.Holds id → ∀ value, (server.handler.objects id).value ≠ value →
    ((server.handler.objects id).write server.callbackStore value).1 =
      (server.live.filter (·.variable_ = id)).map fun note => (note.client, note.handle.toNat, note.callback)

end NotifyingHandler

def NoteRequest.after [DecidableEq α] (server : NotifyingHandler α κ) : NoteRequest α κ → NotifyingHandler α κ
  | .addVariable id => { server with handler := server.handler.addVariable id }
  | .addNotification client indexGroup indexOffset callback =>
    server.addNotification client indexGroup indexOffset callback
  | .deleteNotification client handle => server.deleteNotification client handle

/-- The callback of a registration is the only one that is stored under its handle. -/
def DeviceNote.Kept [DecidableEq α] (callbackStore : OrderedDict (α × UInt32) κ) (note : DeviceNote α κ) : Prop :=
  callbackStore.get? (note.client, note.handle) = some note.callback ∧
    ∀ other, (other, note.handle) ∈ callbackStore.keys → other = note.client

/-- The next handle of a variable is neither that of a live registration nor
one under which another client still stores a callback; a variable that returns
with registrations finds their handles unused and their callbacks stored. -/
def NoteRequest.KeepsApart [DecidableEq α] (server : NotifyingHandler α κ) : NoteRequest α κ → Prop
  | .addVariable id => ¬ server.handler.Holds id → ∀ note ∈ server.notes, note.variable_ = id →
    note.Kept server.callbackStore ∧ ∀ other ∈ server.live,
      (server.handler.objects other.variable_).indices ≠ (server.handler.objects id).indices →
        other.handle ≠ note.handle
  | .addNotification client indexGroup indexOffset _ => ∀ id handle,
    server.handler.getVariableByIndices indexGroup indexOffset = .ok id →
      handle.toNat = (server.handler.objects id).nextNotification →
        (∀ note ∈ server.live, note.handle ≠ handle) ∧
          ∀ other, (other, handle) ∈ server.callbackStore.keys → other = client
  | .deleteNotification .. => True

/-! ## What one handle calls -/

section Calls
variable {callbackStore : OrderedDict (α × UInt32) κ}

theorem mem_callsFor : (client, h, callback) ∈ callsFor callbackStore handle ↔
    ∃ key, ((client, key), callback) ∈ callbackStore.entries ∧ key.toNat = handle ∧ h = handle := by
  simp only [callsFor, List.mem_filterMap]
  constructor
  · rintro ⟨⟨⟨other, key⟩, func⟩, member, found⟩
    split at found
    · rename_i same
      cases found
      exact ⟨key, member, same, rfl⟩
    · cases found
  · rintro ⟨key, member, same, rfl⟩
    exact ⟨_, member, if_pos same⟩

/-- No callback is stored under a handle that does not fit in four bytes. -/
theorem callsFor_large (large : ¬ handle < 2 ^ 32) : callsFor callbackStore handle = [] := by
  apply List.eq_nil_iff_forall_not_mem.mpr
  rintro ⟨client, h, callback⟩ member
  obtain ⟨key, _, same, _⟩ := mem_callsFor.mp member
  have bound := key.toNat_lt
  omega

theorem nodup_callsFor : (callsFor callbackStore handle).Nodup := by
  apply List.Nodup.filterMap
  · rintro ⟨⟨client, key⟩, func⟩ ⟨⟨client', key'⟩, func'⟩ call first second
    simp only [Option.mem_def, Option.ite_none_right_eq_some] at first second
    obtain ⟨same, told⟩ := first
    obtain ⟨same', again⟩ := second
    have sameKey : key' = key := UInt32.toNat_inj.mp (same'.trans same.symm)
    cases told
    cases again
    rw [sameKey]
  · exact List.Nodup.of_map _ callbackStore.nodup

private theorem eq_singleton {elements : List γ} (nodup : elements.Nodup) (member : a ∈ elements)
    (only : ∀ x ∈ elements, x = a) : elements = [a] := by
  cases elements with
  | nil => cases member
  | cons head tail =>
    have first := only head List.mem_cons_self
    cases tail with
    | nil => rw [first]
    | cons next rest =>
      have second := only next (by simp)
      rw [first, second] at nodup
      simp at nodup

/-- The only call for a registered handle is that of its callback, exactly if
no other one is stored under it. -/
theorem callsFor_eq_singleton_iff [DecidableEq α] (note : DeviceNote α κ) :
    callsFor callbackStore note.handle.toNat = [(note.client, note.handle.toNat, note.callback)] ↔
      note.Kept callbackStore := by
  constructor
  · intro only
    have call : (note.client, note.handle.toNat, note.callback) ∈ callsFor callbackStore note.handle.toNat := by
      rw [only]
      exact List.mem_singleton.mpr rfl
    obtain ⟨key, member, same, _⟩ := mem_callsFor.mp call
    have sameKey : key = note.handle := UInt32.toNat_inj.mp same
    subst sameKey
    refine ⟨OrderedDict.get?_of_mem member, ?_⟩
    intro other present
    obtain ⟨⟨_, func⟩, stored, rfl⟩ := List.mem_map.mp present
    have another := mem_callsFor.mpr ⟨_, stored, rfl, rfl⟩
    rw [only] at another
    cases List.mem_singleton.mp another
    rfl
  · rintro ⟨held, others⟩
    apply eq_singleton nodup_callsFor
    · exact mem_callsFor.mpr ⟨_, OrderedDict.mem_of_get? held, rfl, rfl⟩
    · rintro ⟨client, h, func⟩ call
      obtain ⟨key, stored, same, rfl⟩ := mem_callsFor.mp call
      have sameKey : key = note.handle := UInt32.toNat_inj.mp same
      subst sameKey
      have own := others client (List.mem_map.mpr ⟨_, stored, rfl⟩)
      subst own
      have again := OrderedDict.get?_of_mem stored
      rw [held] at again
      cases again
      rfl

end Calls

/-! ## What the handler knows of the registrations -/

namespace NotifyingHandler

/-- A variable knows the handles of its registrations, in the order in which it
gave them out. -/
structure Consistent (server : NotifyingHandler α κ) : Prop where
  keyed : ∀ key id, server.handler.data.get? key = some id → (server.handler.objects id).indices = key
  registered : ∀ id, (server.handler.objects id).notifications.filter (· < 2 ^ 32) =
    (server.notes.filter (·.variable_ = id)).map (·.handle.toNat)
  bounded : ∀ id, ∀ handle ∈ (server.handler.objects id).notifications,
    handle < (server.handler.objects id).nextNotification
  nodup : ∀ id, (server.handler.objects id).notifications.Nodup

/-- Live registrations with one handle are on one variable, and their callbacks
are stored. -/
structure Sound [DecidableEq α] (server : NotifyingHandler α κ) : Prop where
  apart : ∀ note ∈ server.live, ∀ other ∈ server.live, note.handle = other.handle → note.variable_ = other.variable_
  kept : ∀ note ∈ server.live, note.Kept server.callbackStore

theorem mem_live {server : NotifyingHandler α κ} {note : DeviceNote α κ} :
    note ∈ server.live ↔ note ∈ server.notes ∧ server.handler.Holds note.variable_ := by
  simp [live]

section Consistent
variable {server : NotifyingHandler α κ} (consistent : server.Consistent)
include consistent

theorem Consistent.handle_mem {note : DeviceNote α κ} (member : note ∈ server.notes) :
    note.handle.toNat ∈ (server.handler.objects note.variable_).notifications := by
  have registered : note.handle.toNat ∈ (server.notes.filter (·.variable_ = note.variable_)).map (·.handle.toNat) :=
    List.mem_map.mpr ⟨note, List.mem_filter.mpr ⟨member, by simp⟩, rfl⟩
  rw [← consistent.registered] at registered
  exact (List.mem_filter.mp registered).1

theorem Consistent.exists_note {id : Nat} (small : handle.toNat ∈ (server.handler.objects id).notifications) :
    ∃ note ∈ server.notes, note.variable_ = id ∧ note.handle = handle := by
  have registered : handle.toNat ∈ (server.handler.objects id).notifications.filter (· < 2 ^ 32) :=
    List.mem_filter.mpr ⟨small, by simpa using handle.toNat_lt⟩
  rw [consistent.registered, List.mem_map] at registered
  obtain ⟨note, member, same⟩ := registered
  obtain ⟨noted, on⟩ := List.mem_filter.mp member
  exact ⟨note, noted, by simpa using on, UInt32.toNat_inj.mp same⟩

/-- Two registrations on one variable are the same if their handles are. -/
theorem Consistent.eq_of_same {note other : DeviceNote α κ} (member : note ∈ server.notes)
    (also : other ∈ server.notes) (on : note.variable_ = other.variable_) (same : note.handle = other.handle) :
    note = other := by
  have distinct : ((server.notes.filter (·.variable_ = other.variable_)).map (·.handle.toNat)).Nodup := by
    rw [← consistent.registered]
    exact (consistent.nodup _).filter _
  refine List.inj_on_of_nodup_map distinct ?_ ?_ (by rw [same])
  · exact List.mem_filter.mpr ⟨member, by simpa using on⟩
  · exact List.mem_filter.mpr ⟨also, by simp⟩

end Consistent

/-! ## Live registrations are told apart -/

private theorem nodup_of_filter {f : γ → Nat} {elements : List γ}
    (each : ∀ id, (elements.filter (f · = id)).Nodup) : elements.Nodup := by
  induction elements with
  | nil => exact List.nodup_nil
  | cons head tail ih =>
    have own := each (f head)
    rw [List.filter_cons_of_pos (by simp), List.nodup_cons] at own
    refine List.nodup_cons.mpr ⟨fun again => own.1 (List.mem_filter.mpr ⟨again, by simp⟩), ih ?_⟩
    intro id
    exact (each id).sublist ((List.sublist_cons_self head tail).filter _)

/-- Where each element stands for a group with a tag of its own, groups that
are as many elements as there are tags consist of one element each. -/
private theorem groups_singleton {f : γ → List δ} {g : γ → δ} {tag : δ → Nat} {tagOf : γ → Nat} {elements : List γ}
    (grouped : ∀ x ∈ elements, ∀ y ∈ f x, tag y = tagOf x) (tagged : ∀ x, tag (g x) = tagOf x)
    (distinct : (elements.map tagOf).Nodup) (same : elements.flatMap f = elements.map g) :
    ∀ x ∈ elements, f x = [g x] := by
  induction elements with
  | nil => simp
  | cons head tail ih =>
    rw [List.map_cons, List.nodup_cons] at distinct
    rw [List.flatMap_cons, List.map_cons] at same
    have later (y : δ) (member : y ∈ tail.flatMap f) : tag y ≠ tagOf head := by
      obtain ⟨x, there, inside⟩ := List.mem_flatMap.mp member
      rw [grouped x (List.mem_cons_of_mem _ there) y inside]
      exact fun again => distinct.1 (List.mem_map.mpr ⟨x, there, again⟩)
    cases group : f head with
    | nil =>
      rw [group, List.nil_append] at same
      exact absurd (tagged head) (later (g head) (by rw [same]; simp))
    | cons first rest =>
      rw [group, List.cons_append, List.cons.injEq] at same
      obtain ⟨rfl, same⟩ := same
      cases rest with
      | cons second rest =>
        have inTail : second ∈ tail.map g := by
          rw [← same]
          simp
        obtain ⟨x, there, rfl⟩ := List.mem_map.mp inTail
        have tagHere := grouped head List.mem_cons_self (g x) (by simp [group])
        rw [tagged] at tagHere
        exact absurd (List.mem_map.mpr ⟨x, there, tagHere⟩) distinct.1
      | nil =>
        intro x member
        cases List.mem_cons.mp member with
        | inl here => rw [here, group]
        | inr there =>
          exact ih (fun x there => grouped x (List.mem_cons_of_mem _ there)) distinct.2 same x there

section Identify
variable [DecidableEq α] {server : NotifyingHandler α κ} (consistent : server.Consistent)
include consistent

omit [DecidableEq α] in
theorem Consistent.distinct_iff : (server.live.map (·.handle)).Nodup ↔
    ∀ note ∈ server.live, ∀ other ∈ server.live, note.handle = other.handle → note.variable_ = other.variable_ := by
  constructor
  · intro distinct note member other also same
    rw [List.inj_on_of_nodup_map distinct member also same]
  · intro apart
    have notesNodup : server.notes.Nodup := by
      apply nodup_of_filter
      intro id
      refine List.Nodup.of_map (·.handle.toNat) ?_
      rw [← consistent.registered]
      exact (consistent.nodup id).filter _
    apply (List.nodup_map_iff_inj_on (notesNodup.filter _)).mpr
    intro note member other also same
    exact consistent.eq_of_same (mem_live.mp member).1 (mem_live.mp also).1 (apart note member other also same) same

omit [DecidableEq α] in
/-- The first variable that has a live handle is the one of its registration. -/
theorem Consistent.getVariable (note : DeviceNote α κ) (member : note ∈ server.live)
    (apart : ∀ other ∈ server.live, note.handle = other.handle → note.variable_ = other.variable_) :
    server.handler.getVariableByNotificationHandle note.handle.toNat = .ok note.variable_ := by
  obtain ⟨noted, held⟩ := mem_live.mp member
  have known := consistent.handle_mem noted
  apply AdvancedHandler.firstWith_of_unique consistent.keyed held
  · simpa using known
  · intro id otherHeld has
    obtain ⟨other, otherNoted, on, same⟩ := consistent.exists_note (of_decide_eq_true has)
    have sameVariable := apart other (mem_live.mpr ⟨otherNoted, on ▸ otherHeld⟩) same.symm
    rw [sameVariable, on]

omit [DecidableEq α] consistent in
/-- The registrations of a variable that the handler holds are all live. -/
theorem live_on {id : Nat} (held : server.handler.Holds id) :
    server.live.filter (·.variable_ = id) = server.notes.filter (·.variable_ = id) := by
  rw [live, List.filter_filter]
  apply List.filter_congr
  intro note _
  by_cases on : note.variable_ = id
  · simp [on, held]
  · simp [on]

omit [DecidableEq α] in
/-- The calls of a write are those for the handles of the registrations. -/
theorem Consistent.calls {id : Nat} (callbackStore : OrderedDict (α × UInt32) κ) :
    (server.handler.objects id).notifications.flatMap (callsFor callbackStore) =
      (server.notes.filter (·.variable_ = id)).flatMap fun note => callsFor callbackStore note.handle.toNat := by
  have skipped (handles : List Nat) : handles.flatMap (callsFor callbackStore) =
      (handles.filter (· < 2 ^ 32)).flatMap (callsFor callbackStore) := by
    induction handles with
    | nil => rfl
    | cons handle handles ih =>
      rw [List.flatMap_cons, ih]
      by_cases small : handle < 2 ^ 32
      · rw [List.filter_cons_of_pos (by simpa using small), List.flatMap_cons]
      · rw [List.filter_cons_of_neg (by simpa using small), callsFor_large small, List.nil_append]
  rw [skipped, consistent.registered, List.flatMap_map]

theorem Consistent.called_iff {id : Nat} (callbackStore : OrderedDict (α × UInt32) κ) :
    (server.handler.objects id).notifications.flatMap (callsFor callbackStore) =
        ((server.notes.filter (·.variable_ = id)).map fun note => (note.client, note.handle.toNat, note.callback)) ↔
      ∀ note ∈ server.notes, note.variable_ = id → note.Kept callbackStore := by
  rw [consistent.calls]
  constructor
  · intro same note member on
    apply (callsFor_eq_singleton_iff note).mp
    have tagged (note : DeviceNote α κ) (call : α × Nat × κ)
        (called : call ∈ callsFor callbackStore note.handle.toNat) : call.2.1 = note.handle.toNat := by
      obtain ⟨_, _, _, same⟩ := mem_callsFor.mp called
      exact same
    have distinct : ((server.notes.filter (·.variable_ = id)).map (·.handle.toNat)).Nodup := by
      rw [← consistent.registered]
      exact (consistent.nodup id).filter _
    exact groups_singleton (fun note _ => tagged note) (fun _ => rfl) distinct same note
      (List.mem_filter.mpr ⟨member, by simpa using on⟩)
  · intro kept
    rw [List.map_eq_flatMap]
    apply List.flatMap_congr
    intro note member
    obtain ⟨noted, on⟩ := List.mem_filter.mp member
    exact (callsFor_eq_singleton_iff note).mpr (kept note noted (by simpa using on))

/-- The handles tell the live registrations apart exactly if no two variables
share one and all callbacks are stored. -/
theorem Consistent.identifies_iff : server.Identifies ↔ server.Sound := by
  constructor
  · intro identifies
    refine ⟨(consistent.distinct_iff).mp identifies.distinct, ?_⟩
    intro note member
    obtain ⟨noted, held⟩ := mem_live.mp member
    have called := identifies.called note.variable_ held ((server.handler.objects note.variable_).value ++ [0])
      (by simp)
    rw [PLCVariable.write, if_pos (by simp), live_on held] at called
    exact (consistent.called_iff server.callbackStore).mp called note noted rfl
  · intro sound
    refine ⟨(consistent.distinct_iff).mpr sound.apart, ?_, ?_⟩
    · intro note member
      simp only [AdvancedHandler.handleDeleteDevicenote, consistent.getVariable note member (sound.apart note member)]
    · intro id held value changed
      rw [PLCVariable.write, if_pos changed, live_on held]
      apply (consistent.called_iff server.callbackStore).mpr
      intro note noted on
      exact sound.kept note (mem_live.mpr ⟨noted, by rw [on]; exact held⟩)

end Identify

/-! ## One request -/

/-- A variable that changes in place is held as before. -/
theorem holds_setObject {handler : AdvancedHandler} {id : Nat} {var : PLCVariable}
    (indices : var.indices = (handler.objects id).indices) (other : Nat) :
    (handler.setObject id var).Holds other ↔ handler.Holds other := by
  unfold AdvancedHandler.Holds AdvancedHandler.setObject
  by_cases same : other = id
  · subst same
    simp [indices]
  · simp [Function.update_of_ne same]

theorem filter_holds_setObject {handler : AdvancedHandler} {id : Nat} {var : PLCVariable}
    (indices : var.indices = (handler.objects id).indices) (notes : List (DeviceNote α κ)) :
    (notes.filter fun note => (handler.setObject id var).Holds note.variable_) =
      notes.filter fun note => handler.Holds note.variable_ :=
  List.filter_congr fun note _ => decide_eq_decide.mpr (holds_setObject indices note.variable_)

section Add
variable [DecidableEq α] {server : NotifyingHandler α κ} {indexGroup indexOffset : UInt32} {id : Nat}
  (found : server.handler.getVariableByIndices indexGroup indexOffset = .ok id)
include found

theorem addNotification_small (small : handle.toNat = (server.handler.objects id).nextNotification)
    (client : α) (callback : κ) : server.addNotification client indexGroup indexOffset callback =
      ⟨server.handler.setObject id (server.handler.objects id).registerNotification.2,
        server.callbackStore.set (client, handle) callback, server.notes ++ [⟨id, handle, client, callback⟩]⟩ := by
  have bound := handle.toNat_lt
  unfold addNotification AdvancedHandler.handleAddDevicenote PLCVariable.registerNotification
  simp only [found, ← small, bound, ↓reduceIte, UInt32.ofNat_toNat]

theorem addNotification_large (large : ¬ (server.handler.objects id).nextNotification < 2 ^ 32)
    (client : α) (callback : κ) : server.addNotification client indexGroup indexOffset callback =
      { server with handler := server.handler.setObject id (server.handler.objects id).registerNotification.2 } := by
  unfold addNotification AdvancedHandler.handleAddDevicenote PLCVariable.registerNotification
  simp only [found, large, ↓reduceIte]

omit [DecidableEq α] in
theorem Consistent.held (consistent : server.Consistent) : server.handler.Holds id := by
  unfold AdvancedHandler.getVariableByIndices at found
  cases there : server.handler.data.get? (indexGroup, indexOffset) with
  | none =>
    rw [there] at found
    cases found
  | some other =>
    rw [there] at found
    cases found
    exact AdvancedHandler.holds_of_get? consistent.keyed there

omit found [DecidableEq α] in
/-- Registering adds the next handle behind those that were given out. -/
theorem Consistent.register (consistent : server.Consistent) {later : NotifyingHandler α κ}
    (handler : later.handler = server.handler.setObject id (server.handler.objects id).registerNotification.2)
    (noted : ∀ other, (later.notes.filter (·.variable_ = other)).map (·.handle.toNat) =
      (server.notes.filter (·.variable_ = other)).map (·.handle.toNat) ++
        [(server.handler.objects id).nextNotification].filter fun handle => other = id ∧ handle < 2 ^ 32) :
    later.Consistent := by
  have others (other : Nat) (differ : other ≠ id) : later.handler.objects other = server.handler.objects other := by
    rw [handler]
    exact Function.update_of_ne differ ..
  have own : later.handler.objects id = (server.handler.objects id).registerNotification.2 := by
    rw [handler]
    exact Function.update_self ..
  constructor
  · intro key other there
    rw [handler] at there
    have before := consistent.keyed key other there
    by_cases same : other = id
    · rw [same, own]
      rw [same] at before
      exact before
    · rw [others other same, before]
  · intro other
    rw [noted, ← consistent.registered]
    by_cases same : other = id
    · rw [same, own]
      simp [PLCVariable.registerNotification, List.filter_append]
    · simp [others other same, same]
  · intro other handle given
    by_cases same : other = id
    · rw [same, own] at given ⊢
      cases List.mem_append.mp given with
      | inl before =>
        have bound := consistent.bounded id handle before
        exact Nat.lt_succ_of_lt bound
      | inr now =>
        rw [List.mem_singleton.mp now]
        exact Nat.lt_succ_self _
    · rw [others other same] at given ⊢
      exact consistent.bounded other handle given
  · intro other
    by_cases same : other = id
    · rw [same, own]
      refine List.nodup_append.mpr ⟨consistent.nodup id, List.nodup_singleton _, ?_⟩
      intro handle before next now again
      have bound := consistent.bounded id handle before
      rw [again, List.mem_singleton.mp now] at bound
      exact Nat.lt_irrefl _ bound
    · rw [others other same]
      exact consistent.nodup other

theorem Consistent.addNotification (consistent : server.Consistent) (client : α) (callback : κ) :
    (server.addNotification client indexGroup indexOffset callback).Consistent := by
  by_cases small : (server.handler.objects id).nextNotification < 2 ^ 32
  · obtain ⟨handle, same⟩ : ∃ handle : UInt32, handle.toNat = (server.handler.objects id).nextNotification :=
      ⟨_, UInt32.toNat_ofNat_of_lt' small⟩
    have bound := handle.toNat_lt
    rw [addNotification_small found same]
    apply consistent.register rfl
    intro other
    by_cases own : other = id
    · subst own
      simp [List.filter_append, ← same, bound]
    · simp [List.filter_append, own, Ne.symm own]
  · rw [addNotification_large found small]
    apply consistent.register rfl
    intro other
    simp only [small, and_false, decide_false, List.filter_singleton, cond_false, List.append_nil]

theorem live_addNotification_small (consistent : server.Consistent)
    (small : handle.toNat = (server.handler.objects id).nextNotification) (client : α) (callback : κ) :
    (server.addNotification client indexGroup indexOffset callback).live =
      server.live ++ [⟨id, handle, client, callback⟩] := by
  rw [addNotification_small found small]
  have held := consistent.held found
  have indices : (server.handler.objects id).registerNotification.2.indices = (server.handler.objects id).indices := rfl
  refine (filter_holds_setObject indices _).trans ?_
  rw [List.filter_append]
  simp [live, held]

theorem addNotification_sound_iff (consistent : server.Consistent) (sound : server.Sound) (client : α) (callback : κ) :
    (server.addNotification client indexGroup indexOffset callback).Sound ↔
      ∀ handle, handle.toNat = (server.handler.objects id).nextNotification →
        (∀ note ∈ server.live, note.handle ≠ handle) ∧
          ∀ other, (other, handle) ∈ server.callbackStore.keys → other = client := by
  by_cases small : (server.handler.objects id).nextNotification < 2 ^ 32
  · obtain ⟨handle, same⟩ : ∃ handle : UInt32, handle.toNat = (server.handler.objects id).nextNotification :=
      ⟨_, UInt32.toNat_ofNat_of_lt' small⟩
    have live := live_addNotification_small found consistent same client callback
    have store : (server.addNotification client indexGroup indexOffset callback).callbackStore =
        server.callbackStore.set (client, handle) callback := by
      rw [addNotification_small found same]
    have only (other : UInt32) : other.toNat = (server.handler.objects id).nextNotification ↔ other = handle := by
      rw [← same, UInt32.toNat_inj]
    simp only [only, forall_eq]
    constructor
    · rintro ⟨apart, kept⟩
      rw [live] at apart kept
      rw [store] at kept
      refine ⟨?_, ?_⟩
      · intro note member again
        have on := apart ⟨id, handle, client, callback⟩ (by simp) note (by simp [member]) again.symm
        have bound := consistent.bounded id note.handle.toNat
          (by rw [show id = note.variable_ from on]; exact consistent.handle_mem (mem_live.mp member).1)
        rw [again, same] at bound
        exact Nat.lt_irrefl _ bound
      · intro other present
        exact (kept ⟨id, handle, client, callback⟩ (by simp)).2 other
          (by rw [OrderedDict.keys_set, OrderedDict.mem_addKey]; exact .inl present)
    · rintro ⟨unused, alone⟩
      constructor
      · rw [live]
        intro note member other also equal
        cases List.mem_append.mp member with
        | inl before =>
          cases List.mem_append.mp also with
          | inl too => exact sound.apart note before other too equal
          | inr new =>
            cases List.mem_singleton.mp new
            exact absurd equal (unused note before)
        | inr new =>
          cases List.mem_singleton.mp new
          cases List.mem_append.mp also with
          | inl too => exact absurd equal.symm (unused other too)
          | inr again =>
            cases List.mem_singleton.mp again
            rfl
      · rw [live, store]
        intro note member
        cases List.mem_append.mp member with
        | inl before =>
          obtain ⟨held, others⟩ := sound.kept note before
          have differ : (client, handle) ≠ (note.client, note.handle) := by
            intro equal
            exact unused note before (Prod.mk.inj equal).2.symm
          refine ⟨by rw [OrderedDict.get?_set, if_neg differ, held], ?_⟩
          intro other present
          rw [OrderedDict.keys_set, OrderedDict.mem_addKey] at present
          cases present with
          | inl before => exact others other before
          | inr new => exact absurd (Prod.mk.inj new).2 (unused note before)
        | inr new =>
          cases List.mem_singleton.mp new
          refine ⟨by rw [OrderedDict.get?_set, if_pos rfl], ?_⟩
          intro other present
          rw [OrderedDict.keys_set, OrderedDict.mem_addKey] at present
          cases present with
          | inl before => exact alone other before
          | inr own => exact (Prod.mk.inj own).1
  · rw [addNotification_large found small]
    refine iff_of_true ?_ ?_
    · have indices : (server.handler.objects id).registerNotification.2.indices =
        (server.handler.objects id).indices := rfl
      have same : live { server with
          handler := server.handler.setObject id (server.handler.objects id).registerNotification.2 } = server.live :=
        filter_holds_setObject indices server.notes
      constructor
      · rw [same]
        exact sound.apart
      · rw [same]
        exact sound.kept
    · intro handle same
      have bound := handle.toNat_lt
      omega

end Add

section Delete
variable [DecidableEq α] {server : NotifyingHandler α κ} {handle : UInt32}

omit [DecidableEq α] in
/-- A variable that is found by a handle is held, and has given it out. -/
theorem Consistent.of_found (consistent : server.Consistent) {id : Nat}
    (found : server.handler.getVariableByNotificationHandle handle.toNat = .ok id) :
    server.handler.Holds id ∧ handle.toNat ∈ (server.handler.objects id).notifications := by
  obtain ⟨held, has⟩ := AdvancedHandler.of_firstWith consistent.keyed found
  exact ⟨held, of_decide_eq_true has⟩

/-- Callbacks under other handles are kept when one is dropped. -/
theorem kept_erase {callbackStore : OrderedDict (α × UInt32) κ} {note : DeviceNote α κ}
    (kept : note.Kept callbackStore) (differ : note.handle ≠ handle) (client : α) :
    note.Kept (callbackStore.erase (client, handle)) := by
  have other : (client, handle) ≠ (note.client, note.handle) := fun same => differ (Prod.mk.inj same).2.symm
  refine ⟨by rw [OrderedDict.get?_erase, if_neg other, kept.1], ?_⟩
  intro owner present
  exact kept.2 owner ((List.filter_sublist.map Prod.fst).subset present)

theorem deleteNotification_sound (consistent : server.Consistent) (sound : server.Sound) (client : α) :
    (server.deleteNotification client handle).Sound := by
  unfold deleteNotification AdvancedHandler.handleDeleteDevicenote
  cases found : server.handler.getVariableByNotificationHandle handle.toNat with
  | error e =>
    refine ⟨sound.apart, ?_⟩
    intro note member
    refine kept_erase (sound.kept note member) ?_ client
    intro same
    have known := consistent.getVariable note member (sound.apart note member)
    rw [same, found] at known
    cases known
  | ok id =>
    have indices : ((server.handler.objects id).unregisterNotification handle.toNat).indices =
        (server.handler.objects id).indices := rfl
    have remaining (note : DeviceNote α κ) : note ∈ live
        ⟨server.handler.setObject id ((server.handler.objects id).unregisterNotification handle.toNat),
          server.callbackStore.erase (client, handle),
          server.notes.filter fun note => ¬ (note.handle = handle ∧ server.handler.Holds note.variable_)⟩ ↔
        note ∈ server.live ∧ note.handle ≠ handle := by
      rw [mem_live, mem_live, holds_setObject indices, List.mem_filter]
      simp only [decide_eq_true_eq]
      tauto
    constructor
    · intro note member other also same
      exact sound.apart note ((remaining note).mp member).1 other ((remaining other).mp also).1 same
    · intro note member
      obtain ⟨before, differ⟩ := (remaining note).mp member
      exact kept_erase (sound.kept note before) differ client

theorem Consistent.deleteNotification (consistent : server.Consistent) (sound : server.Sound) (client : α) :
    (server.deleteNotification client handle).Consistent := by
  unfold NotifyingHandler.deleteNotification AdvancedHandler.handleDeleteDevicenote
  cases found : server.handler.getVariableByNotificationHandle handle.toNat with
  | error e => exact ⟨consistent.keyed, consistent.registered, consistent.bounded, consistent.nodup⟩
  | ok id =>
    obtain ⟨held, given⟩ := consistent.of_found found
    have own : (server.handler.setObject id ((server.handler.objects id).unregisterNotification handle.toNat)).objects id =
        (server.handler.objects id).unregisterNotification handle.toNat := Function.update_self ..
    have others (other : Nat) (differ : other ≠ id) :
        (server.handler.setObject id ((server.handler.objects id).unregisterNotification handle.toNat)).objects other =
          server.handler.objects other := Function.update_of_ne differ ..
    have erased : (server.handler.objects id).notifications.erase handle.toNat =
        (server.handler.objects id).notifications.filter (· != handle.toNat) :=
      (consistent.nodup id).erase_eq_filter handle.toNat
    constructor
    · intro key other there
      have before := consistent.keyed key other there
      by_cases same : other = id
      · subst same
        dsimp only
        rw [own]
        exact before
      · dsimp only
        rw [others other same, before]
    · intro other
      dsimp only
      rw [List.filter_filter]
      by_cases same : other = id
      · subst same
        rw [own, PLCVariable.unregisterNotification, erased, List.filter_comm, consistent.registered, List.filter_map,
          List.filter_filter]
        congr 1
        apply List.filter_congr
        intro note noted
        by_cases on : note.variable_ = other
        · have equal : (note.handle.toNat == handle.toNat) = decide (note.handle = handle) := by
            rw [Bool.eq_iff_iff, beq_iff_eq, decide_eq_true_eq, UInt32.toNat_inj]
          simp [on, held, bne, equal]
        · simp [on]
      · rw [others other same, consistent.registered]
        congr 1
        apply List.filter_congr
        intro note noted
        by_cases on : note.variable_ = other
        · have kept : ¬ (note.handle = handle ∧ server.handler.Holds note.variable_) := by
            rintro ⟨equal, holds⟩
            obtain ⟨owner, ownerNoted, ownerOn, ownerHandle⟩ := consistent.exists_note given
            have together := sound.apart note (mem_live.mpr ⟨noted, holds⟩) owner
              (mem_live.mpr ⟨ownerNoted, by rw [ownerOn]; exact held⟩) (equal.trans ownerHandle.symm)
            exact same (on.symm.trans (together.trans ownerOn))
          subst on
          simp only [kept, not_false_eq_true, decide_true, Bool.and_self]
        · simp [on]
    · intro other later known
      dsimp only at known ⊢
      by_cases same : other = id
      · subst same
        rw [own] at known ⊢
        exact consistent.bounded other later (List.mem_of_mem_erase known)
      · rw [others other same] at known ⊢
        exact consistent.bounded other later known
    · intro other
      dsimp only
      by_cases same : other = id
      · subst same
        rw [own]
        exact (consistent.nodup other).erase _
      · rw [others other same]
        exact consistent.nodup other

end Delete

section AddVariable
variable [DecidableEq α] {server : NotifyingHandler α κ}

omit [DecidableEq α] in
/-- A variable that is added takes the place of the one at its indices. -/
theorem holds_addVariable (id other : Nat) :
    (server.handler.addVariable id).Holds other ↔ other = id ∨
      server.handler.Holds other ∧ (server.handler.objects other).indices ≠ (server.handler.objects id).indices := by
  unfold AdvancedHandler.Holds AdvancedHandler.addVariable
  rw [OrderedDict.get?_set]
  dsimp only
  by_cases same : (server.handler.objects id).indices = (server.handler.objects other).indices
  · rw [if_pos same]
    simp [same, eq_comm]
  · rw [if_neg same]
    simp only [ne_eq, Ne.symm same, not_false_eq_true, and_true, iff_or_self]
    rintro rfl
    exact absurd rfl same

omit [DecidableEq α] in
theorem Consistent.addVariable (consistent : server.Consistent) (id : Nat) :
    Consistent { server with handler := server.handler.addVariable id } := by
  refine ⟨?_, consistent.registered, consistent.bounded, consistent.nodup⟩
  intro key other there
  change (server.handler.data.set (server.handler.objects id).indices id).get? key = some other at there
  rw [OrderedDict.get?_set] at there
  split at there
  · rename_i same
    cases there
    exact same
  · exact consistent.keyed key other there

theorem addVariable_sound_iff (sound : server.Sound) (id : Nat) :
    Sound { server with handler := server.handler.addVariable id } ↔
      NoteRequest.KeepsApart server (.addVariable id) := by
  have remaining (note : DeviceNote α κ) : note ∈ live { server with handler := server.handler.addVariable id } ↔
      note ∈ server.notes ∧ (note.variable_ = id ∨ server.handler.Holds note.variable_ ∧
        (server.handler.objects note.variable_).indices ≠ (server.handler.objects id).indices) := by
    rw [mem_live]
    dsimp only
    rw [holds_addVariable]
  constructor
  · rintro ⟨apart, kept⟩ _ note noted on
    have returned := (remaining note).mpr ⟨noted, .inl on⟩
    refine ⟨kept note returned, ?_⟩
    intro other also elsewhere same
    obtain ⟨otherNoted, held⟩ := mem_live.mp also
    have together := apart other ((remaining other).mpr ⟨otherNoted, .inr ⟨held, elsewhere⟩⟩) note returned same
    rw [together, on] at elsewhere
    exact elsewhere rfl
  · intro keeps
    by_cases held : server.handler.Holds id
    · have before {note : DeviceNote α κ} (member : note ∈ live { server with handler := server.handler.addVariable id }) :
          note ∈ server.live := by
        obtain ⟨noted, on | there⟩ := (remaining note).mp member
        · exact mem_live.mpr ⟨noted, by rw [on]; exact held⟩
        · exact mem_live.mpr ⟨noted, there.1⟩
      constructor
      · intro note member other also
        exact sound.apart note (before member) other (before also)
      · intro note member
        exact sound.kept note (before member)
    · have returns := keeps held
      constructor
      · intro note member other also same
        obtain ⟨noted, on | there⟩ := (remaining note).mp member
        · obtain ⟨otherNoted, otherOn | elsewhere⟩ := (remaining other).mp also
          · exact on.trans otherOn.symm
          · exact absurd same.symm
              ((returns note noted on).2 other (mem_live.mpr ⟨otherNoted, elsewhere.1⟩) elsewhere.2)
        · obtain ⟨otherNoted, otherOn | elsewhere⟩ := (remaining other).mp also
          · exact absurd same ((returns other otherNoted otherOn).2 note (mem_live.mpr ⟨noted, there.1⟩) there.2)
          · exact sound.apart note (mem_live.mpr ⟨noted, there.1⟩) other (mem_live.mpr ⟨otherNoted, elsewhere.1⟩) same
      · intro note member
        obtain ⟨noted, on | there⟩ := (remaining note).mp member
        · exact (returns note noted on).1
        · exact sound.kept note (mem_live.mpr ⟨noted, there.1⟩)

end AddVariable

end NotifyingHandler

section Requests
variable [DecidableEq α] {server : NotifyingHandler α κ} (consistent : server.Consistent) (sound : server.Sound)
include consistent sound

theorem NoteRequest.after_consistent (request : NoteRequest α κ) : (request.after server).Consistent := by
  cases request with
  | addVariable id => exact consistent.addVariable id
  | addNotification client indexGroup indexOffset callback =>
    cases found : server.handler.getVariableByIndices indexGroup indexOffset with
    | error e =>
      simp only [NoteRequest.after, NotifyingHandler.addNotification, AdvancedHandler.handleAddDevicenote, found]
      exact consistent
    | ok id => exact consistent.addNotification found client callback
  | deleteNotification client handle => exact consistent.deleteNotification sound client

theorem NoteRequest.after_sound_iff (request : NoteRequest α κ) :
    (request.after server).Sound ↔ request.KeepsApart server := by
  cases request with
  | addVariable id => exact NotifyingHandler.addVariable_sound_iff sound id
  | addNotification client indexGroup indexOffset callback =>
    cases found : server.handler.getVariableByIndices indexGroup indexOffset with
    | error e =>
      simp only [NoteRequest.after, NotifyingHandler.addNotification, AdvancedHandler.handleAddDevicenote, found,
        NoteRequest.KeepsApart]
      exact iff_of_true sound (by simp)
    | ok id =>
      refine (NotifyingHandler.addNotification_sound_iff found consistent sound client callback).trans ?_
      constructor
      · intro each other handle there
        rw [found] at there
        cases there
        exact each handle
      · intro each handle
        exact each id handle found
  | deleteNotification client handle =>
    exact iff_of_true (NotifyingHandler.deleteNotification_sound consistent sound client) trivial

end Requests

/-- Over a run of requests, the handles always identify the live registrations
exactly if none is given out, and no variable returns, while a handle of it is
in use elsewhere. -/
theorem notifications_identified_iff [DecidableEq α] {server : NotifyingHandler α κ}
    (consistent : server.Consistent) (identifies : server.Identifies) (requests : List (NoteRequest α κ)) :
    Throughout NoteRequest.after NotifyingHandler.Identifies server requests ↔
      Along NoteRequest.after NoteRequest.KeepsApart server requests := by
  rw [throughout_iff, and_iff_right identifies]
  have same (server : NotifyingHandler α κ) (request : NoteRequest α κ) (held : server.Consistent ∧ server.Sound)
      (_ : True) : (request.after server).Identifies ↔ request.KeepsApart server :=
    ((request.after_consistent held.1 held.2).identifies_iff).trans (request.after_sound_iff held.1 held.2)
  have kept (server : NotifyingHandler α κ) (request : NoteRequest α κ) (held : server.Consistent ∧ server.Sound)
      (_ : True) (apart : request.KeepsApart server) : (request.after server).Consistent ∧ (request.after server).Sound :=
    ⟨request.after_consistent held.1 held.2, (request.after_sound_iff held.1 held.2).mpr apart⟩
  exact along_iff same kept ⟨consistent, consistent.identifies_iff.mp identifies⟩ along_true

namespace NotifyingHandler

/-- The handler before the first request. -/
def fresh (α κ : Type) (objects : Nat → PLCVariable) : NotifyingHandler α κ :=
  ⟨⟨objects, OrderedDict.empty⟩, OrderedDict.empty, []⟩

variable {objects : Nat → PLCVariable} (unregistered : ∀ id, (objects id).notifications = [])
include unregistered

theorem fresh_consistent : (fresh α κ objects).Consistent := by
  refine ⟨?_, ?_, ?_, ?_⟩
  · intro key id there
    cases there
  · intro id
    simp [fresh, unregistered id]
  · intro id handle given
    simp [fresh, unregistered id] at given
  · intro id
    simp [fresh, unregistered id]

theorem fresh_identifies [DecidableEq α] : (fresh α κ objects).Identifies := by
  refine (fresh_consistent unregistered).identifies_iff.mpr ⟨?_, ?_⟩
  · intro note member
    cases (mem_live.mp member).1
  · intro note member
    cases (mem_live.mp member).1

end NotifyingHandler

/-- Variables of one byte, one behind the other. -/
def byteVariable (id : Nat) : PLCVariable :=
  ⟨"level", [0], 17, "USINT", 10000 + id, 12345, UInt32.ofNat id, "", [], none⟩

theorem byteVariable_unregistered (id : Nat) : (byteVariable id).notifications = [] := rfl

/-- Two registrations on one variable, the first of which is deleted again. -/
theorem one_variable_identified : Throughout NoteRequest.after NotifyingHandler.Identifies
    (NotifyingHandler.fresh Unit String byteVariable)
    [.addVariable 0, .addNotification () 12345 0 "first", .addNotification () 12345 0 "second",
     .deleteNotification () 10] := by
  apply (notifications_identified_iff (NotifyingHandler.fresh_consistent byteVariable_unregistered)
    (NotifyingHandler.fresh_identifies byteVariable_unregistered) _).mpr
  refine ⟨?_, ?_, ?_, trivial, trivial⟩
  · intro _ note noted
    cases noted
  · intro id handle found next
    refine ⟨?_, fun _ _ => rfl⟩
    intro note member
    cases member
  · intro id handle found next
    refine ⟨?_, fun _ _ => rfl⟩
    cases found
    intro note member
    have only : note ∈ [(⟨0, 10, (), "first"⟩ : DeviceNote Unit String)] := member
    rw [List.mem_singleton.mp only]
    rintro rfl
    cases next

/-- The first notifications of two variables have the same handle. -/
theorem two_variables_share_handle : ¬ Throughout NoteRequest.after NotifyingHandler.Identifies
    (NotifyingHandler.fresh Unit String byteVariable)
    [.addVariable 0, .addVariable 1, .addNotification () 12345 0 "first", .addNotification () 12345 1 "second"] := by
  intro all
  have last := (all _ (foldl_mem_states ..)).distinct
  have both : ([10, 10] : List UInt32).Nodup := last
  simp at both

end PyAds
