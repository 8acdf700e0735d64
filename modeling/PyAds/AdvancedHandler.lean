import PyAds.Base.OrderedDict
import PyAds.Values

/-! The advanced handler of the test server: variables under pairs of indices,
which requests find by their indices, handle, name or notification handle. -/
namespace PyAds

/-- `PLCVariable`; the count of notifications is an attribute of the object
once it has been written, and is read from the class before that. -/
structure PLCVariable where
  name : String
  value : Bytes
  adsType : UInt32
  symbolType : String
  handle : Nat
  indexGroup : UInt32
  indexOffset : UInt32
  comment : String
  notifications : List Nat
  notificationCount : Option Nat

namespace PLCVariable

/-- `PLCVariable.notification_count` -/
def classNotificationCount : Nat := 10

def indices (var : PLCVariable) : UInt32 × UInt32 := (var.indexGroup, var.indexOffset)

/-- The handle that the next notification is given. -/
def nextNotification (var : PLCVariable) : Nat := var.notificationCount.getD classNotificationCount

/-- `register_notification` -/
def registerNotification (var : PLCVariable) : Nat × PLCVariable :=
  (var.nextNotification,
    { var with
      notifications := var.notifications ++ [var.nextNotification]
      notificationCount := some (var.nextNotification + 1) })

/-- `unregister_notification` of one handle; `remove` deletes its first occurrence. -/
def unregisterNotification (handle : Nat) (var : PLCVariable) : PLCVariable :=
  { var with notifications := var.notifications.erase handle }

end PLCVariable

/-- The variables by their identity, and `_data`, which holds some of them. -/
structure AdvancedHandler where
  objects : Nat → PLCVariable
  data : OrderedDict (UInt32 × UInt32) Nat

namespace AdvancedHandler

/-- The first variable of `_data` with a property. -/
def firstWith (handler : AdvancedHandler) (p : PLCVariable → Bool) (message : String) : Result Nat :=
  match handler.data.entries.find? fun entry => p (handler.objects entry.2) with
  | some entry => .ok entry.2
  | none => .error (.keyError message)

/-- `get_variable_by_handle` -/
def getVariableByHandle (handler : AdvancedHandler) (handle : Nat) : Result Nat :=
  handler.firstWith (·.handle = handle)
    s!"Variable with handle `{handle}` not found - Create it first explicitly or write to it"

/-- `get_variable_by_indices` -/
def getVariableByIndices (handler : AdvancedHandler) (indexGroup indexOffset : UInt32) : Result Nat :=
  match handler.data.get? (indexGroup, indexOffset) with
  | some id => .ok id
  | none => .error (.keyError
      s!"Variable with indices ({indexGroup}, {indexOffset}) not found - Create it first explicitly or write to it")

/-- `str.strip("\x00")` -/
def stripNul (name : String) : String :=
  String.ofList (((name.toList.dropWhile (· == '\x00')).reverse.dropWhile (· == '\x00')).reverse)

/-- `get_variable_by_name` -/
def getVariableByName (handler : AdvancedHandler) (name : String) : Result Nat :=
  handler.firstWith (·.name = stripNul name)
    s!"Variable with name `{stripNul name}` not found - Create it first explicitly or write to it"

/-- `get_variable_by_notification_handle` -/
def getVariableByNotificationHandle (handler : AdvancedHandler) (handle : Nat) : Result Nat :=
  handler.firstWith (handle ∈ ·.notifications) s!"Notification handle `{handle}` could not be resolved"

/-- `add_variable`; a variable with the same indices is replaced. -/
def addVariable (id : Nat) (handler : AdvancedHandler) : AdvancedHandler :=
  { handler with data := handler.data.set (handler.objects id).indices id }

/-- One of the variables has changed. -/
def setObject (id : Nat) (var : PLCVariable) (handler : AdvancedHandler) : AdvancedHandler :=
  { handler with objects := Function.update handler.objects id var }

/-- `handle_add_devicenote`; the handle is registered before it is packed in four bytes. -/
def handleAddDevicenote (indexGroup indexOffset : UInt32) (handler : AdvancedHandler) :
    Result UInt32 × AdvancedHandler :=
  match handler.getVariableByIndices indexGroup indexOffset with
  | .error e => (.error e, handler)
  | .ok id =>
    let (handle, var) := (handler.objects id).registerNotification
    (if handle < 2 ^ 32 then .ok (UInt32.ofNat handle) else .error .overflowError, handler.setObject id var)

/-- `handle_delete_devicenote` -/
def handleDeleteDevicenote (handle : UInt32) (handler : AdvancedHandler) : Result Unit × AdvancedHandler :=
  match handler.getVariableByNotificationHandle handle.toNat with
  | .error e => (.error e, handler)
  | .ok id => (.ok (), handler.setObject id ((handler.objects id).unregisterNotification handle.toNat))

/-- The variable is in `_data` under its own indices. -/
def Holds (handler : AdvancedHandler) (id : Nat) : Prop :=
  handler.data.get? (handler.objects id).indices = some id

instance (handler : AdvancedHandler) (id : Nat) : Decidable (handler.Holds id) :=
  inferInstanceAs (Decidable (_ = _))

/-! ## Lookups

The handler keeps each variable under its own indices. -/

section Lookups
variable {handler : AdvancedHandler} {id : Nat}
  (keyed : ∀ key id, handler.data.get? key = some id → (handler.objects id).indices = key)
include keyed

theorem holds_of_get? (found : handler.data.get? key = some id) : handler.Holds id := by
  rw [Holds, keyed key id found, found]

/-- A variable that is found is held, and has the property. -/
theorem of_firstWith {p : PLCVariable → Bool} (found : handler.firstWith p message = .ok id) :
    handler.Holds id ∧ p (handler.objects id) = true := by
  unfold firstWith at found
  cases first : handler.data.entries.find? fun entry => p (handler.objects entry.2) with
  | none =>
    rw [first] at found
    cases found
  | some entry =>
    rw [first] at found
    cases found
    have there := OrderedDict.get?_of_mem (List.mem_of_find?_eq_some first)
    have own := List.find?_some first
    exact ⟨holds_of_get? keyed there, own⟩

/-- The only variable with a property is found. -/
theorem firstWith_of_unique {p : PLCVariable → Bool} (held : handler.Holds id) (own : p (handler.objects id) = true)
    (unique : ∀ other, handler.Holds other → p (handler.objects other) = true → other = id) (message : String) :
    handler.firstWith p message = .ok id := by
  cases found : handler.firstWith p message with
  | ok other =>
    obtain ⟨otherHeld, same⟩ := of_firstWith keyed found
    rw [unique other otherHeld same]
  | error e =>
    unfold firstWith at found
    split at found
    · cases found
    · rename_i none_
      have missed := List.find?_eq_none.mp none_ _ (OrderedDict.mem_of_get? held)
      exact absurd own missed

end Lookups

end AdvancedHandler

end PyAds
