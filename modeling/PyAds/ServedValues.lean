import PyAds.HandlerCatalogue
import PyAds.HandlerDispatch

/-! What the clients of a test server read. The requests that have been
received, and which of them were answered, tell what was written last to each
variable, whichever clients have written it and by which of its addresses. -/
namespace PyAds
open SlotSequence SequentialObject WriteLog Fallible

namespace AdvancedHandler

/-! ## Values and notifications -/

def values (handler : AdvancedHandler) (id : Nat) : Bytes := (handler.objects id).value

/-- The handler with other values. -/
def withValues (values : Nat → Bytes) (handler : AdvancedHandler) : AdvancedHandler :=
  { handler with objects := fun id => { handler.objects id with value := values id } }

/-- The handler without its registered notifications. -/
def withoutNotes (handler : AdvancedHandler) : AdvancedHandler :=
  { handler with objects := fun id => { handler.objects id with notifications := [], notificationCount := none } }

@[simp] theorem value_withValues (values : Nat → Bytes) (handler : AdvancedHandler) (id : Nat) :
    ((handler.withValues values).objects id).value = values id := rfl

theorem withValues_values (handler : AdvancedHandler) : handler.withValues handler.values = handler := rfl

theorem revalued_withValues (values : Nat → Bytes) (handler : AdvancedHandler) :
    Revalued handler (handler.withValues values) := ⟨rfl, fun id => ⟨values id, rfl⟩⟩

/-- Handlers are the same if their variables are, one by one. -/
theorem eq_of_objects {handler later : AdvancedHandler} (data : handler.data = later.data)
    (objects : ∀ id, handler.objects id = later.objects id) : handler = later := by
  cases handler
  cases later
  cases data
  cases funext objects
  rfl

theorem setValue_withValues (id : Nat) (value : Bytes) (values : Nat → Bytes) (handler : AdvancedHandler) :
    (handler.withValues values).setValue id value = handler.withValues (Function.update values id value) := by
  refine eq_of_objects (by rfl) fun other => ?_
  by_cases same : other = id
  · subst same
    simp [withValues, setValue, setObject]
  · simp [withValues, setValue, setObject, same]

/-- Variables change apart from their notifications. -/
theorem setObject_withoutNotes (id : Nat) (var : PLCVariable) (handler : AdvancedHandler)
    (same : { var with notifications := [], notificationCount := none } =
      { handler.objects id with value := value, notifications := [], notificationCount := none }) :
    (handler.setObject id var).withoutNotes = handler.withoutNotes.setValue id value := by
  refine eq_of_objects (by rfl) fun other => ?_
  by_cases here : other = id
  · subst here
    simpa [withoutNotes, setValue, setObject] using same
  · simp [withoutNotes, setValue, setObject, here]

theorem setValue_withoutNotes (id : Nat) (value : Bytes) (handler : AdvancedHandler) :
    handler.withoutNotes.setValue id value = (handler.setValue id value).withoutNotes :=
  (setObject_withoutNotes id { handler.objects id with value := value } handler rfl).symm

theorem setValue_self (id : Nat) (handler : AdvancedHandler) :
    handler.setValue id (handler.objects id).value = handler :=
  eq_of_objects (by rfl) fun other => congrFun (Function.update_eq_self id handler.objects) other

/-! ## Writes -/

/-- The writes of a sum write, up to a variable that is missing. -/
def foundItems (handler : AdvancedHandler) : List (SumRequest × Bytes) → List (Nat × Bytes)
  | [] => []
  | (request, value) :: items =>
    match handler.getVariableByIndices request.iGroup request.iOffset with
    | .error _ => []
    | .ok id => (id, value) :: foundItems handler items

theorem storeItems_withValues (handler : AdvancedHandler) (items : List (SumRequest × Bytes)) (values : Nat → Bytes) :
    (storeItems items (handler.withValues values)).2 =
      handler.withValues (lastWritten values (handler.foundItems items)) := by
  induction items generalizing values with
  | nil => rfl
  | cons item items ih =>
    obtain ⟨request, value⟩ := item
    have same := (handler.revalued_withValues values).getVariableByIndices request.iGroup request.iOffset
    simp only [storeItems, foundItems, writeFound, same]
    cases handler.getVariableByIndices request.iGroup request.iOffset with
    | error e => rfl
    | ok id =>
      rw [lastWritten_cons, ← ih]
      simp only [setValue_withValues]

theorem storeItems_withoutNotes (handler : AdvancedHandler) (items : List (SumRequest × Bytes)) :
    storeItems items handler.withoutNotes =
      ((storeItems items handler).1, (storeItems items handler).2.withoutNotes) := by
  induction items generalizing handler with
  | nil => rfl
  | cons item items ih =>
    obtain ⟨request, value⟩ := item
    have same : handler.withoutNotes.getVariableByIndices request.iGroup request.iOffset =
        handler.getVariableByIndices request.iGroup request.iOffset := rfl
    simp only [storeItems, writeFound, same]
    cases handler.getVariableByIndices request.iGroup request.iOffset with
    | error e => rfl
    | ok id => simp only [setValue_withoutNotes, ih]

theorem writeFound_withValues (found : Result Nat) (value : Bytes) (values : Nat → Bytes) (handler : AdvancedHandler) :
    ((handler.withValues values).writeFound found value).2 =
      handler.withValues (lastWritten values (found.toOption.toList.map (·, value))) := by
  cases found with
  | error e => rfl
  | ok id => simp [writeFound, setValue_withValues, Except.toOption, lastWritten_cons]

theorem writeFound_withoutNotes (found : Result Nat) (value : Bytes) (handler : AdvancedHandler) :
    handler.withoutNotes.writeFound found value =
      ((handler.writeFound found value).1, (handler.writeFound found value).2.withoutNotes) := by
  cases found with
  | error e => rfl
  | ok id => simp [writeFound, setValue_withoutNotes]

end AdvancedHandler

namespace AdsRequest

/-- The variables that a request writes, each with its new value. -/
def writes (handler : AdvancedHandler) : AdsRequest → List (Nat × Bytes)
  | write indexGroup indexOffset value =>
    if indexGroup = ADSIGRP_SYM_RELEASEHND then []
    else if indexGroup = ADSIGRP_SYM_VALBYHND then
      (handler.getVariableByHandle indexOffset.toNat).toOption.toList.map (·, value)
    else (handler.getVariableByIndices indexGroup indexOffset).toOption.toList.map (·, value)
  | readWrite indexGroup indexOffset _ writeData =>
    if indexGroup = ADSIGRP_SYM_HNDBYNAME ∨ indexGroup = ADSIGRP_SYM_INFOBYNAMEEX ∨
        indexGroup = ADSIGRP_SUMUP_READ then []
    else if indexGroup = ADSIGRP_SUMUP_WRITE then
      if writeData.length < indexOffset * 12 then [] else handler.foundItems (received indexOffset writeData)
    else (handler.getVariableByIndices indexGroup (.ofNat indexOffset)).toOption.toList.map (·, writeData)
  | _ => []

/-- A request to register a notification or to delete one. -/
def OfNotification : AdsRequest → Prop
  | addDevicenote .. | deleteDevicenote _ => True
  | _ => False

instance : DecidablePred OfNotification := fun request => by
  cases request <;> simp only [OfNotification] <;> infer_instance

/-- A request leaves behind what it writes. -/
theorem content_withValues {request : AdsRequest} (plain : ¬ request.OfNotification) (handler : AdvancedHandler)
    (values : Nat → Bytes) : (request.content (handler.withValues values)).2 =
      handler.withValues (lastWritten values (request.writes handler)) := by
  have revalued := handler.revalued_withValues values
  cases request with
  | write indexGroup indexOffset value =>
    simp only [content, AdvancedHandler.handleWrite, writes, revalued.getVariableByHandle,
      revalued.getVariableByIndices]
    split
    · rfl
    · split <;> exact AdvancedHandler.writeFound_withValues ..
  | readWrite indexGroup indexOffset readLength writeData =>
    simp only [content, AdvancedHandler.handleReadWrite, writes]
    by_cases handle : indexGroup = ADSIGRP_SYM_HNDBYNAME
    · simp [handle]
    by_cases info : indexGroup = ADSIGRP_SYM_INFOBYNAMEEX
    · simp [info, show ADSIGRP_SYM_INFOBYNAMEEX ≠ ADSIGRP_SYM_HNDBYNAME by decide]
    by_cases sumWrite : indexGroup = ADSIGRP_SUMUP_WRITE
    · subst sumWrite
      have stored := handler.storeItems_withValues (received indexOffset writeData) values
      simp only [AdvancedHandler.sumupWrite, handle, info, ↓reduceIte, false_or,
        show ADSIGRP_SUMUP_WRITE ≠ ADSIGRP_SUMUP_READ by decide]
      split
      · rfl
      · rw [← stored]
        split <;> simp_all
    by_cases sumRead : indexGroup = ADSIGRP_SUMUP_READ
    · simp [sumRead, show ADSIGRP_SUMUP_READ ≠ ADSIGRP_SYM_HNDBYNAME by decide,
        show ADSIGRP_SUMUP_READ ≠ ADSIGRP_SYM_INFOBYNAMEEX by decide,
        show ADSIGRP_SUMUP_READ ≠ ADSIGRP_SUMUP_WRITE by decide]
    · simp only [handle, info, sumWrite, sumRead, ↓reduceIte, or_self, revalued.getVariableByIndices]
      cases handler.getVariableByIndices indexGroup (.ofNat indexOffset) with
      | error e => rfl
      | ok id => simp [AdvancedHandler.setValue_withValues, Except.toOption, lastWritten_cons]
  | addDevicenote indexGroup indexOffset => exact absurd trivial plain
  | deleteDevicenote handle => exact absurd trivial plain
  | readDeviceInfo => rfl
  | read indexGroup indexOffset plcDatatype => rfl
  | readState => rfl
  | writeControl => rfl
  | devicenote => rfl

/-- The registered notifications play no part in the other requests. -/
theorem content_withoutNotes {request : AdsRequest} (plain : ¬ request.OfNotification) (handler : AdvancedHandler) :
    request.content handler.withoutNotes = ((request.content handler).1, (request.content handler).2.withoutNotes) := by
  cases request with
  | write indexGroup indexOffset value =>
    have handle : handler.withoutNotes.getVariableByHandle = handler.getVariableByHandle := rfl
    have indices : handler.withoutNotes.getVariableByIndices = handler.getVariableByIndices := rfl
    simp only [content, AdvancedHandler.handleWrite, handle, indices, AdvancedHandler.writeFound_withoutNotes]
    split
    · rfl
    · split <;> rfl
  | readWrite indexGroup indexOffset readLength writeData =>
    have indices : handler.withoutNotes.getVariableByIndices = handler.getVariableByIndices := rfl
    simp only [content, AdvancedHandler.handleReadWrite, AdvancedHandler.sumupWrite,
      AdvancedHandler.storeItems_withoutNotes, indices]
    split
    · rfl
    split
    · rfl
    split
    · split
      · rfl
      · cases AdvancedHandler.storeItems (received indexOffset writeData) handler with
        | mk stored later => cases stored <;> rfl
    split
    · rfl
    · cases handler.getVariableByIndices indexGroup (.ofNat indexOffset) with
      | error e => rfl
      | ok id => simp only [AdvancedHandler.setValue_withoutNotes]; rfl
  | addDevicenote indexGroup indexOffset => exact absurd trivial plain
  | deleteDevicenote handle => exact absurd trivial plain
  | readDeviceInfo => rfl
  | read indexGroup indexOffset plcDatatype => rfl
  | readState => rfl
  | writeControl => rfl
  | devicenote => rfl

/-- Requests of notifications change nothing else. -/
theorem content_ofNotification {request : AdsRequest} (note : request.OfNotification) (handler : AdvancedHandler) :
    (request.content handler).2.withoutNotes = handler.withoutNotes := by
  have noted (id : Nat) (notifications : List Nat) (count : Option Nat) :
      (handler.setObject id { handler.objects id with notifications, notificationCount := count }).withoutNotes =
        handler.withoutNotes := by
    have changed := handler.setObject_withoutNotes id
      { handler.objects id with notifications, notificationCount := count } rfl
    exact changed.trans (handler.withoutNotes.setValue_self id)
  cases request with
  | addDevicenote indexGroup indexOffset =>
    simp only [content, AdvancedHandler.handleAddDevicenote]
    cases handler.getVariableByIndices indexGroup indexOffset with
    | error e => rfl
    | ok id => exact noted id _ _
  | deleteDevicenote handle =>
    simp only [content, AdvancedHandler.handleDeleteDevicenote]
    cases handler.getVariableByNotificationHandle handle.toNat with
    | error e => rfl
    | ok id => exact noted id _ _
  | _ => exact absurd note (by simp [OfNotification])

end AdsRequest

namespace AdvancedHandler

def requestWrites (handler : AdvancedHandler) (request : AmsPacket) : List (Nat × Bytes) :=
  match unpacked request with
  | .ok (some unpacked) => unpacked.writes handler
  | .ok none | .error _ => []

def NoNotification (request : AmsPacket) : Prop :=
  ∀ asked, unpacked request = .ok (some asked) → ¬ asked.OfNotification

theorem handleRequest_withValues {request : AmsPacket} (plain : NoNotification request) (handler : AdvancedHandler)
    (values : Nat → Bytes) : ((handler.withValues values).handleRequest request).2 =
      handler.withValues (lastWritten values (handler.requestWrites request)) := by
  unfold handleRequest requestWrites
  cases asked : unpacked request with
  | error e => rfl
  | ok found =>
    cases found with
    | none => rfl
    | some found =>
      have left := AdsRequest.content_withValues (plain found asked) handler values
      dsimp only
      rw [← left]
      cases found.content (handler.withValues values) with
      | mk content later => cases content <;> rfl

theorem handleRequest_withoutNotes {request : AmsPacket} (plain : NoNotification request) (handler : AdvancedHandler) :
    handler.withoutNotes.handleRequest request =
      ((handler.handleRequest request).1, (handler.handleRequest request).2.withoutNotes) := by
  unfold handleRequest
  cases asked : unpacked request with
  | error e => rfl
  | ok found =>
    cases found with
    | none => rfl
    | some found =>
      dsimp only
      rw [AdsRequest.content_withoutNotes (plain found asked)]
      cases found.content handler with
      | mk content later => cases content <;> rfl

theorem handleRequest_notification {request : AmsPacket} (note : ¬ NoNotification request) (handler : AdvancedHandler) :
    (handler.handleRequest request).2.withoutNotes = handler.withoutNotes ∧ handler.requestWrites request = [] := by
  obtain ⟨found, asked, noted⟩ : ∃ found, unpacked request = .ok (some found) ∧ found.OfNotification := by
    simpa [NoNotification] using note
  have left := AdsRequest.content_ofNotification noted handler
  unfold handleRequest requestWrites
  rw [asked]
  constructor
  · dsimp only
    rw [← left]
    cases found.content handler with
    | mk content later => cases content <;> rfl
  · cases found with
    | addDevicenote indexGroup indexOffset => rfl
    | deleteDevicenote handle => rfl
    | _ => exact absurd noted (by simp [AdsRequest.OfNotification])

theorem handleRequest_valid (handler : AdvancedHandler) (request : AmsPacket) :
    (handler.handleRequest request).1 ≠ .invalid := by
  unfold handleRequest
  cases unpacked request with
  | error e => simp
  | ok found =>
    cases found with
    | none => simp
    | some found =>
      dsimp only
      cases found.content handler with
      | mk content later => cases content <;> simp

end AdvancedHandler

/-! ## Histories -/

/-- A chunk that a client has sent, and what it was answered. -/
abbrev Served (κ : Type) := (κ × Bytes) × Option Bytes

section Histories
variable {κ : Type} [DecidableEq κ]

/-- The threads that have ended behind a chunk: it is empty, or a request that
was not answered. -/
def endedAfter (ended : κ → Bool) (served : Served κ) : κ → Bool :=
  if ended served.1.1 then ended
  else if served.1.2 = [] ∨ 38 ≤ served.1.2.length ∧ served.2 = none then Function.update ended served.1.1 true
  else ended

/-- The writes of all requests that a thread has taken, in their order. -/
def observedWrites (handler : AdvancedHandler) (ended : κ → Bool) : List (Served κ) → List (Nat × Bytes)
  | [] => []
  | served :: history =>
    (if ended served.1.1 ∨ served.1.2.length < 38 then []
      else handler.requestWrites (constructRequest served.1.2)) ++
      observedWrites handler (endedAfter ended served) history

end Histories

namespace AdvancedHandler
variable {κ : Type} [DecidableEq κ]

theorem receive_ended (server : ServedClients AdvancedHandler κ) (received : κ × Bytes) :
    (requestHandler.receive server received).2.ended =
      endedAfter server.ended (received, (requestHandler.receive server received).1) := by
  obtain ⟨client, data⟩ := received
  unfold RequestHandler.receive endedAfter
  dsimp only
  split
  · rfl
  split
  · simp [*]
  split
  · simp [*]
  · rename_i alive nonempty long
    have valid := server.shared.handleRequest_valid (constructRequest data)
    change (requestHandler.handleRequest _ _).1 ≠ _ at valid
    cases handled : requestHandler.handleRequest server.shared (constructRequest data) with
    | mk answer shared =>
      rw [handled] at valid
      cases answer with
      | raised => simp [nonempty, Nat.le_of_not_lt long]
      | invalid => exact absurd rfl valid
      | response responseData =>
        cases constructed : constructResponse responseData (constructRequest data) with
        | error e => simp [constructed, nonempty, Nat.le_of_not_lt long]
        | ok responseBytes => simp [constructed, nonempty]

/-- The server holds these values, apart from what it has registered. -/
def HoldsValues (handler : AdvancedHandler) (server : ServedClients AdvancedHandler κ) (values : Nat → Bytes) : Prop :=
  server.shared.withoutNotes = (handler.withValues values).withoutNotes

/-- A chunk that is taken writes what it asks for. -/
theorem HoldsValues.receive {handler : AdvancedHandler} {server : ServedClients AdvancedHandler κ}
    {values : Nat → Bytes} (holds : handler.HoldsValues server values) (received : κ × Bytes) :
    handler.HoldsValues (requestHandler.receive server received).2 (lastWritten values
      (if server.ended received.1 ∨ received.2.length < 38 then []
        else handler.requestWrites (constructRequest received.2))) := by
  unfold HoldsValues at holds ⊢
  rw [RequestHandler.receive_shared]
  split
  · exact holds
  · change (server.shared.handleRequest (constructRequest received.2)).2.withoutNotes = _
    by_cases plain : NoNotification (constructRequest received.2)
    · calc (server.shared.handleRequest (constructRequest received.2)).2.withoutNotes
        _ = (server.shared.withoutNotes.handleRequest (constructRequest received.2)).2 := by
          rw [handleRequest_withoutNotes plain]
        _ = ((handler.withValues values).handleRequest (constructRequest received.2)).2.withoutNotes := by
          rw [holds, handleRequest_withoutNotes plain]
        _ = _ := by rw [handleRequest_withValues plain]
    · obtain ⟨kept, _⟩ := handleRequest_notification plain server.shared
      obtain ⟨_, nothing⟩ := handleRequest_notification plain handler
      rw [kept, nothing]
      exact holds

/-- Behind any requests, the history tells the values and the threads that have
ended. -/
theorem run_history {handler : AdvancedHandler} {server : ServedClients AdvancedHandler κ} {values : Nat → Bytes}
    (holds : handler.HoldsValues server values) (requests : List (κ × Bytes)) :
    let served := SequentialObject.run requestHandler.receive server requests
    let history := requests.zip served.1
    served.2.ended = history.foldl endedAfter server.ended ∧
      handler.HoldsValues served.2 (lastWritten values (observedWrites handler server.ended history)) := by
  induction requests generalizing server values with
  | nil => exact ⟨rfl, holds⟩
  | cons received requests ih =>
    obtain ⟨ended, last⟩ := ih (holds.receive received)
    simp only [SequentialObject.run, List.zip_cons_cons, List.foldl_cons, observedWrites, lastWritten_append,
      ← receive_ended]
    exact ⟨ended, last⟩

/-- A request other than those of notifications is answered alike by servers
that hold the same values. -/
theorem HoldsValues.answer {handler : AdvancedHandler} {server : ServedClients AdvancedHandler κ}
    {values : Nat → Bytes} (holds : handler.HoldsValues server values) {data : Bytes} (long : 38 ≤ data.length)
    (alive : server.ended client = false) (plain : NoNotification (constructRequest data)) :
    (requestHandler.receive server (client, data)).1 =
      match ((handler.withValues values).handleRequest (constructRequest data)).1 with
      | .response responseData => (constructResponse responseData (constructRequest data)).toOption
      | .raised | .invalid => none := by
  have same : (server.shared.handleRequest (constructRequest data)).1 =
      ((handler.withValues values).handleRequest (constructRequest data)).1 := by
    have first := congrArg Prod.fst (handleRequest_withoutNotes plain server.shared)
    have second := congrArg Prod.fst (handleRequest_withoutNotes plain (handler.withValues values))
    exact first.symm.trans ((congrArg (fun handler => (handleRequest handler _).1) holds).trans second)
  have nonempty : data ≠ [] := by
    rintro rfl
    simp at long
  rw [← same]
  have own : requestHandler.handleRequest server.shared = server.shared.handleRequest := rfl
  simp only [RequestHandler.receive, alive, Bool.false_eq_true, ↓reduceIte, nonempty, Nat.not_lt.mpr long, own]
  cases server.shared.handleRequest (constructRequest data) with
  | mk answer shared =>
    cases answer with
    | raised => rfl
    | invalid => rfl
    | response responseData =>
      dsimp only
      cases constructResponse responseData (constructRequest data) <;> rfl

end AdvancedHandler

/-! ## Reading -/

/-- A request reads these data of variables with the given values: of one by
its handle or its indices, as part of an exchange, or of all in a list. A name
is answered with the handle of the variable. -/
inductive AdsRequest.Reads (handler : AdvancedHandler) (values : Nat → Bytes) : AdsRequest → Bytes → Prop where
  | byHandle {id : Nat} (found : handler.getVariableByHandle handle.toNat = .ok id) :
      Reads handler values (.read ADSIGRP_SYM_VALBYHND handle length) (values id)
  | byIndices {id : Nat} (plain : group ∉ [ADSIGRP_SYM_VALBYHND, ADSIGRP_SYM_UPLOADINFO2, ADSIGRP_SYM_UPLOAD])
      (found : handler.getVariableByIndices group offset = .ok id) :
      Reads handler values (.read group offset length) ((values id).take length)
  | exchanged {id : Nat} (plain : group ∉ [ADSIGRP_SYM_HNDBYNAME, ADSIGRP_SYM_INFOBYNAMEEX, ADSIGRP_SUMUP_WRITE,
        ADSIGRP_SUMUP_READ])
      (found : handler.getVariableByIndices group (.ofNat offset) = .ok id) :
      Reads handler values (.readWrite group offset length writeData) ((values id).take length)
  | listed (whole : numRequests * 12 ≤ writeData.length)
      (found : List.Forall₂ (fun (request : SumRequest) id =>
        handler.getVariableByIndices request.iGroup request.iOffset = .ok id)
        ((List.range numRequests).map (receivedRequest writeData)) ids) :
      Reads handler values (.readWrite ADSIGRP_SUMUP_READ numRequests length writeData)
        (List.replicate (numRequests * 4) 0 ++ (ids.map values).flatten)
  | named {id : Nat} (found : handler.getVariableNamed writeData = .ok id) (small : (handler.objects id).handle < 2 ^ 32) :
      Reads handler values (.readWrite ADSIGRP_SYM_HNDBYNAME offset length writeData)
        (LittleEndian.ofNat 4 (handler.objects id).handle)

namespace AdsRequest
variable {handler : AdvancedHandler} {values : Nat → Bytes} {request : AdsRequest}

theorem Reads.plain (reads : request.Reads handler values readData) : ¬ request.OfNotification := by
  cases reads <;> simp [OfNotification]

/-- What is read is sent behind its length. -/
theorem Reads.content (reads : request.Reads handler values readData) :
    (request.content (handler.withValues values)).1 = withLength readData := by
  have revalued := handler.revalued_withValues values
  cases reads with
  | byHandle found =>
    simp [AdsRequest.content, AdvancedHandler.handleRead, revalued.getVariableByHandle, found, bind, Except.bind, pure,
      Except.pure]
  | byIndices plain found =>
    simp only [List.mem_cons, List.not_mem_nil, or_false, not_or] at plain
    simp [AdsRequest.content, AdvancedHandler.handleRead, plain, revalued.getVariableByIndices, found, bind,
      Except.bind, pure, Except.pure]
  | exchanged plain found =>
    simp only [List.mem_cons, List.not_mem_nil, or_false, not_or] at plain
    simp [AdsRequest.content, AdvancedHandler.handleReadWrite, plain, revalued.getVariableByIndices, found, bind,
      Except.bind]
  | @listed numRequests writeData ids length whole found =>
    have read : (handler.withValues values).sumupRead numRequests writeData =
        .ok (List.replicate (numRequests * 4) 0 ++ (ids.map values).flatten) := by
      rw [AdvancedHandler.sumupRead, if_neg (Nat.not_lt.mpr whole)]
      refine bind_eq_ok.mpr ⟨_, concatM_of_forall₂ (List.forall₂_map_right_iff.mpr (found.imp ?_)), rfl⟩
      intro request id here
      rw [revalued.getVariableByIndices, here]
      rfl
    have group : ADSIGRP_SUMUP_READ ∉ [ADSIGRP_SYM_HNDBYNAME, ADSIGRP_SYM_INFOBYNAMEEX, ADSIGRP_SUMUP_WRITE] := by
      decide
    simp only [List.mem_cons, List.not_mem_nil, or_false, not_or] at group
    simp [AdsRequest.content, AdvancedHandler.handleReadWrite, group, read, bind, Except.bind]
  | @named writeData offset length id found small =>
    have name : (handler.withValues values).getVariableNamed writeData = .ok id := by
      rw [← found]
      unfold AdvancedHandler.getVariableNamed
      cases Text.Utf8.decode writeData with
      | none => rfl
      | some varName => exact revalued.getVariableByName _
    have bound : (handler.objects id).handle < 256 ^ 4 := small.trans_eq (by norm_num)
    have packed := packNumbers_single bound
    simp [AdsRequest.content, AdvancedHandler.handleReadWrite, name, revalued.handle, packed, bind, Except.bind]

end AdsRequest

namespace AdvancedHandler
variable {κ : Type} [DecidableEq κ]

/-- The server of a handler before any client has sent something. -/
def server (handler : AdvancedHandler) : ServedClients AdvancedHandler κ := ⟨handler, fun _ => false⟩

/-- What the clients have sent, with the answers. -/
def history (handler : AdvancedHandler) (requests : List (κ × Bytes)) : List (Served κ) :=
  requests.zip (SequentialObject.run requestHandler.receive handler.server requests).1

def answerAfter (handler : AdvancedHandler) (requests : List (κ × Bytes)) (client : κ) (data : Bytes) : Option Bytes :=
  (requestHandler.receive (SequentialObject.run requestHandler.receive handler.server requests).2 (client, data)).1

/-- The values that were written last. -/
def storedValues (handler : AdvancedHandler) (requests : List (κ × Bytes)) : Nat → Bytes :=
  lastWritten handler.values (observedWrites handler (fun _ => false) (handler.history requests))

/-- The client has not closed its connection, and all its requests were answered. -/
def Listens (handler : AdvancedHandler) (requests : List (κ × Bytes)) (client : κ) : Prop :=
  (handler.history requests).foldl endedAfter (fun _ => false) client = false

theorem holds_storedValues (handler : AdvancedHandler) (requests : List (κ × Bytes)) : handler.HoldsValues
    (SequentialObject.run requestHandler.receive handler.server requests).2 (handler.storedValues requests) :=
  (run_history rfl requests).2

theorem Listens.alive {handler : AdvancedHandler} {requests : List (κ × Bytes)}
    (listens : handler.Listens requests client) :
    (SequentialObject.run requestHandler.receive handler.server requests).2.ended client = false :=
  (congrFun (run_history (rfl : handler.HoldsValues handler.server handler.values) requests).1 client).trans listens

/-- Whatever the clients have sent before, a client that is listened to reads
from each variable what was written to it last, by any of them. -/
theorem reads_last_written (handler : AdvancedHandler) (requests : List (κ × Bytes))
    (listens : handler.Listens requests client) {data : Bytes} (long : 38 ≤ data.length)
    (asked : unpacked (constructRequest data) = .ok (some request))
    (reads : request.Reads handler (handler.storedValues requests) readData) (fits : 40 + readData.length < 2 ^ 32) :
    ∃ packet, handler.answerAfter requests client data = some packet ∧
      (constructRequest data).Replies (responseTo (constructRequest data) (constructRequest data).amsHeader.errorCode
        ([0, 0, 0, 0] ++ (LittleEndian.ofNat 4 readData.length ++ readData))) packet := by
  have plain : NoNotification (constructRequest data) := by
    intro found same
    cases asked.symm.trans same
    exact reads.plain
  have sized := sized_constructRequest long
  let responseData := responseTo (constructRequest data) (constructRequest data).amsHeader.errorCode
    ([0, 0, 0, 0] ++ (LittleEndian.ofNat 4 readData.length ++ readData))
  have length : 32 + responseData.data.length = 40 + readData.length := by
    simp only [responseData, responseTo, List.length_append, LittleEndian.length_ofNat, List.length_cons,
      List.length_nil]
    omega
  obtain ⟨packet, made, -, replies⟩ := replies_of_sized sized (LittleEndian.length_ofNat ..) sized.errorCode
    (length.trans_lt fits)
  refine ⟨packet, ?_, replies⟩
  have packed := AdsRequest.withLength_eq_ok (show readData.length < 2 ^ 32 by omega)
  have answered : ((handler.withValues (handler.storedValues requests)).handleRequest (constructRequest data)).1 =
      .response responseData := by
    have found := reads.content.trans packed
    unfold handleRequest
    rw [asked]
    dsimp only
    cases content : request.content (handler.withValues (handler.storedValues requests)) with
    | mk answer later =>
      rw [content] at found
      cases found
      rfl
  rw [answerAfter, (handler.holds_storedValues requests).answer long listens.alive plain, answered]
  dsimp only
  rw [made]
  rfl

/-- Two variables of two bytes each. -/
def pressures : AdvancedHandler where
  objects id := ⟨if id = 0 then "MAIN.inlet" else "MAIN.outlet", [0, 0], 18, "UINT", 10000 + id, 12345, .ofNat (20000 + id),
    "", [], none⟩
  data := ⟨[((12345, 20000), 0), ((12345, 20001), 1)], by decide⟩

/-- A packet with a request. -/
def packetOf (commandId : UInt8) (data : Bytes) : Bytes :=
  [0, 0] ++ LittleEndian.ofNat 4 (32 + data.length) ++ [5, 18, 27, 36, 1, 1, 83, 3, 5, 18, 27, 99, 1, 1, 48, 117] ++
    [commandId, 0, 4, 0] ++ LittleEndian.ofNat 4 data.length ++ [0, 0, 0, 0, 7, 0, 0, 0] ++ data

/-- One client writes the inlet by its handle. Another one writes it in a list,
and ends with the second item, which is not a variable. -/
def pressureRequests : List (Bool × Bytes) :=
  [(false, packetOf 3 [0x05, 0xF0, 0, 0, 0x10, 0x27, 0, 0, 2, 0, 0, 0, 7, 1]),
   (true, packetOf 9 ([0x81, 0xF0, 0, 0, 2, 0, 0, 0, 8, 0, 0, 0, 28, 0, 0, 0] ++
      [0x39, 0x30, 0, 0, 0x20, 0x4E, 0, 0, 2, 0, 0, 0] ++ [0x39, 0x30, 0, 0, 0x22, 0x4E, 0, 0, 2, 0, 0, 0] ++
      [9, 2, 9, 3])),
   (true, packetOf 3 [0x05, 0xF0, 0, 0, 0x10, 0x27, 0, 0, 2, 0, 0, 0, 8, 1])]

def readInlet : Bytes := packetOf 2 [0x39, 0x30, 0, 0, 0x20, 0x4E, 0, 0, 2, 0, 0, 0]

/-- The first client reads what the second one has stored before it failed. -/
theorem inlet_read : ∃ packet, pressures.answerAfter pressureRequests false readInlet = some packet ∧
    (constructRequest readInlet).Replies (responseTo (constructRequest readInlet)
      (constructRequest readInlet).amsHeader.errorCode ([0, 0, 0, 0] ++ (LittleEndian.ofNat 4 2 ++ [9, 2]))) packet := by
  have stored : pressures.storedValues pressureRequests 0 = [9, 2] := by decide +kernel
  have reads : (AdsRequest.read 12345 20000 2).Reads pressures (pressures.storedValues pressureRequests)
      ((pressures.storedValues pressureRequests 0).take 2) := .byIndices (by decide) (by rfl)
  rw [stored] at reads
  have listens : pressures.Listens pressureRequests false := by
    unfold Listens
    decide +kernel
  exact pressures.reads_last_written pressureRequests listens (by decide) (by rfl) reads (by decide)

end AdvancedHandler

end PyAds
