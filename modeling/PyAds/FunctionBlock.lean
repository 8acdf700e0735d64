import PyAds.StepChain

/-! The reference function block `FB_TestStepChain`, and its status in the
dictionary of a sum read. One start is accepted at a time; its request id stays
in the status until the next start is accepted. A sum read succeeds also where
some of its items fail. -/
namespace PyAds

/-- `ST_StepStatus` -/
structure StepStatus where
  udiRequestId : Nat
  xBusy : Bool
  xDone : Bool
  xError : Bool
  diErrorCode : Int
  udiStep : Nat
  sStepName : String
  deriving DecidableEq, Repr

/-- `FB_TestStepChain` without its timers. -/
structure FunctionBlock where
  stStepStatus : StepStatus
  busy : Bool
  internalStep : Nat
  simulateError : Bool
  deriving DecidableEq, Repr

/-- The outputs `Q` of the four timers in one cycle. -/
structure Timers where
  prepare : Bool
  load : Bool
  process : Bool
  finalize : Bool
  deriving DecidableEq, Repr

/-- A Python integer as an argument of type UDINT; `ctypes` keeps its lowest 32
bits. -/
def udint (i : Int) : Nat := (i % 2 ^ 32).toNat

namespace FunctionBlock

/-- All variables as they are initialised. -/
def initial : FunctionBlock := ⟨⟨0, false, false, false, 0, 0, ""⟩, false, 0, false⟩

/-- `m_xStartStepChain`, with `GVL.xStepChainForceError`. -/
def start (fb : FunctionBlock) (udiRequestId : Nat) (forceError : Bool) : Bool × FunctionBlock :=
  if fb.busy then (false, fb)
  else (true, ⟨⟨udiRequestId, true, false, false, 0, 10, "Prepare"⟩, true, 10, forceError⟩)

/-- `m_xAbortStepChain` -/
def abort (fb : FunctionBlock) : Bool × FunctionBlock :=
  if fb.busy then
    (true, { fb with
      busy := false
      internalStep := 900
      stStepStatus := { fb.stStepStatus with
        xBusy := false, xDone := false, xError := true, diErrorCode := -2, udiStep :=
          900, sStepName := "Aborted" } })
  else (false, fb)

/-- The step of a chain while it is busy, after `udiStep` and `xBusy` are set. -/
def busyCycle (fb : FunctionBlock) (timers : Timers) : FunctionBlock :=
  match fb.internalStep with
  | 10 =>
    { fb with
      stStepStatus := { fb.stStepStatus with sStepName := "Prepare" }
      internalStep := if timers.prepare then 20 else 10 }
  | 20 =>
    { fb with
      stStepStatus := { fb.stStepStatus with sStepName := "Load" }
      internalStep := if timers.load then 30 else 20 }
  | 30 =>
    if fb.simulateError then
      { fb with
        busy := false
        internalStep := 901
        stStepStatus := { fb.stStepStatus with
          xBusy := false, xDone := false, xError := true, diErrorCode := 9001, udiStep :=
            901, sStepName := "Error" } }
    else
      { fb with
        stStepStatus := { fb.stStepStatus with sStepName := "Process" }
        internalStep := if timers.process then 40 else 30 }
  | 40 =>
    if timers.finalize then
      { fb with
        busy := false
        internalStep := 100
        stStepStatus := { fb.stStepStatus with
          xBusy := false, xDone := true, xError := false, diErrorCode := 0, udiStep :=
            100, sStepName := "Done" } }
    else { fb with stStepStatus := { fb.stStepStatus with sStepName := "Finalize" } }
  | _ => fb

/-- The body of the function block. -/
def cycle (fb : FunctionBlock) (timers : Timers) : FunctionBlock :=
  let fb := { fb with stStepStatus := { fb.stStepStatus with udiStep := fb.internalStep, xBusy := fb.busy } }
  if fb.busy then fb.busyCycle timers else fb

/-- How the chain of the last accepted start stands. -/
inductive Chain where
  | running
  | done
  | failed
  deriving DecidableEq, Repr

/-- The flags and the request id of the status agree with the chain. -/
structure Shows (fb : FunctionBlock) (requestId : Nat) (chain : Chain) : Prop where
  requestId : fb.stStepStatus.udiRequestId = requestId
  busy : fb.busy = true ↔ chain = .running
  done : fb.stStepStatus.xDone = true ↔ chain = .done
  error : fb.stStepStatus.xError = true ↔ chain = .failed

/-- How the chain stands after a step from `fb` to `after` that accepts no start. -/
def endOf (fb after : FunctionBlock) (chain : Chain) : Chain :=
  if fb.busy = true ∧ after.busy = false then if after.stStepStatus.xDone then .done else .failed else chain

/-- After a step that accepts no start, the function block shows how the chain
stands then. -/
def Continues (fb after : FunctionBlock) : Prop :=
  ∀ requestId chain, Shows fb requestId chain → Shows after requestId (endOf fb after chain)

/-- A start is accepted when no chain is running. -/
theorem start_cases (fb : FunctionBlock) (udiRequestId : Nat) (forceError : Bool) :
    (fb.busy = true ∧ fb.start udiRequestId forceError = (false, fb)) ∨
      (fb.busy = false ∧ (fb.start udiRequestId forceError).1 = true ∧
        Shows (fb.start udiRequestId forceError).2 udiRequestId .running) := by
  cases busy : fb.busy
  · right
    simp only [start, busy]
    exact ⟨trivial, rfl, rfl, by simp, by simp, by simp⟩
  · left
    exact ⟨rfl, by simp [start, busy]⟩

theorem continues_abort (fb : FunctionBlock) : fb.Continues fb.abort.2 := by
  intro requestId chain shown
  cases busy : fb.busy
  · have unchanged : fb.abort.2 = fb := by simp [abort, busy]
    rw [unchanged, endOf, if_neg (by simp [busy])]
    exact shown
  · have ended : endOf fb fb.abort.2 chain = .failed := by simp [endOf, abort, busy]
    rw [ended]
    simp only [abort, busy, if_true]
    exact ⟨shown.requestId, by simp, by simp, by simp⟩

/-- A busy cycle goes on, or ends as done or with an error. -/
theorem busyCycle_cases (fb : FunctionBlock) (timers : Timers) :
    (fb.busyCycle timers).stStepStatus.udiRequestId = fb.stStepStatus.udiRequestId ∧
      ((fb.busyCycle timers).busy = fb.busy ∧
          (fb.busyCycle timers).stStepStatus.xDone = fb.stStepStatus.xDone ∧
          (fb.busyCycle timers).stStepStatus.xError = fb.stStepStatus.xError ∨
        (fb.busyCycle timers).busy = false ∧
          (fb.busyCycle timers).stStepStatus.xDone = !(fb.busyCycle timers).stStepStatus.xError) := by
  unfold busyCycle
  split
  · exact ⟨rfl, .inl ⟨rfl, rfl, rfl⟩⟩
  · exact ⟨rfl, .inl ⟨rfl, rfl, rfl⟩⟩
  · split
    · exact ⟨rfl, .inr ⟨rfl, rfl⟩⟩
    · exact ⟨rfl, .inl ⟨rfl, rfl, rfl⟩⟩
  · split
    · exact ⟨rfl, .inr ⟨rfl, rfl⟩⟩
    · exact ⟨rfl, .inl ⟨rfl, rfl, rfl⟩⟩
  · exact ⟨rfl, .inl ⟨rfl, rfl, rfl⟩⟩

/-- One cycle keeps the request id; a chain that ends in it shows how. -/
theorem continues_cycle (fb : FunctionBlock) (timers : Timers) : fb.Continues (fb.cycle timers) := by
  intro requestId chain shown
  cases busy : fb.busy
  · have flags : (fb.cycle timers).busy = false ∧ (fb.cycle timers).stStepStatus.xDone = fb.stStepStatus.xDone ∧
        (fb.cycle timers).stStepStatus.xError = fb.stStepStatus.xError ∧
        (fb.cycle timers).stStepStatus.udiRequestId = fb.stStepStatus.udiRequestId := by
      simp [cycle, busy]
    obtain ⟨idle, done, error, id⟩ := flags
    rw [endOf, if_neg (by simp [busy])]
    exact ⟨id.trans shown.requestId, by rw [idle, ← busy]; exact shown.busy, by rw [done]; exact shown.done,
      by rw [error]; exact shown.error⟩
  · have running : chain = .running := shown.busy.mp busy
    subst running
    obtain ⟨id, flags⟩ := busyCycle_cases
      { fb with stStepStatus := { fb.stStepStatus with udiStep := fb.internalStep, xBusy := fb.busy } } timers
    have same : fb.cycle timers = busyCycle
        { fb with stStepStatus := { fb.stStepStatus with udiStep := fb.internalStep, xBusy := fb.busy } } timers := by
      simp [cycle, busy]
    rw [← same] at id flags
    rcases flags with ⟨still, done, error⟩ | ⟨ended, flag⟩
    · rw [endOf, if_neg (by simp [still, busy])]
      exact ⟨id.trans shown.requestId, by rw [still]; exact shown.busy, by rw [done]; exact shown.done,
        by rw [error]; exact shown.error⟩
    · rw [endOf, if_pos ⟨busy, ended⟩]
      cases done : (fb.cycle timers).stStepStatus.xDone with
      | true =>
        rw [done] at flag
        exact ⟨id.trans shown.requestId, by simp [ended], by simp [done], by simpa using flag⟩
      | false =>
        rw [done] at flag
        exact ⟨id.trans shown.requestId, by simp [ended], by simp [done], by simpa using flag⟩

end FunctionBlock
/-! ## The status in a sum read -/

/-- The proxy of an object whose status has the reference fields. -/
def referenceObject (objectName completion : String) : StepChainObject := { objectName, cfg := { completion } }

namespace StepChainObject

theorem fieldSymbol_inj {obj : StepChainObject} : obj.fieldSymbol first = obj.fieldSymbol second ↔
    first = second := by
  simp [fieldSymbol, String.append_right_inj]

/-- The value of a status symbol. -/
def fieldValue (obj : StepChainObject) (status : StepStatus) (symbol : String) : PyVal :=
  if symbol = obj.fieldSymbol "udiRequestId" then .int status.udiRequestId
  else if symbol = obj.fieldSymbol "xBusy" then .bool status.xBusy
  else if symbol = obj.fieldSymbol "xDone" then .bool status.xDone
  else if symbol = obj.fieldSymbol "xError" then .bool status.xError
  else if symbol = obj.fieldSymbol "diErrorCode" then .int status.diErrorCode
  else if symbol = obj.fieldSymbol "udiStep" then .int status.udiStep
  else if symbol = obj.fieldSymbol "sStepName" then .str (Text.ofChars status.sStepName.toList)
  else .none

end StepChainObject

/-- An item of a status read that has failed. -/
structure ItemFailure where
  field : String
  code : Nat
  text : String
  known : ERROR_CODES code = some text
  deriving DecidableEq, Repr

/-- What a status read has found: the status of its moment, and the items that
have failed. -/
structure StatusRead where
  status : StepStatus
  failed : List ItemFailure

/-- The item of a field was read. -/
def StatusRead.Has (seen : StatusRead) (field : String) : Prop := ∀ failure ∈ seen.failed, failure.field ≠ field

namespace StepChainObject

/-- The item of a status symbol. -/
def itemOf (obj : StepChainObject) (seen : StatusRead) (symbol : String) : StatusItem :=
  match seen.failed.find? fun failure => symbol = obj.fieldSymbol failure.field with
  | some failure => .failed failure.code failure.text failure.known
  | none => .read (obj.fieldValue seen.status symbol)

theorem itemOf_read {obj : StepChainObject} (has : seen.Has field) :
    obj.itemOf seen (obj.fieldSymbol field) = .read (obj.fieldValue seen.status (obj.fieldSymbol field)) := by
  have none_ : (seen.failed.find? fun failure => obj.fieldSymbol field = obj.fieldSymbol failure.field) = none := by
    rw [List.find?_eq_none]
    intro failure member
    simpa [fieldSymbol_inj] using Ne.symm (has failure member)
  rw [itemOf, none_]

theorem itemOf_failed (obj : StepChainObject) (missing : ¬ seen.Has field) :
    ∃ code text known, obj.itemOf seen (obj.fieldSymbol field) = .failed code text known := by
  simp only [StatusRead.Has, not_forall, not_not] at missing
  obtain ⟨failure, member, here⟩ := missing
  cases found : seen.failed.find? fun failure => obj.fieldSymbol field = obj.fieldSymbol failure.field with
  | none => exact absurd (List.find?_eq_none.mp found failure member) (by simp [here])
  | some first => exact ⟨first.code, first.text, first.known, by rw [itemOf, found]⟩

/-- A sum read of the status. -/
def reading (obj : StepChainObject) (seen : StatusRead) : StatusReading obj.statusSymbolsForRead :=
  .ofItems _ (obj.itemOf seen)

/-- A sum read of the status in which no item fails. -/
def snapshot (obj : StepChainObject) (status : StepStatus) : StatusReading obj.statusSymbolsForRead :=
  obj.reading ⟨status, []⟩

theorem statusValue_snapshot {obj : StepChainObject} (member : symbol ∈ obj.statusSymbolsForRead) :
    statusValue (obj.snapshot status).values symbol = obj.fieldValue status symbol :=
  statusValue_eq member

section
variable (objectName completion : String) (status : StepStatus)

theorem fieldValue_reference :
    (referenceObject objectName completion).fieldValue status
          (referenceObject objectName completion).statusSymbols.request = .int status.udiRequestId ∧
      (referenceObject objectName completion).fieldValue status
          (referenceObject objectName completion).statusSymbols.done = .bool status.xDone ∧
      (referenceObject objectName completion).fieldValue status
          (referenceObject objectName completion).statusSymbols.error = .bool status.xError := by
  simp [fieldValue, statusSymbols, fieldSymbol_inj, referenceObject]

theorem errorCodeOf_reference :
    errorCodeOf ((referenceObject objectName completion).snapshot status).values
        (referenceObject objectName completion).statusSymbols.errorCode = some (.int status.diErrorCode) := by
  have configured : (referenceObject objectName completion).statusSymbols.errorCode =
      some ((referenceObject objectName completion).fieldSymbol "diErrorCode") := by
    simp [statusSymbols, nonEmpty, referenceObject]
  have value : statusValue ((referenceObject objectName completion).snapshot status).values
      ((referenceObject objectName completion).fieldSymbol "diErrorCode") = .int status.diErrorCode := by
    rw [statusValue_snapshot (errorCode_mem configured)]
    simp [fieldValue, fieldSymbol_inj]
  rw [configured, errorCodeOf, Option.map_some, value]

/-- The status check of a snapshot. -/
theorem isCompleted_snapshot (methodName : String) (requestId : Int) :
    (referenceObject objectName completion).isCompleted
        ((referenceObject objectName completion).snapshot status).values methodName requestId =
      if (status.udiRequestId : Int) = requestId then
        if status.xError then .error (.failed methodName requestId (some (.int status.diErrorCode)))
        else .ok status.xDone
      else .ok false := by
  obtain ⟨request, done, error⟩ := fieldValue_reference objectName completion status
  have id : coerceInt (statusValue ((referenceObject objectName completion).snapshot status).values
      (referenceObject objectName completion).statusSymbols.request) = .ok (some (status.udiRequestId : Int)) := by
    rw [statusValue_snapshot request_mem, request]
    rfl
  by_cases same : (status.udiRequestId : Int) = requestId
  · rw [same] at id
    rw [if_pos same, isCompleted_current id, statusValue_snapshot error_mem,
      statusValue_snapshot done_mem, error, done,
      errorCodeOf_reference]
    cases status.xError <;> cases status.xDone <;> rfl
  · rw [if_neg same]
    exact isCompleted_other id (fun equal => same (Option.some.inj equal))

end

section
variable (objectName completion methodName : String) {seen : StatusRead}

/-- A flag that is set in the status, or was not read, counts as set. -/
theorem matches_flag {field : String}
    (set : seen.Has field → (referenceObject objectName completion).fieldValue seen.status
      ((referenceObject objectName completion).fieldSymbol field) = .bool true) :
    matches_ ((referenceObject objectName completion).itemOf seen
      ((referenceObject objectName completion).fieldSymbol field)).stored (.bool true) = .ok true := by
  by_cases has : seen.Has field
  · rw [itemOf_read has, set has]
    rfl
  · obtain ⟨code, text, known, item⟩ := itemOf_failed (referenceObject objectName completion) has
    rw [item, StatusItem.matches_stored_failed known]

/-- A read request id decides together with a set flag: whatever else failed, the
status check does not ask for another read. -/
theorem isCompleted_conclusive (has : seen.Has "udiRequestId") (own : (seen.status.udiRequestId : Int) = requestId)
    (ended : seen.status.xDone = true ∨ seen.status.xError = true) :
    (referenceObject objectName completion).isCompleted ((referenceObject objectName completion).reading seen).values
      methodName requestId ≠ .ok false := by
  obtain ⟨request, done, error⟩ := fieldValue_reference objectName completion seen.status
  have current : coerceInt (statusValue ((referenceObject objectName completion).reading seen).values
      (referenceObject objectName completion).statusSymbols.request) = .ok (some requestId) := by
    have item : (referenceObject objectName completion).itemOf seen
        (referenceObject objectName completion).statusSymbols.request = .read (.int seen.status.udiRequestId) :=
      (itemOf_read has).trans (congrArg _ request)
    rw [statusValue_eq request_mem, ← own]
    exact congrArg (fun item => coerceInt (StatusItem.stored item)) item
  rw [isCompleted_current current, statusValue_eq error_mem, statusValue_eq done_mem]
  by_cases noError : seen.Has "xError" ∧ seen.status.xError = false
  · have item : (referenceObject objectName completion).itemOf seen
        (referenceObject objectName completion).statusSymbols.error = .read (.bool false) :=
      (itemOf_read noError.1).trans (congrArg _ (error.trans (congrArg _ noError.2)))
    have unmatched : matches_ (((referenceObject objectName completion).reading seen).item
        (referenceObject objectName completion).statusSymbols.error).stored
          (referenceObject objectName completion).cfg.errorValue = .ok false :=
      congrArg (fun item => matches_ (StatusItem.stored item) (.bool true)) item
    have finished : seen.status.xDone = true := ended.resolve_right (by simp [noError.2])
    have matched : matches_ (((referenceObject objectName completion).reading seen).item
        (referenceObject objectName completion).statusSymbols.done).stored
          (referenceObject objectName completion).cfg.doneValue = .ok true :=
      matches_flag objectName completion fun _ => done.trans (congrArg _ finished)
    rw [unmatched, matched]
    nofun
  · have matched : matches_ (((referenceObject objectName completion).reading seen).item
        (referenceObject objectName completion).statusSymbols.error).stored
          (referenceObject objectName completion).cfg.errorValue = .ok true := by
      refine matches_flag objectName completion fun read => error.trans (congrArg _ ?_)
      simpa using fun clear => noError ⟨read, clear⟩
    rw [matched]
    nofun

end

end StepChainObject

end PyAds
