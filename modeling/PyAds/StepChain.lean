import PyAds.ErrorTexts
import PyAds.SumReplies

/-! The status of a step chain as a client sees it. A sum read returns one
dictionary for data and errors: the entry of a failed item is the text of its
error, and the comparison with the expected flags is blind to the difference. -/
namespace PyAds

/-- `StepChainConfig`; the times are binary64 patterns. -/
structure StepChainConfig where
  statusSymbol : Option String := none
  statusField : String := "stStepStatus"
  requestIdField : String := "udiRequestId"
  requestIdArg : String := "udiRequestId"
  busyField : Option String := some "xBusy"
  doneField : String := "xDone"
  doneValue : PyVal := .bool true
  errorField : String := "xError"
  errorValue : PyVal := .bool true
  errorCodeField : String := "diErrorCode"
  stepField : Option String := some "udiStep"
  stepNameField : Option String := some "sStepName"
  stepNameLength : Int := 80
  completion : String := "poll"
  pollInterval : Nat := 0x3FA999999999999A
  timeout : Option Nat := none
  deriving Repr

/-- How waiting for a step chain ends other than by completion: the errors of
`_wait_until_done`, and those of the functions that it calls. -/
inductive StepChainError where
  | rejected (methodName : String)
  | failed (methodName : String) (requestId : Int) (errorCode : Option PyVal)
  | timedOut (methodName : String) (requestId : Int)
  | raised (error : PyError)

/-- `AsyncStepChainRpcObject` -/
structure StepChainObject where
  objectName : String
  cfg : StepChainConfig := {}

/-! ## The status symbols -/

/-- A field name that is set. -/
def nonEmpty (name : String) : Option String := if name = "" then none else some name

/-- What `_status_symbols` returns. -/
structure StatusSymbols where
  request : String
  busy : Option String
  done : String
  error : String
  errorCode : Option String

namespace StepChainObject

/-- `status_symbol` -/
def statusSymbol (obj : StepChainObject) : String :=
  obj.cfg.statusSymbol.getD (obj.objectName ++ "." ++ obj.cfg.statusField)

def fieldSymbol (obj : StepChainObject) (fieldName : String) : String :=
  obj.statusSymbol ++ "." ++ fieldName

/-- `_status_symbols` -/
def statusSymbols (obj : StepChainObject) : StatusSymbols where
  request := obj.fieldSymbol obj.cfg.requestIdField
  busy := (obj.cfg.busyField.bind nonEmpty).map obj.fieldSymbol
  done := obj.fieldSymbol obj.cfg.doneField
  error := obj.fieldSymbol obj.cfg.errorField
  errorCode := (nonEmpty obj.cfg.errorCodeField).map obj.fieldSymbol

end StepChainObject

/-- A symbol that is set joins the list unless it is there already. -/
def joinSymbol (symbols : List String) (symbol : Option String) : List String :=
  symbol.elim symbols (OrderedDict.addKey symbols)

namespace StepChainObject

/-- `_status_symbols_for_read` -/
def statusSymbolsForRead (obj : StepChainObject) : List String :=
  let symbols := obj.statusSymbols
  [symbols.busy, some symbols.error, symbols.errorCode,
    (obj.cfg.stepField.bind nonEmpty).map obj.fieldSymbol,
    (obj.cfg.stepNameField.bind nonEmpty).map obj.fieldSymbol].foldl joinSymbol [symbols.request, symbols.done]

end StepChainObject

/-! ## Comparing with the expected values -/

/-- `_coerce_int`, which catches `TypeError` and `ValueError` only. -/
def coerceInt (value : PyVal) : Result (Option Int) :=
  match value.int? with
  | .ok i => .ok (some i)
  | .error .typeError | .error (.valueError _) => .ok none
  | .error e => .error e

/-- `_matches`; the expected value is a flag or a number. -/
def matches_ (actual expected : PyVal) : Result Bool :=
  match expected with
  | .bool b => .ok (actual.truthy == b)
  | expected => do
    let actualNum ← coerceInt actual
    let expectedNum ← expected.int?
    return actualNum == some expectedNum

theorem matches_number {actual expected : PyVal} (noFlag : ∀ b, expected ≠ .bool b) :
    matches_ actual expected = do
      let actualNum ← coerceInt actual
      let expectedNum ← expected.int?
      return actualNum == some expectedNum := by
  rw [matches_]
  exact noFlag

/-- `values.get(symbol)` -/
def statusValue (values : OrderedDict String PyVal) (symbol : String) : PyVal :=
  (values.get? symbol).getD .none

/-- The value of the error code, unless it is `None`. -/
def errorCodeOf (values : OrderedDict String PyVal) (symbol : Option String) : Option PyVal :=
  match symbol.map (statusValue values) with
  | some .none | none => none
  | some value => some value

/-- `_is_completed` -/
def StepChainObject.isCompleted (obj : StepChainObject) (values : OrderedDict String PyVal)
    (methodName : String) (requestId : Int) : Except StepChainError Bool := do
  let symbols := obj.statusSymbols
  let currentRequest ← (coerceInt (statusValue values symbols.request)).mapError .raised
  if currentRequest ≠ some requestId then return false
  let failed ← (matches_ (statusValue values symbols.error) obj.cfg.errorValue).mapError .raised
  if failed then
    throw (.failed methodName requestId (errorCodeOf values symbols.errorCode))
  (matches_ (statusValue values symbols.done) obj.cfg.doneValue).mapError .raised

theorem mapError_eq_ok {result : Except ε α} {f : ε → δ} : result.mapError f = .ok value ↔ result = .ok value := by
  cases result with
  | error e => simp [Except.mapError]
  | ok found => simp [Except.mapError]

section
variable {obj : StepChainObject} {values : OrderedDict String PyVal}

theorem isCompleted_raised (request : coerceInt (statusValue values obj.statusSymbols.request) = .error e) :
    obj.isCompleted values methodName requestId = .error (.raised e) := by
  simp [StepChainObject.isCompleted, request, Except.mapError, Bind.bind, Except.bind]

theorem isCompleted_other (request : coerceInt (statusValue values obj.statusSymbols.request) = .ok current)
    (other : current ≠ some requestId) : obj.isCompleted values methodName requestId = .ok false := by
  simp [StepChainObject.isCompleted, request, other, Except.mapError, Bind.bind, Except.bind, pure, Except.pure]

/-- The flags decide once the request id matches. -/
theorem isCompleted_current
    (request : coerceInt (statusValue values obj.statusSymbols.request) = .ok (some requestId)) :
    obj.isCompleted values methodName requestId =
      match matches_ (statusValue values obj.statusSymbols.error) obj.cfg.errorValue with
      | .error e => .error (.raised e)
      | .ok true => .error (.failed methodName requestId (errorCodeOf values obj.statusSymbols.errorCode))
      | .ok false => (matches_ (statusValue values obj.statusSymbols.done) obj.cfg.doneValue).mapError .raised := by
  simp only [StepChainObject.isCompleted, request, Except.mapError, Bind.bind, Except.bind, ne_eq,
    not_true_eq_false, if_false]
  cases matches_ (statusValue values obj.statusSymbols.error) obj.cfg.errorValue with
  | error e => rfl
  | ok failed => cases failed <;> rfl

/-- Completion is reported when the request id matches, the error flag does not
and the done flag does. -/
theorem isCompleted_eq_true_iff :
    obj.isCompleted values methodName requestId = .ok true ↔
      coerceInt (statusValue values obj.statusSymbols.request) = .ok (some requestId) ∧
        matches_ (statusValue values obj.statusSymbols.error) obj.cfg.errorValue = .ok false ∧
          matches_ (statusValue values obj.statusSymbols.done) obj.cfg.doneValue = .ok true := by
  cases request : coerceInt (statusValue values obj.statusSymbols.request) with
  | error e => simp [isCompleted_raised request]
  | ok current =>
    by_cases same : current = some requestId
    · subst same
      rw [isCompleted_current request]
      rcases matches_ (statusValue values obj.statusSymbols.error) obj.cfg.errorValue with e | _ | _
      · simp
      · simp [mapError_eq_ok]
      · simp
    · simp [isCompleted_other request same, same]

/-- A failure is reported when the request id and the error flag match. -/
theorem isCompleted_failed_iff :
    (∃ method request code, obj.isCompleted values methodName requestId = .error (.failed method request code)) ↔
      coerceInt (statusValue values obj.statusSymbols.request) = .ok (some requestId) ∧
        matches_ (statusValue values obj.statusSymbols.error) obj.cfg.errorValue = .ok true := by
  cases request : coerceInt (statusValue values obj.statusSymbols.request) with
  | error e => simp [isCompleted_raised request]
  | ok current =>
    by_cases same : current = some requestId
    · subst same
      rw [isCompleted_current request]
      rcases matches_ (statusValue values obj.statusSymbols.error) obj.cfg.errorValue with e | _ | _
      · simp
      · cases matches_ (statusValue values obj.statusSymbols.done) obj.cfg.doneValue <;> simp [Except.mapError]
      · simp
    · simp [isCompleted_other request same, same]

end

/-! ## Failed items -/

/-- What a sum read stores for a symbol: the decoded value, or the text of the
item's error. -/
inductive StatusItem where
  | read (value : PyVal)
  | failed (code : Nat) (text : String) (known : ERROR_CODES code = some text)

instance : Inhabited StatusItem := ⟨.read .none⟩

namespace StatusItem

def stored : StatusItem → PyVal
  | read value => value
  | failed _ text _ => PyAds.errorValue text

/-- The item was read, and is this number. -/
def ReadsNumber (item : StatusItem) (i : Int) : Prop :=
  ∃ value, item = read value ∧ coerceInt value = .ok (some i)

/-- The item was read, and is the expected value. -/
def ReadsAs (item : StatusItem) (expected : PyVal) : Prop :=
  ∃ value, item = read value ∧ matches_ value expected = .ok true

def IsRead (item : StatusItem) : Prop := ∃ value, item = read value

/-- A text never counts as a number. -/
theorem coerceInt_stored {item : StatusItem} : coerceInt item.stored = .ok (some i) ↔ item.ReadsNumber i := by
  cases item with
  | read value => simp [stored, ReadsNumber]
  | failed code text known => simp [stored, ReadsNumber, coerceInt, int?_errorValue known]

/-- A text matches exactly the flag that is true. -/
theorem matches_stored_failed (known : ERROR_CODES code = some text) (expected : PyVal) :
    matches_ (stored (failed code text known)) expected = .ok true ↔ expected = .bool true := by
  by_cases flag : ∃ b, expected = .bool b
  · obtain ⟨b, rfl⟩ := flag
    simp [stored, matches_, truthy_errorValue known]
  · have noNumber : coerceInt (stored (failed code text known)) = .ok none := by
      simp [stored, coerceInt, int?_errorValue known]
    rw [matches_number fun b same => flag ⟨b, same⟩, noNumber]
    constructor
    · intro matched
      cases number : expected.int? with
      | error e => simp [number, Bind.bind, Except.bind] at matched
      | ok expectedNum => simp [number, Bind.bind, Except.bind, pure, Except.pure] at matched
    · rintro rfl
      exact absurd ⟨true, rfl⟩ flag

theorem matches_stored {item : StatusItem} :
    matches_ item.stored expected = .ok true ↔ item.ReadsAs expected ∨ ¬ item.IsRead ∧ expected = .bool true := by
  cases item with
  | read value => simp [stored, ReadsAs, IsRead]
  | failed code text known => simp [matches_stored_failed known, ReadsAs, IsRead]

end StatusItem

/-- The dictionary that a sum read of the symbols returns. -/
structure StatusReading (symbols : List String) where
  values : OrderedDict String PyVal
  item : String → StatusItem
  stored : ∀ symbol ∈ symbols, values.get? symbol = some (item symbol).stored

/-- The reading with these items. -/
def StatusReading.ofItems (symbols : List String) (item : String → StatusItem) : StatusReading symbols where
  values := (OrderedDict.fromKeys symbols PyVal.none).setAll (symbols.map fun symbol => (symbol, (item symbol).stored))
  item := item
  stored symbol member := by
    rw [OrderedDict.get?_setAll, ← List.map_reverse,
      OrderedDict.lookup_map (List.mem_reverse.mpr member) fun symbol => (item symbol).stored, Option.some_or]

/-- A sum read returns such a dictionary, whose entries are errors exactly for
the items with a status. -/
theorem exists_reading {replies : List ItemReply} (found : dataNames.mapM (symbolOf dataSymbols) = .ok symbols)
    (whole : List.Forall₂ (fun symbol reply => reply.data.length = symbol.size.toNat) symbols replies)
    (holds : ∀ item ∈ dataNames.zip symbols, HoldsElement (item.1 ∈ structuredDataNames) item.2)
    (returned : adsSumRead (fun _ => .ok (sumReply replies)) dataNames dataSymbols structuredDataNames = .ok result) :
    ∃ reading : StatusReading dataNames, reading.values = result ∧
      ∀ name ∈ dataNames, ∃ symbol reply, ((name, symbol), reply) ∈ (dataNames.zip symbols).zip replies ∧
        ((reading.item name).IsRead ↔ reply.status = 0) := by
  obtain ⟨values, read, rfl⟩ := (adsSumRead_replies found whole holds).mp returned
  have items := Fallible.mapM_eq_ok.mp read
  have each : ∀ name ∈ dataNames, ∃ item : StatusItem,
      ((OrderedDict.fromKeys dataNames PyVal.none).setAll (dataNames.zip values)).get? name = some item.stored ∧
        ∃ symbol reply, ((name, symbol), reply) ∈ (dataNames.zip symbols).zip replies ∧
          (item.IsRead ↔ reply.status = 0) := by
    intro name member
    have length := (Fallible.mapM_eq_ok.mp found).length_eq
    have names : ((dataNames.zip symbols).zip replies).map (·.1.1) = dataNames := by
      change ((dataNames.zip symbols).zip replies).map (Prod.fst ∘ Prod.fst) = _
      rw [← List.map_map, List.map_fst_zip (by simp [length, whole.length_eq]), List.map_fst_zip length.le]
    have zipped : dataNames.zip values =
        (((dataNames.zip symbols).zip replies).zip values).map fun entry => (entry.1.1.1, entry.2) := by
      conv_lhs => rw [← names]
      rw [List.zip_map_left]
      rfl
    obtain ⟨value, last⟩ : ∃ value, OrderedDict.lookup name (dataNames.zip values).reverse = some value := by
      rw [← Option.ne_none_iff_exists', ne_eq, OrderedDict.lookup_eq_none_iff, not_not, List.map_reverse,
        List.mem_reverse, List.map_fst_zip (by rw [← items.length_eq]; simp [length, whole.length_eq])]
      exact member
    have entry := OrderedDict.mem_of_lookup last
    rw [List.mem_reverse, zipped, List.mem_map] at entry
    obtain ⟨⟨⟨⟨_, symbol⟩, reply⟩, _⟩, held, same⟩ := entry
    obtain ⟨rfl, rfl⟩ := Prod.mk.inj same
    have own := (List.forall₂_iff_zip.mp items).2 held
    have source := List.of_mem_zip held
    rw [OrderedDict.get?_setAll, last, Option.some_or]
    by_cases status : reply.status = 0
    · exact ⟨.read _, rfl, symbol, reply, source.1, by simp [StatusItem.IsRead, status]⟩
    · rw [itemResult, if_pos status, errorText_eq_ok] at own
      obtain ⟨text, known, rfl⟩ := own
      exact ⟨.failed _ text known, rfl, symbol, reply, source.1, by simp [StatusItem.IsRead, status]⟩
  choose! item stored source using each
  exact ⟨⟨_, item, stored⟩, rfl, source⟩

namespace StepChainObject
variable {obj : StepChainObject}

theorem mem_joinSymbol {symbols : List String} (member : symbol ∈ symbols) (joined : Option String) :
    symbol ∈ joinSymbol symbols joined := by
  cases joined with
  | none => exact member
  | some other => exact OrderedDict.mem_addKey.mpr (.inl member)

theorem mem_foldl_joinSymbol {symbols : List String} (member : symbol ∈ symbols) (joined : List (Option String)) :
    symbol ∈ joined.foldl joinSymbol symbols := by
  induction joined generalizing symbols with
  | nil => exact member
  | cons first rest ih => exact ih (mem_joinSymbol member first)

theorem request_mem : obj.statusSymbols.request ∈ obj.statusSymbolsForRead :=
  mem_foldl_joinSymbol (by simp) _

theorem done_mem : obj.statusSymbols.done ∈ obj.statusSymbolsForRead :=
  mem_foldl_joinSymbol (by simp) _

theorem error_mem : obj.statusSymbols.error ∈ obj.statusSymbolsForRead := by
  rw [statusSymbolsForRead, List.foldl_cons, List.foldl_cons]
  exact mem_foldl_joinSymbol (OrderedDict.mem_addKey.mpr (.inr rfl)) _

theorem errorCode_mem (configured : obj.statusSymbols.errorCode = some symbol) :
    symbol ∈ obj.statusSymbolsForRead := by
  rw [statusSymbolsForRead, List.foldl_cons, List.foldl_cons, List.foldl_cons, configured]
  exact mem_foldl_joinSymbol (OrderedDict.mem_addKey.mpr (.inr rfl)) _

/-- Completion and failure are only reported on the word of items that were
read. -/
structure Reliable (obj : StepChainObject) (reading : StatusReading obj.statusSymbolsForRead)
    (methodName : String) (requestId : Int) : Prop where
  completed : obj.isCompleted reading.values methodName requestId = .ok true →
    (reading.item obj.statusSymbols.request).ReadsNumber requestId ∧
      (reading.item obj.statusSymbols.done).ReadsAs obj.cfg.doneValue
  failed : (∃ method request code,
      obj.isCompleted reading.values methodName requestId = .error (.failed method request code)) →
    (reading.item obj.statusSymbols.error).ReadsAs obj.cfg.errorValue

/-- No failed item stands where a true flag is expected, unless the request is
another one, or the error flag was read and decides before the done flag. -/
def FlagsRead (obj : StepChainObject) (reading : StatusReading obj.statusSymbolsForRead) (requestId : Int) : Prop :=
  (reading.item obj.statusSymbols.request).ReadsNumber requestId →
    ((reading.item obj.statusSymbols.error).IsRead ∨ obj.cfg.errorValue ≠ .bool true) ∧
      ((reading.item obj.statusSymbols.done).IsRead ∨ obj.cfg.doneValue ≠ .bool true ∨
        matches_ (reading.item obj.statusSymbols.error).stored obj.cfg.errorValue ≠ .ok false)

theorem statusValue_eq {reading : StatusReading obj.statusSymbolsForRead}
    (member : symbol ∈ obj.statusSymbolsForRead) :
    statusValue reading.values symbol = (reading.item symbol).stored := by
  rw [statusValue, reading.stored symbol member, Option.getD_some]

theorem completed_iff {reading : StatusReading obj.statusSymbolsForRead} :
    obj.isCompleted reading.values methodName requestId = .ok true ↔
      (reading.item obj.statusSymbols.request).ReadsNumber requestId ∧
        matches_ (reading.item obj.statusSymbols.error).stored obj.cfg.errorValue = .ok false ∧
          ((reading.item obj.statusSymbols.done).ReadsAs obj.cfg.doneValue ∨
            ¬ (reading.item obj.statusSymbols.done).IsRead ∧ obj.cfg.doneValue = .bool true) := by
  rw [isCompleted_eq_true_iff, statusValue_eq request_mem, statusValue_eq error_mem, statusValue_eq done_mem,
    StatusItem.coerceInt_stored, StatusItem.matches_stored]

theorem failed_iff {reading : StatusReading obj.statusSymbolsForRead} :
    (∃ method request code,
        obj.isCompleted reading.values methodName requestId = .error (.failed method request code)) ↔
      (reading.item obj.statusSymbols.request).ReadsNumber requestId ∧
        ((reading.item obj.statusSymbols.error).ReadsAs obj.cfg.errorValue ∨
          ¬ (reading.item obj.statusSymbols.error).IsRead ∧ obj.cfg.errorValue = .bool true) := by
  rw [isCompleted_failed_iff, statusValue_eq request_mem, statusValue_eq error_mem, StatusItem.coerceInt_stored,
    StatusItem.matches_stored]

/-- A text where a true flag is expected is taken for the flag. -/
theorem Reliable.flagsRead {reading : StatusReading obj.statusSymbolsForRead}
    (reliable : Reliable obj reading methodName requestId) : FlagsRead obj reading requestId := by
  intro current
  constructor
  · by_contra unread
    rw [not_or, not_not] at unread
    obtain ⟨value, same, _⟩ := reliable.failed (failed_iff.mpr ⟨current, .inr unread⟩)
    exact unread.1 ⟨value, same⟩
  · by_contra unread
    rw [not_or, not_or, not_not, not_not] at unread
    obtain ⟨noDone, expected, noError⟩ := unread
    obtain ⟨_, value, same, _⟩ := reliable.completed (completed_iff.mpr ⟨current, noError, .inr ⟨noDone, expected⟩⟩)
    exact noDone ⟨value, same⟩

theorem FlagsRead.reliable {reading : StatusReading obj.statusSymbolsForRead}
    (flagsRead : FlagsRead obj reading requestId) : Reliable obj reading methodName requestId := by
  constructor
  · intro reported
    obtain ⟨current, noError, done⟩ := completed_iff.mp reported
    refine ⟨current, ?_⟩
    rcases done with read | ⟨unread, expected⟩
    · exact read
    · rcases (flagsRead current).2 with read | other | decided
      · exact absurd read unread
      · exact absurd expected other
      · exact absurd noError decided
  · intro reported
    obtain ⟨current, error⟩ := failed_iff.mp reported
    rcases error with read | ⟨unread, expected⟩
    · exact read
    · rcases (flagsRead current).1 with read | other
      · exact absurd read unread
      · exact absurd expected other

/-- The status check is reliable exactly when no failed item stands where a
true flag is expected. -/
theorem reliable_iff (obj : StepChainObject) (reading : StatusReading obj.statusSymbolsForRead)
    (methodName : String) (requestId : Int) :
    Reliable obj reading methodName requestId ↔ FlagsRead obj reading requestId :=
  ⟨Reliable.flagsRead, FlagsRead.reliable⟩

/-- The default configuration, the done flag not read: the text of its error is
taken for the flag, and the request for completed. -/
theorem unread_done_completes :
    ¬ ∀ (obj : StepChainObject) (reading : StatusReading obj.statusSymbolsForRead) (methodName : String)
      (requestId : Int), Reliable obj reading methodName requestId := by
  intro reliable
  have known : ERROR_CODES 1799 = some "device is not in a ready state" := by decide +kernel
  let obj : StepChainObject := { objectName := "GVL.fbStepChain" }
  let item : String → StatusItem := fun symbol =>
    if symbol = "GVL.fbStepChain.stStepStatus.udiRequestId" then .read (.int 7)
    else if symbol = "GVL.fbStepChain.stStepStatus.xDone" then .failed 1799 "device is not in a ready state" known
    else .read (.bool false)
  have flagsRead := (reliable obj (.ofItems _ item) "m_xStartStepChain" 7).flagsRead
  have current : (item obj.statusSymbols.request).ReadsNumber 7 := ⟨.int 7, rfl, rfl⟩
  rcases (flagsRead current).2 with ⟨value, read⟩ | other | decided
  · cases read
  · exact other rfl
  · exact decided rfl

end StepChainObject

end PyAds
