import PyAds.Numerals
import PyAds.StepChain

/-! Interfaces of remote methods, resolved from the attributes of a class. The
definition is stored as an attribute of the class, and looked up like any other
attribute: a class finds the definition of a base class that was resolved before
it. -/
namespace PyAds

inductive InterfaceError where
  | typeError (text : String)
  | valueError (text : String)
  | overflowError
  deriving DecidableEq, Repr

/-! ## Classes -/

/-- An evaluated annotation: a class, or an `Awaitable`, a `Future` or a
`StepChainOperation` with its first argument if that is a class. -/
inductive TypeHint (τ : Type) where
  | class_ (type : τ)
  | transport (argument : Option τ)
  | other
  deriving DecidableEq, Repr

/-- A parameter of a signature; `*args` and `**kwargs` are variadic. -/
structure Parameter where
  name : String
  variadic : Bool
  deriving DecidableEq, Repr

/-- A function of a class body; its hints are empty if they cannot be evaluated. -/
structure MethodFunction (τ : Type) where
  parameters : List Parameter
  hints : List (String × TypeHint τ)
  stepchainStart : Bool
  deriving DecidableEq, Repr

/-- An attribute of a class. Static and class methods are the functions that
they wrap. -/
inductive Attribute (τ : Type) where
  | function (f : MethodFunction τ)
  | none
  | bool (b : Bool)
  | int (i : Int)
  | float (bits : Nat)
  | str (text : String)
  | other
  deriving DecidableEq, Repr

/-- Classes by their names, `__mro__` behind the class itself, and `__dict__`. -/
structure InterfaceClasses (κ τ : Type) where
  name : κ → String
  ancestors : κ → List κ
  attributes : κ → OrderedDict String (Attribute τ)
  stepChainRpcInterface : κ

structure RpcInterfaceDefinition (τ : Type) where
  objectName : String
  methodReturnTypes : List (String × τ)
  methodParameters : List (String × List τ)
  methodArgumentNames : List (String × List String)
  stepchainMethods : List String
  asyncInterface : Bool
  stepchainConfig : Option StepChainConfig

/-! ## Methods -/

/-- `_coerce_plc_type` of an annotation that may be missing. -/
def coercePlcType : Option (TypeHint τ) → Option τ
  | some (.class_ type) => some type
  | some (.transport argument) => argument
  | some .other | none => none

namespace MethodFunction

def hint (f : MethodFunction τ) (name : String) : Option (TypeHint τ) := OrderedDict.lookup name f.hints

def ownParameters (f : MethodFunction τ) : List Parameter := f.parameters.filter (·.name ≠ "self")

/-- `_extract_parameter_types` -/
def parameterTypes (f : MethodFunction τ) : Option (List τ) :=
  f.ownParameters.mapM fun parameter =>
    if parameter.variadic then none else coercePlcType (f.hint parameter.name)

/-- `_extract_argument_names` -/
def argumentNames (f : MethodFunction τ) : List String :=
  if f.ownParameters.any (·.variadic) then [] else f.ownParameters.map (·.name)

def returnType (f : MethodFunction τ) : Option τ := coercePlcType (f.hint "return")

end MethodFunction

/-! ## Attributes -/

namespace Attribute

/-- `bool(value)` -/
def truthy : Attribute τ → Bool
  | .none => false
  | .bool b => b
  | .int i => i != 0
  | .float bits => bits % 2 ^ 63 != 0
  | .str text => text != ""
  | .function _ | .other => true

def toPyVal : Attribute τ → Option PyVal
  | .none => some .none
  | .bool b => some (.bool b)
  | .int i => some (.int i)
  | .float bits => some (.float bits)
  | .str text => some (.str (Text.ofChars text.toList))
  | .function _ | .other => Option.none

end Attribute

/-- The whitespace that `str.strip` removes. -/
def isStripSpace (c : Char) : Bool :=
  (9 ≤ c.toNat && c.toNat ≤ 13) || (28 ≤ c.toNat && c.toNat ≤ 32) || isUnicodeSpace c.toNat

/-- `text.strip()` -/
def strip (text : String) : String :=
  String.ofList (((text.toList.dropWhile isStripSpace).reverse.dropWhile isStripSpace).reverse)

/-- A string that is not blank, stripped. -/
def nonBlank : Attribute τ → Option String
  | .str text => if strip text = "" then none else some (strip text)
  | _ => none

/-- One of the attributes that must be a string. -/
def requireText (attributeName : String) (value : Attribute τ) : Except InterfaceError String :=
  match nonBlank value with
  | some text => .ok text
  | none => .error (.valueError s!"StepChainRpcInterface.{attributeName} must be a non-empty string.")

/-- One of the attributes that may be `None` instead. -/
def optionalText (attributeName : String) (value : Attribute τ) : Except InterfaceError (Option String) :=
  match value with
  | .none => .ok none
  | value =>
    match nonBlank value with
    | some text => .ok (some text)
    | none => .error (.valueError s!"StepChainRpcInterface.{attributeName} must be a non-empty string when set.")

/-- `float(bits) <= 0`, which is false for NaN. -/
def notPositive (bits : Nat) : Bool :=
  bits % 2 ^ 63 = 0 || (bits / 2 ^ 63 % 2 = 1 && bits % 2 ^ 63 ≤ 2047 * 2 ^ 52)

/-- One of the times, as a `float`. -/
def positiveTime (complaint : String) (value : Attribute τ) : Except InterfaceError Nat :=
  match value with
  | .float bits => if notPositive bits then .error (.valueError complaint) else .ok bits
  | .int i => integral i
  | .bool b => integral (if b then 1 else 0)
  | _ => .error (.valueError complaint)
where
  integral (i : Int) : Except InterfaceError Nat :=
    match binary64OfInt i with
    | some bits => if notPositive bits then .error (.valueError complaint) else .ok bits
    | none => .error .overflowError

/-- The length of the step name; a `bool` is an integer. -/
def positiveLength (value : Attribute τ) : Except InterfaceError Int :=
  match value.toPyVal.bind PyVal.asInt? with
  | some i =>
    if i ≤ 0 then .error (.valueError "StepChainRpcInterface.__stepchain_step_name_length__ must be > 0.")
    else .ok i
  | none => .error (.valueError "StepChainRpcInterface.__stepchain_step_name_length__ must be > 0.")

def completionMode (value : Attribute τ) : Except InterfaceError String :=
  match value with
  | .str text =>
    if text = "poll" ∨ text = "notify" then .ok text
    else .error (.valueError
      "StepChainRpcInterface.__stepchain_completion__ must be either 'poll' or 'notify'.")
  | _ => .error (.valueError
      "StepChainRpcInterface.__stepchain_completion__ must be either 'poll' or 'notify'.")

/-! ## Resolution -/

namespace InterfaceClasses
variable {κ τ : Type}

section Source
variable (classes : InterfaceClasses κ τ)

def mro (c : κ) : List κ := c :: classes.ancestors c

/-- `getattr(interface, name, default)` -/
def getAttribute (c : κ) (attributeName : String) (default : Attribute τ) : Attribute τ :=
  ((classes.mro c).findSome? fun d => (classes.attributes d).get? attributeName).getD default

/-- `__ads_path__`, stripped. -/
def objectName (c : κ) : Option String := nonBlank (classes.getAttribute c "__ads_path__" .none)

/-- The functions of the class itself whose names do not begin with an
underscore. -/
def methods (c : κ) : List (String × MethodFunction τ) :=
  (classes.attributes c).entries.filterMap fun entry =>
    match entry.2 with
    | .function f => if entry.1.startsWith "_" then none else some (entry.1, f)
    | _ => none

def methodReturnTypes (c : κ) : List (String × τ) :=
  (classes.methods c).filterMap fun entry => entry.2.returnType.map (entry.1, ·)

def methodParameters (c : κ) : List (String × List τ) :=
  (classes.methods c).filterMap fun entry => entry.2.parameterTypes.map (entry.1, ·)

def methodArgumentNames (c : κ) : List (String × List String) :=
  (classes.methods c).map fun entry => (entry.1, entry.2.argumentNames)

def stepchainMethods (c : κ) : List String :=
  ((classes.methods c).filter (·.2.stepchainStart)).map (·.1)

/-- `__ads_async__` -/
def asyncInterface (c : κ) : Bool := (classes.getAttribute c "__ads_async__" (.bool false)).truthy

section
variable [DecidableEq κ]

/-- `_resolve_stepchain_config` -/
def resolveStepchainConfig (c : κ) : Except InterfaceError (Option StepChainConfig) :=
  if classes.stepchainMethods c = [] then .ok none
  else if classes.stepChainRpcInterface ∉ classes.mro c then
    .error (.typeError (classes.name c ++
      " declares @stepchain_start methods and must inherit from StepChainRpcInterface."))
  else do
    let get := classes.getAttribute c
    let statusSymbol ← optionalText "__stepchain_status_symbol__" (get "__stepchain_status_symbol__" .none)
    let statusField ← requireText "__stepchain_status_field__"
      (get "__stepchain_status_field__" (.str "stStepStatus"))
    let requestIdField ← requireText "__stepchain_request_id_field__"
      (get "__stepchain_request_id_field__" (.str "udiRequestId"))
    let requestIdArg ← requireText "__stepchain_request_id_arg__"
      (get "__stepchain_request_id_arg__" (.str "udiRequestId"))
    let busyField ← optionalText "__stepchain_busy_field__" (get "__stepchain_busy_field__" (.str "xBusy"))
    let doneField ← requireText "__stepchain_done_field__" (get "__stepchain_done_field__" (.str "xDone"))
    let errorField ← requireText "__stepchain_error_field__" (get "__stepchain_error_field__" (.str "xError"))
    let errorCodeField ← requireText "__stepchain_error_code_field__"
      (get "__stepchain_error_code_field__" (.str "diErrorCode"))
    let stepField ← optionalText "__stepchain_step_field__" (get "__stepchain_step_field__" (.str "udiStep"))
    let stepNameField ← optionalText "__stepchain_step_name_field__"
      (get "__stepchain_step_name_field__" (.str "sStepName"))
    let stepNameLength ← positiveLength (get "__stepchain_step_name_length__" (.int 80))
    let completion ← completionMode (get "__stepchain_completion__" (.str "poll"))
    let pollInterval ← positiveTime "StepChainRpcInterface.__stepchain_poll_interval__ must be > 0."
      (get "__stepchain_poll_interval__" (.float 0x3FA999999999999A))
    let timeout ←
      match get "__stepchain_timeout_s__" .none with
      | .none => pure none
      | value =>
        some <$> positiveTime "StepChainRpcInterface.__stepchain_timeout_s__ must be > 0 when set." value
    return some
      { statusSymbol, statusField, requestIdField, requestIdArg, busyField, doneField,
        doneValue := (get "__stepchain_done_value__" (.bool true)).toPyVal.getD .none
        errorField
        errorValue := (get "__stepchain_error_value__" (.bool true)).toPyVal.getD .none
        errorCodeField, stepField, stepNameField, stepNameLength, completion, pollInterval, timeout }

section
variable (setOrder : List String → List String)

/-- `resolve_rpc_interface_definition` where no definition is found in the
class: the attributes are evaluated. A set of names is iterated in the order
of its hashes. -/
def evaluate (c : κ) : Except InterfaceError (RpcInterfaceDefinition τ) := do
  let some objectName := classes.objectName c
    | throw (.typeError (classes.name c ++
        " must be decorated with @ads_path('...') before passing it to Connection.get_object()."))
  if classes.stepchainMethods c ≠ [] ∧ classes.asyncInterface c = false then
    throw (.typeError (classes.name c ++
      " declares @stepchain_start methods and must be decorated with @ads_async_path('...')."))
  match (setOrder (classes.stepchainMethods c)).find? fun methodName =>
      methodName ∉ (classes.methodReturnTypes c).map Prod.fst with
  | some methodName =>
    throw (.typeError (classes.name c ++ "." ++ methodName ++ " must return StepChainOperation[PLCTYPE_*]."))
  | none =>
    let stepchainConfig ← classes.resolveStepchainConfig c
    return {
      objectName
      methodReturnTypes := classes.methodReturnTypes c
      methodParameters := classes.methodParameters c
      methodArgumentNames := classes.methodArgumentNames c
      stepchainMethods := classes.stepchainMethods c
      asyncInterface := classes.asyncInterface c
      stepchainConfig }

/-- `__pyads_rpc_definition__` in the `__dict__` of each class. -/
abbrev Definitions (κ τ : Type) := κ → Option (RpcInterfaceDefinition τ)

def noDefinitions : Definitions κ τ := fun _ => none

/-- `resolve_rpc_interface_definition` -/
def resolve (definitions : Definitions κ τ) (c : κ) :
    Except InterfaceError (RpcInterfaceDefinition τ) × Definitions κ τ :=
  match (classes.mro c).findSome? definitions with
  | some definition => (.ok definition, definitions)
  | none =>
    match classes.evaluate setOrder c with
    | .ok definition => (.ok definition, Function.update definitions c (some definition))
    | .error e => (.error e, definitions)

/-- The definitions after the classes were resolved in this order. -/
def definitionsAfter (calls : List κ) : Definitions κ τ :=
  calls.foldl (fun definitions c => (classes.resolve setOrder definitions c).2) noDefinitions

end
end
end Source

/-! ## Definitions found in base classes -/

section
variable [DecidableEq κ] {classes : InterfaceClasses κ τ} {setOrder : List String → List String}

/-- Both classes are declared with the same path, the same methods of their own
and the same configuration. -/
structure SameInterface (classes : InterfaceClasses κ τ) (d c : κ) : Prop where
  objectName : classes.objectName d = classes.objectName c
  methodReturnTypes : classes.methodReturnTypes d = classes.methodReturnTypes c
  methodParameters : classes.methodParameters d = classes.methodParameters c
  methodArgumentNames : classes.methodArgumentNames d = classes.methodArgumentNames c
  stepchainMethods : classes.stepchainMethods d = classes.stepchainMethods c
  asyncInterface : classes.asyncInterface d = classes.asyncInterface c
  stepchainConfig : classes.resolveStepchainConfig d = classes.resolveStepchainConfig c

/-- A class has a definition if its attributes pass the checks, and the
definition consists of what the attributes say. -/
theorem evaluate_eq_ok_iff : classes.evaluate setOrder c = .ok definition ↔
    classes.objectName c = some definition.objectName ∧
      ¬ (classes.stepchainMethods c ≠ [] ∧ classes.asyncInterface c = false) ∧
      ((setOrder (classes.stepchainMethods c)).find? fun methodName =>
        methodName ∉ (classes.methodReturnTypes c).map Prod.fst) = none ∧
      classes.resolveStepchainConfig c = .ok definition.stepchainConfig ∧
      classes.methodReturnTypes c = definition.methodReturnTypes ∧
      classes.methodParameters c = definition.methodParameters ∧
      classes.methodArgumentNames c = definition.methodArgumentNames ∧
      classes.stepchainMethods c = definition.stepchainMethods ∧
      classes.asyncInterface c = definition.asyncInterface := by
  unfold evaluate
  cases path : classes.objectName c with
  | none => simp [throw, throwThe, MonadExceptOf.throw]
  | some objectName =>
    by_cases plain : classes.stepchainMethods c ≠ [] ∧ classes.asyncInterface c = false
    · simp [plain, throw, throwThe, MonadExceptOf.throw, Bind.bind, Except.bind]
    · cases untyped : (setOrder (classes.stepchainMethods c)).find? fun methodName =>
          methodName ∉ (classes.methodReturnTypes c).map Prod.fst with
      | some methodName => simp [plain, throw, throwThe, MonadExceptOf.throw]
      | none =>
        cases config : classes.resolveStepchainConfig c with
        | error e => simp [plain, Bind.bind, Except.bind]
        | ok stepchainConfig =>
          obtain ⟨name, returnTypes, parameters, argumentNames, stepchain, async, own⟩ := definition
          simp only [plain, if_false, Bind.bind, Except.bind, pure, Except.pure, Except.ok.injEq,
            RpcInterfaceDefinition.mk.injEq, Option.some.injEq, not_false_eq_true, true_and]
          constructor
          · rintro ⟨rfl, rfl, rfl, rfl, rfl, rfl, rfl⟩
            exact ⟨rfl, rfl, rfl, rfl, rfl, rfl, rfl⟩
          · rintro ⟨rfl, rfl, rfl, rfl, rfl, rfl, rfl⟩
            exact ⟨rfl, rfl, rfl, rfl, rfl, rfl, rfl⟩

/-- Classes with the same interface have the same definition. -/
theorem SameInterface.evaluate (same : SameInterface classes d c)
    (resolved : classes.evaluate setOrder d = .ok definition) : classes.evaluate setOrder c = .ok definition := by
  rw [evaluate_eq_ok_iff] at resolved ⊢
  rw [← same.objectName, ← same.methodReturnTypes, ← same.methodParameters, ← same.methodArgumentNames,
    ← same.stepchainMethods, ← same.asyncInterface, ← same.stepchainConfig]
  exact resolved

/-- The definition determines the interface. -/
theorem sameInterface_of_evaluate (first : classes.evaluate setOrder d = .ok definition)
    (second : classes.evaluate setOrder c = .ok definition) : SameInterface classes d c := by
  obtain ⟨name, -, -, config, returnTypes, parameters, argumentNames, stepchain, async⟩ :=
    evaluate_eq_ok_iff.mp first
  obtain ⟨name', -, -, config', returnTypes', parameters', argumentNames', stepchain', async'⟩ :=
    evaluate_eq_ok_iff.mp second
  exact ⟨name.trans name'.symm, returnTypes.trans returnTypes'.symm, parameters.trans parameters'.symm,
    argumentNames.trans argumentNames'.symm, stepchain.trans stepchain'.symm, async.trans async'.symm,
    config.trans config'.symm⟩

/-! ## Sequences of calls -/

/-- The class is resolved from its attributes if it can be and no class of its
`__mro__` was before. -/
def define (classes : InterfaceClasses κ τ) (setOrder : List String → List String) (defined : List κ) (c : κ) :
    List κ :=
  if (∃ d ∈ classes.mro c, d ∈ defined) ∨ (classes.evaluate setOrder c).isOk = false then defined else c :: defined

/-- The classes that the calls resolve from their attributes. -/
def definers (classes : InterfaceClasses κ τ) (setOrder : List String → List String) (calls : List κ) : List κ :=
  calls.foldl (define classes setOrder) []

/-- Each of these classes has the definition of its own attributes, and no other
class has one. -/
def DefinedAs (classes : InterfaceClasses κ τ) (setOrder : List String → List String) (defined : List κ)
    (definitions : Definitions κ τ) : Prop :=
  ∀ c, (c ∈ defined → ∃ definition, classes.evaluate setOrder c = .ok definition ∧ definitions c = some definition) ∧
    (c ∉ defined → definitions c = none)

theorem DefinedAs.findSome? (held : DefinedAs classes setOrder defined definitions) (candidates : List κ) :
    candidates.findSome? definitions = (candidates.find? (· ∈ defined)).bind definitions := by
  induction candidates with
  | nil => rfl
  | cons c candidates ih =>
    by_cases member : c ∈ defined
    · obtain ⟨definition, _, own⟩ := (held c).1 member
      simp [own, member]
    · have missing := (held c).2 member
      simp [missing, member, ih]

/-- A class that finds no definition is evaluated. -/
theorem resolve_first (held : DefinedAs classes setOrder defined definitions)
    (first : (classes.mro c).find? (· ∈ defined) = none) :
    (classes.resolve setOrder definitions c).1 = classes.evaluate setOrder c := by
  rw [resolve, held.findSome?, first]
  cases classes.evaluate setOrder c <;> rfl

/-- A class that finds a definition gets it. -/
theorem resolve_inherited (held : DefinedAs classes setOrder defined definitions)
    (found : (classes.mro c).find? (· ∈ defined) = some d) :
    classes.resolve setOrder definitions c = (classes.evaluate setOrder d, definitions) := by
  have member : d ∈ defined := by simpa using List.find?_some found
  obtain ⟨definition, evaluated, own⟩ := (held d).1 member
  rw [resolve, held.findSome?, found, Option.bind_some, own, evaluated]

theorem DefinedAs.resolve (held : DefinedAs classes setOrder defined definitions) (c : κ) :
    DefinedAs classes setOrder (define classes setOrder defined c) (classes.resolve setOrder definitions c).2 := by
  cases found : (classes.mro c).find? (· ∈ defined) with
  | some d =>
    have member : ∃ d ∈ classes.mro c, d ∈ defined :=
      ⟨d, List.mem_of_find?_eq_some found, by simpa using List.find?_some found⟩
    rw [resolve_inherited held found, define, if_pos (.inl member)]
    exact held
  | none =>
    have nowhere : ¬ ∃ d ∈ classes.mro c, d ∈ defined := by simpa using found
    rw [InterfaceClasses.resolve, held.findSome?, found, Option.bind_none]
    cases evaluated : classes.evaluate setOrder c with
    | error e =>
      rw [define, if_pos (.inr (by rw [evaluated]; rfl))]
      exact held
    | ok definition =>
      rw [define, if_neg (by simp [nowhere, evaluated, Except.isOk, Except.toBool])]
      intro other
      by_cases same : other = c
      · subst same
        simp [evaluated]
      · simpa [Function.update_of_ne same, same] using held other

theorem definedAs_noDefinitions : DefinedAs classes setOrder [] noDefinitions :=
  fun _ => ⟨fun member => absurd member List.not_mem_nil, fun _ => rfl⟩

theorem definedAs_definitionsAfter (calls : List κ) :
    DefinedAs classes setOrder (definers classes setOrder calls) (classes.definitionsAfter setOrder calls) := by
  have run : ∀ (calls defined : List κ) (definitions : Definitions κ τ),
      DefinedAs classes setOrder defined definitions →
      DefinedAs classes setOrder (calls.foldl (define classes setOrder) defined)
        (calls.foldl (fun definitions c => (classes.resolve setOrder definitions c).2) definitions) := by
    intro calls
    induction calls with
    | nil => exact fun _ _ held => held
    | cons c calls ih => exact fun _ _ held => ih _ _ (held.resolve c)
  exact run calls [] noDefinitions definedAs_noDefinitions

theorem resolve_alone (c : κ) :
    (classes.resolve setOrder noDefinitions c).1 = classes.evaluate setOrder c :=
  resolve_first definedAs_noDefinitions (by simp)

end

/-- Resolving a class after other classes gives what resolving it first gives
exactly if the class in which it finds a definition is declared with the same
interface. -/
theorem resolve_after_iff [DecidableEq κ] (classes : InterfaceClasses κ τ) (setOrder : List String → List String)
    (calls : List κ) (c : κ) :
    (classes.resolve setOrder (classes.definitionsAfter setOrder calls) c).1 =
        (classes.resolve setOrder noDefinitions c).1 ↔
      ∀ d, (classes.mro c).find? (· ∈ definers classes setOrder calls) = some d → SameInterface classes d c := by
  have held : DefinedAs classes setOrder _ _ := definedAs_definitionsAfter calls
  rw [resolve_alone]
  cases found : (classes.mro c).find? (· ∈ definers classes setOrder calls) with
  | none => simp [resolve_first held found]
  | some d =>
    have member : d ∈ definers classes setOrder calls := by simpa using List.find?_some found
    obtain ⟨definition, evaluated, _⟩ := (held d).1 member
    rw [resolve_inherited held found, evaluated]
    constructor
    · rintro alike _ ⟨⟩
      exact sameInterface_of_evaluate evaluated alike.symm
    · intro same
      exact ((same d rfl).evaluate evaluated).symm

inductive PumpClass where
  | stepChainRpcInterface
  | pump
  | dosingPump
  deriving DecidableEq

/-- An interface and an extension of it, each with its own path. -/
def pumpClasses : InterfaceClasses PumpClass Unit where
  name
    | .stepChainRpcInterface => "StepChainRpcInterface"
    | .pump => "FB_Pump"
    | .dosingPump => "FB_DosingPump"
  ancestors
    | .dosingPump => [.pump]
    | _ => []
  attributes
    | .stepChainRpcInterface => .empty
    | .pump => OrderedDict.empty.set "__ads_path__" (.str "GVL.fbPump")
    | .dosingPump => OrderedDict.empty.set "__ads_path__" (.str "GVL.fbDosingPump")
  stepChainRpcInterface := .stepChainRpcInterface

/-- After its base class, an interface is resolved to the path of the base
class. -/
theorem resolve_depends_on_order :
    ¬ ∀ (classes : InterfaceClasses PumpClass Unit) (setOrder : List String → List String)
      (calls : List PumpClass) (c : PumpClass),
      (classes.resolve setOrder (classes.definitionsAfter setOrder calls) c).1 =
        (classes.resolve setOrder noDefinitions c).1 := by
  intro alike
  have paths := congrArg (fun result => result.toOption.map RpcInterfaceDefinition.objectName)
    (alike pumpClasses id [.pump] .dosingPump)
  revert paths
  decide +kernel
end InterfaceClasses

end PyAds
