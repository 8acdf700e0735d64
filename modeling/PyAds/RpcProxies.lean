import PyAds.Base.Runs
import PyAds.MethodNames
import PyAds.RpcInterface

/-! Proxies for remote objects. An asynchronous proxy wraps a synchronous one,
and both functions that create them resolve the interface and merge its types
with those of the caller. -/
namespace PyAds
open Fallible

/-- `object_name`: the name of an object, an interface class, or something else. -/
inductive ObjectName (κ : Type) where
  | text (name : String)
  | class_ (c : κ)
  | other

/-- The other arguments; a missing dictionary counts as an empty one. -/
structure ProxySettings where
  methodSeparator : String := "#"
  methodPrefixes : List String := ["", "m_"]
  methodReturnTypes : OrderedDict String PlcDataType := .empty
  methodParameters : OrderedDict String (List PlcDataType) := .empty

/-- An `RpcObject` with the types of its parameters. -/
structure RpcProxy where
  object : RpcObject
  methodParameters : OrderedDict String (List PlcDataType)

/-- `AsyncRpcObject`, `AsyncStepChainRpcObject` or `AsyncNotifyStepChainRpcObject` -/
inductive AsyncProxy where
  | plain (rpcObject : RpcProxy)
  | stepchain (notify : Bool) (rpcObject : RpcProxy) (methodArgumentNames : List (String × List String))
      (stepchainMethods : List String) (chain : StepChainObject)

/-- `RpcObject.__init__` -/
def RpcProxy.new (objectName : String) (settings : ProxySettings) : RpcProxy where
  object := ⟨objectName, settings.methodSeparator, settings.methodPrefixes, settings.methodReturnTypes, .empty⟩
  methodParameters := RpcObject.initialParameters settings.methodReturnTypes settings.methodParameters

namespace RpcInterfaceDefinition

/-- The types of an interface, overridden by those of the caller. -/
def merge (definition : RpcInterfaceDefinition PlcDataType) (settings : ProxySettings) : ProxySettings :=
  { settings with
    methodReturnTypes := (OrderedDict.empty.setAll definition.methodReturnTypes).update settings.methodReturnTypes
    methodParameters := (OrderedDict.empty.setAll definition.methodParameters).update settings.methodParameters }

/-- The proxy of an interface. -/
def proxy (definition : RpcInterfaceDefinition PlcDataType) (settings : ProxySettings) : RpcProxy :=
  .new definition.objectName (definition.merge settings)

/-- The proxy that `get_async_object` makes of a synchronous one. -/
def wrap (definition : RpcInterfaceDefinition PlcDataType) (rpcObject : RpcProxy) : AsyncProxy :=
  match definition.stepchainConfig with
  | none => .plain rpcObject
  | some cfg => .stepchain (cfg.completion = "notify") rpcObject definition.methodArgumentNames
      definition.stepchainMethods ⟨definition.objectName, cfg⟩

end RpcInterfaceDefinition

namespace InterfaceClasses
variable {κ : Type} [DecidableEq κ] (classes : InterfaceClasses κ PlcDataType) (setOrder : List String → List String)

/-- What `get_object` raises for an asynchronous interface. -/
def asyncOnly (c : κ) : InterfaceError :=
  .typeError (classes.name c ++ " is decorated with @ads_async_path('...') " ++
    "and must be used with AsyncConnection.get_async_object().")

/-- `Connection.get_object` -/
def getObject (definitions : Definitions κ PlcDataType) (objectName : ObjectName κ) (settings : ProxySettings) :
    Except InterfaceError RpcProxy × Definitions κ PlcDataType :=
  match objectName with
  | .text name => (.ok (.new name settings), definitions)
  | .class_ c =>
    match classes.resolve setOrder definitions c with
    | (.error e, definitions) => (.error e, definitions)
    | (.ok definition, definitions) =>
      if definition.asyncInterface then (.error (classes.asyncOnly c), definitions)
      else if definition.stepchainMethods ≠ [] then
        (.error (.typeError (classes.name c ++ " declares @stepchain_start methods " ++
          "and must be used with AsyncConnection.get_async_object().")), definitions)
      else (.ok (.new definition.objectName (definition.merge settings)), definitions)
  | .other => (.error (.typeError "object_name must be a string or an ads_path-decorated class."), definitions)

/-- `AsyncConnection.get_async_object`; the interface is resolved again by
`get_object` unless it is asynchronous. -/
def getAsyncObject (definitions : Definitions κ PlcDataType) (objectName : ObjectName κ) (settings : ProxySettings) :
    Except InterfaceError AsyncProxy × Definitions κ PlcDataType :=
  match objectName with
  | .class_ c =>
    match classes.resolve setOrder definitions c with
    | (.error e, definitions) => (.error e, definitions)
    | (.ok definition, definitions) =>
      if definition.asyncInterface ∧ definition.objectName = "" then
        (.error (.typeError "Async RPC interface is missing resolved object name metadata."), definitions)
      else
        let syncLookupObject := if definition.asyncInterface then .text definition.objectName else .class_ c
        let (syncRpc, definitions) := classes.getObject setOrder definitions syncLookupObject (definition.merge settings)
        (syncRpc.map definition.wrap, definitions)
  | objectName =>
    let (syncRpc, definitions) := classes.getObject setOrder definitions objectName settings
    (syncRpc.map .plain, definitions)

/-- Calls that resolve interfaces. -/
inductive ProxyCall (κ : Type) where
  | resolve (c : κ)
  | getObject (objectName : ObjectName κ) (settings : ProxySettings)
  | getAsyncObject (objectName : ObjectName κ) (settings : ProxySettings)

def ProxyCall.after (definitions : Definitions κ PlcDataType) : ProxyCall κ → Definitions κ PlcDataType
  | .resolve c => (classes.resolve setOrder definitions c).2
  | .getObject objectName settings => (classes.getObject setOrder definitions objectName settings).2
  | .getAsyncObject objectName settings => (classes.getAsyncObject setOrder definitions objectName settings).2

variable {classes : InterfaceClasses κ PlcDataType} {setOrder : List String → List String}
  {definitions : Definitions κ PlcDataType}

/-! ## Definitions -/

/-- What all definitions have in common: methods that start a step chain belong
to asynchronous interfaces with a configuration, and an object has a name. -/
structure Sound (definition : RpcInterfaceDefinition PlcDataType) : Prop where
  named : definition.objectName ≠ ""
  async : definition.stepchainMethods ≠ [] → definition.asyncInterface = true
  configured : definition.stepchainConfig.isSome = true ↔ definition.stepchainMethods ≠ []

def AllSound (definitions : Definitions κ PlcDataType) : Prop :=
  ∀ c definition, definitions c = some definition → Sound definition

omit [DecidableEq κ] in
theorem objectName_ne {path : String} (named : classes.objectName c = some path) : path ≠ "" := by
  unfold objectName nonBlank at named
  split at named
  · split at named
    · cases named
    · cases named
      assumption
  · cases named

theorem isSome_resolveStepchainConfig (resolved : classes.resolveStepchainConfig c = .ok config) :
    config.isSome = true ↔ classes.stepchainMethods c ≠ [] := by
  unfold resolveStepchainConfig at resolved
  split at resolved
  · rename_i none
    cases resolved
    simp [none]
  · rename_i several
    split at resolved
    · cases resolved
    · iterate 13 obtain ⟨_, -, resolved⟩ := bind_eq_ok.mp resolved
      dsimp only at resolved
      split at resolved
      all_goals
        obtain ⟨_, -, resolved⟩ := bind_eq_ok.mp resolved
        cases resolved
        simp [several]

theorem sound_of_evaluate (evaluated : classes.evaluate setOrder c = .ok definition) : Sound definition := by
  obtain ⟨path, plain, -, config, -, -, -, methods, async⟩ := evaluate_eq_ok_iff.mp evaluated
  rw [methods, async] at plain
  refine ⟨objectName_ne path, fun several => ?_, ?_⟩
  · by_contra sync
    exact plain ⟨several, by simpa using sync⟩
  · rw [← methods]
    exact isSome_resolveStepchainConfig config

theorem AllSound.resolve (classes : InterfaceClasses κ PlcDataType) (setOrder : List String → List String)
    (held : AllSound definitions) (c : κ) : AllSound (classes.resolve setOrder definitions c).2 ∧
    ∀ definition, (classes.resolve setOrder definitions c).1 = .ok definition → Sound definition := by
  unfold InterfaceClasses.resolve
  cases found : (classes.mro c).findSome? definitions with
  | some definition =>
    obtain ⟨d, -, own⟩ := List.exists_of_findSome?_eq_some found
    refine ⟨held, fun other same => ?_⟩
    cases same
    exact held d definition own
  | none =>
    cases evaluated : classes.evaluate setOrder c with
    | error e => exact ⟨held, by simp⟩
    | ok definition =>
      refine ⟨fun d other own => ?_, fun other same => ?_⟩
      · dsimp only at own
        by_cases same : d = c
        · subst same
          rw [Function.update_self] at own
          cases own
          exact sound_of_evaluate evaluated
        · rw [Function.update_of_ne same] at own
          exact held d other own
      · cases same
        exact sound_of_evaluate evaluated

/-- A class that was resolved is found again. -/
theorem resolve_again (resolved : (classes.resolve setOrder definitions c).1 = .ok definition) :
    classes.resolve setOrder (classes.resolve setOrder definitions c).2 c =
      (.ok definition, (classes.resolve setOrder definitions c).2) := by
  unfold InterfaceClasses.resolve at resolved ⊢
  cases found : (classes.mro c).findSome? definitions with
  | some other =>
    rw [found] at resolved
    cases resolved
    dsimp only
    rw [found]
  | none =>
    rw [found] at resolved
    cases evaluated : classes.evaluate setOrder c with
    | error e =>
      rw [evaluated] at resolved
      cases resolved
    | ok other =>
      rw [evaluated] at resolved
      cases resolved
      simp only [mro, List.findSome?_cons, Function.update_self]

/-! ## Merging -/

theorem merge_merge (definition : RpcInterfaceDefinition PlcDataType) (settings : ProxySettings) :
    definition.merge (definition.merge settings) = definition.merge settings := by
  simp only [RpcInterfaceDefinition.merge, OrderedDict.update_update]

theorem wrap_of_plain (sound : Sound definition) (plain : definition.stepchainMethods = []) (rpcObject : RpcProxy) :
    definition.wrap rpcObject = .plain rpcObject := by
  have none : definition.stepchainConfig = none := by
    have missing := mt sound.configured.mp (not_not.mpr plain)
    simpa using missing
  rw [RpcInterfaceDefinition.wrap, none]

/-! ## Proxies -/

section Proxies
variable (sound : AllSound definitions) (c : κ) (settings : ProxySettings)
include sound

/-- `get_object` accepts the interfaces that are not asynchronous. -/
theorem getObject_class : classes.getObject setOrder definitions (.class_ c) settings =
    (match (classes.resolve setOrder definitions c).1 with
      | .error e => .error e
      | .ok definition =>
        if definition.asyncInterface then .error (classes.asyncOnly c) else .ok (definition.proxy settings),
      (classes.resolve setOrder definitions c).2) := by
  obtain ⟨-, own⟩ := sound.resolve classes setOrder c
  cases resolved : classes.resolve setOrder definitions c with
  | mk result later =>
    rw [resolved] at own
    cases result with
    | error e => simp only [getObject, resolved]
    | ok definition =>
      simp only [getObject, resolved]
      cases async : definition.asyncInterface with
      | true => rfl
      | false =>
        have plain : definition.stepchainMethods = [] := by
          by_contra several
          cases async.symm.trans ((own definition rfl).async several)
        simp only [Bool.false_eq_true, ↓reduceIte, plain, ne_eq, not_true_eq_false, RpcInterfaceDefinition.proxy]

/-- `get_async_object` accepts all of them, and merges their types twice. -/
theorem getAsyncObject_class : classes.getAsyncObject setOrder definitions (.class_ c) settings =
    ((classes.resolve setOrder definitions c).1.map fun definition => definition.wrap (definition.proxy settings),
      (classes.resolve setOrder definitions c).2) := by
  obtain ⟨later, own⟩ := sound.resolve classes setOrder c
  cases result : (classes.resolve setOrder definitions c).1 with
  | error e =>
    have resolved : classes.resolve setOrder definitions c = (.error e, (classes.resolve setOrder definitions c).2) :=
      Prod.ext result rfl
    rw [getAsyncObject, resolved]
    rfl
  | ok definition =>
    have resolved : classes.resolve setOrder definitions c =
        (.ok definition, (classes.resolve setOrder definitions c).2) := Prod.ext result rfl
    have named := (own definition result).named
    have again : classes.getObject setOrder _ (.class_ c) (definition.merge settings) = _ :=
      getObject_class later c (definition.merge settings)
    rw [resolve_again result] at again
    rw [getAsyncObject, resolved]
    dsimp only
    cases async : definition.asyncInterface with
    | true =>
      simp only [named, and_false, ↓reduceIte, getObject]
      rfl
    | false =>
      simp only [async, Bool.false_eq_true, ↓reduceIte] at again
      simp only [Bool.false_eq_true, false_and, ↓reduceIte, again, Except.map, RpcInterfaceDefinition.proxy, merge_merge]

theorem AllSound.after (call : ProxyCall κ) : AllSound (call.after classes setOrder definitions) := by
  cases call with
  | resolve c => exact (sound.resolve classes setOrder c).1
  | getObject objectName settings =>
    cases objectName with
    | class_ c =>
      rw [ProxyCall.after, getObject_class sound]
      exact (sound.resolve classes setOrder c).1
    | text name => exact sound
    | other => exact sound
  | getAsyncObject objectName settings =>
    cases objectName with
    | class_ c =>
      rw [ProxyCall.after, getAsyncObject_class sound]
      exact (sound.resolve classes setOrder c).1
    | text name => exact sound
    | other => exact sound

end Proxies

/-- Whatever was resolved before, both functions make the same proxy of an
interface, with the types of the caller in place of its own, or raise the same
error; but an asynchronous interface, and with it each one that starts step
chains, is not for `get_object`. -/
theorem proxies_agree (calls : List (ProxyCall κ)) (c : κ) (settings : ProxySettings) :
    let definitions := calls.foldl (fun definitions call => call.after classes setOrder definitions) noDefinitions
    let resolved := classes.resolve setOrder definitions c
    classes.getAsyncObject setOrder definitions (.class_ c) settings =
        (resolved.1.map fun definition => definition.wrap (definition.proxy settings), resolved.2) ∧
      classes.getObject setOrder definitions (.class_ c) settings =
        (resolved.1.bind fun definition =>
          if definition.asyncInterface then .error (classes.asyncOnly c) else .ok (definition.proxy settings),
          resolved.2) ∧
      ∀ definition, resolved.1 = .ok definition →
        (definition.asyncInterface = false → ∀ rpcObject, definition.wrap rpcObject = .plain rpcObject) ∧
        ∀ methodName, (definition.proxy settings).object.methodReturnTypes.get? methodName =
            (settings.methodReturnTypes.get? methodName).or
              (OrderedDict.lookup methodName definition.methodReturnTypes.reverse) ∧
          (settings.methodParameters.get? methodName ≠ none →
            (definition.proxy settings).methodParameters.get? methodName =
              settings.methodParameters.get? methodName) := by
  intro definitions resolved
  have sound : AllSound definitions := by
    have start : AllSound (noDefinitions : Definitions κ PlcDataType) := fun c definition own => by cases own
    have throughout : Runs.Throughout (ProxyCall.after classes setOrder) AllSound noDefinitions calls :=
      Runs.throughout_of_kept (fun _ call held _ => held.after call) start Runs.along_true
    exact throughout _ (Runs.foldl_mem_states ..)
  refine ⟨getAsyncObject_class sound c settings, ?_, fun definition result =>
    ⟨fun sync rpcObject => ?_, fun methodName => ?_⟩⟩
  · rw [getObject_class sound]
    cases (classes.resolve setOrder definitions c).1 <;> rfl
  · have own := (sound.resolve classes setOrder c).2 definition result
    refine wrap_of_plain own ?_ rpcObject
    by_contra several
    cases sync.symm.trans (own.async several)
  · constructor
    · simp only [RpcInterfaceDefinition.proxy, RpcProxy.new, RpcInterfaceDefinition.merge, OrderedDict.get?_update,
        OrderedDict.get?_setAll]
      cases settings.methodReturnTypes.get? methodName <;>
        cases OrderedDict.lookup methodName definition.methodReturnTypes.reverse <;> rfl
    · intro given
      simp only [RpcInterfaceDefinition.proxy, RpcProxy.new, RpcInterfaceDefinition.merge,
        RpcObject.get?_initialParameters, OrderedDict.get?_update]
      cases types : settings.methodParameters.get? methodName with
      | none => exact absurd types given
      | some types => rfl

end InterfaceClasses

end PyAds
