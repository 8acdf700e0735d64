import PyAds.SessionCache

/-! The return types of methods. A type is configured under the name of a
method, or follows from the symbol information of a candidate name; what has
been inferred for a candidate is kept. -/
namespace PyAds
open Runs Fallible

/-- A return type, and whether the returned list is to be made bytes. -/
abbrev ReturnSpec := Option PlcDataType × Bool

/-- The attributes of an `RpcObject` that decide its candidates and their return types. -/
structure RpcObject where
  objectName : String
  methodSeparator : String
  methodPrefixes : List String
  methodReturnTypes : OrderedDict String PlcDataType
  returnSpecCache : OrderedDict String ReturnSpec

namespace RpcObject

/-- The elements of a list, each once. -/
def distinct (names : List String) : List String := names.foldl OrderedDict.addKey []

def qualified (object : RpcObject) (candidate : String) : String :=
  object.objectName ++ object.methodSeparator ++ candidate

def startsWith (methodName prefix_ : String) : Bool := prefix_.toList.isPrefixOf methodName.toList

/-- `_candidate_method_names` -/
def candidateMethodNames (object : RpcObject) (methodName : String) : List String :=
  distinct (object.methodPrefixes.map fun prefix_ =>
    object.qualified (if startsWith methodName prefix_ then methodName else prefix_ ++ methodName))

/-- The names under which a return type may be configured. -/
def configurableNames (object : RpcObject) (methodName : String) : List String :=
  distinct (methodName :: object.methodPrefixes.map fun prefix_ =>
    if startsWith methodName prefix_ then String.ofList (methodName.toList.drop prefix_.toList.length)
    else prefix_ ++ methodName)

/-- `_manual_return_type`; the names form a set, which is iterated in an order of its own. -/
def manualReturnType (setOrder : List String → List String) (object : RpcObject) (methodName : String) :
    Option PlcDataType :=
  (setOrder (object.configurableNames methodName)).findSome? object.methodReturnTypes.get?

/-- The last part of `qualified_name.partition(self._method_separator)` -/
def methodNameOf (object : RpcObject) (qualifiedName : String) : Result String :=
  let separator := object.methodSeparator.toList
  if separator = [] then .error (.valueError "empty separator")
  else
    match findText separator qualifiedName.toList with
    | none => .ok ""
    | some start => .ok (String.ofList (qualifiedName.toList.drop (start + separator.length)))

/-- The type that is configured for a candidate name. -/
def configuredType (setOrder : List String → List String) (object : RpcObject) (qualifiedName : String) :
    Result (Option PlcDataType) := do
  let methodName ← object.methodNameOf qualifiedName
  return if methodName = "" then none else object.manualReturnType setOrder methodName

/-- `set_return_type` -/
def setReturnType (methodName : String) (plcType : PlcDataType) (object : RpcObject) : RpcObject :=
  { object with
    methodReturnTypes := object.methodReturnTypes.set methodName plcType
    returnSpecCache := object.returnSpecCache.erase (object.qualified methodName) }

end RpcObject

def PlcType.dataType? : PlcType → Option PlcDataType
  | .simple ctype => some (.ctypes (.simple ctype))
  | .string => some (.ctypes .char)
  | .wstring => some .wstring
  | .unknown => none

/-- The end of `_infer_return_spec`: what symbol information tells of the type. -/
def specOfInfo : Option SAdsSymbolEntry → Result ReturnSpec
  | none => .ok (none, false)
  | some info =>
    match (OrderedDict.lookup info.dataType.toNat adsTypes).bind PlcType.dataType? with
    | some plcType => .ok (some plcType, false)
    | none => do
      match ← getTypeFromStr info.symbolType with
      | some plcType => return (some plcType, false)
      | none =>
        if info.size = 0 then return (none, false)
        else return (some (.ctypes (.array (.simple .ubyte) info.size.toNat)), true)

/-- An object with its connection, and what the PLC answers at the moment to a
request for symbol information. -/
structure RpcClient where
  session : Session
  adsGetSymbolInfo : String → Result SAdsSymbolEntry
  object : RpcObject

/-- A request that fails with an `ADSError` counts as no information. -/
def tolerated : Result SAdsSymbolEntry → Result (Option SAdsSymbolEntry)
  | .ok info => .ok (some info)
  | .error (.adsError _) => .ok none
  | .error e => .error e

namespace RpcClient

def reachable (client : RpcClient) : Bool := client.session.isOpen && client.session.port.isSome

/-- `_get_symbol_info` -/
def getSymbolInfo (client : RpcClient) (qualifiedName : String) : Result (Option SAdsSymbolEntry) × RpcClient :=
  if client.reachable then
    match client.session.symbolInfoCache.get? qualifiedName with
    | some info => (.ok (some info), client)
    | none =>
      match client.adsGetSymbolInfo qualifiedName with
      | .error (.adsError _) => (.ok none, client)
      | .error e => (.error e, client)
      | .ok info =>
        (.ok (some info), { client with
          session := { client.session with symbolInfoCache := client.session.symbolInfoCache.set qualifiedName info } })
  else (.ok none, client)

def keepSpec (client : RpcClient) (qualifiedName : String) (spec : ReturnSpec) : RpcClient :=
  { client with object := { client.object with
    returnSpecCache := client.object.returnSpecCache.set qualifiedName spec } }

/-- `_infer_return_spec` -/
def inferReturnSpec (setOrder : List String → List String) (client : RpcClient) (qualifiedName : String) :
    Result ReturnSpec × RpcClient :=
  match client.object.returnSpecCache.get? qualifiedName with
  | some cached => (.ok cached, client)
  | none =>
    match client.object.configuredType setOrder qualifiedName with
    | .error e => (.error e, client)
    | .ok (some plcType) => (.ok (some plcType, false), client.keepSpec qualifiedName (some plcType, false))
    | .ok none =>
      match client.getSymbolInfo qualifiedName with
      | (.error e, client) => (.error e, client)
      | (.ok info, client) =>
        match specOfInfo info with
        | .error e => (.error e, client)
        | .ok spec => (.ok spec, client.keepSpec qualifiedName spec)

/-- The return type given with the call, or else the inferred one. -/
def resolvedSpec (setOrder : List String → List String) (returnType : Option PlcDataType) (client : RpcClient)
    (candidateName : String) : Result ReturnSpec × RpcClient :=
  match returnType with
  | some plcType => (.ok (some plcType, false), client)
  | none => client.inferReturnSpec setOrder candidateName

/-- The loop of `_invoke` over the candidates: the next one is tried if the PLC
does not know the symbol. -/
def invokeCandidates (setOrder : List String → List String) (returnType : Option PlcDataType)
    (callRpcMethod : String → Option PlcDataType → Result PyVal) :
    List String → PyError → RpcClient → Result (PyVal × Bool) × RpcClient
  | [], lastError, client => (.error lastError, client)
  | candidateName :: candidateNames, _, client =>
    match client.resolvedSpec setOrder returnType candidateName with
    | (.error e, client) => (.error e, client)
    | (.ok (resolvedReturnType, coerceBytes), client) =>
      match callRpcMethod candidateName resolvedReturnType with
      | .ok result => (.ok (result, coerceBytes), client)
      | .error (.adsError 1808) =>
        client.invokeCandidates setOrder returnType callRpcMethod candidateNames (.adsError 1808)
      | .error e => (.error e, client)

/-- `_invoke`, once its arguments are packed. -/
def invoke (setOrder : List String → List String) (methodName : String) (returnType : Option PlcDataType)
    (callRpcMethod : String → Option PlcDataType → Result PyVal) (client : RpcClient) :
    Result (PyVal × Bool) × RpcClient :=
  client.invokeCandidates setOrder returnType callRpcMethod (client.object.candidateMethodNames methodName)
    .attributeError

end RpcClient

/-! ## Histories -/

/-- What happens to an object and its connection: a call of a method, a
configured type, a call of `open` or `close`, another operation on the
connection that looks symbols up, and a PLC that answers differently from now
on. -/
inductive RpcEvent where
  | invoke (methodName : String) (returnType : Option PlcDataType)
      (callRpcMethod : String → Option PlcDataType → Result PyVal)
  | setReturnType (methodName : String) (plcType : PlcDataType)
  | session (call : SessionCall)
  | lookUp (use : SymbolUse)
  | answers (adsGetSymbolInfo : String → Result SAdsSymbolEntry)

namespace RpcClient

def setReturnType (methodName : String) (plcType : PlcDataType) (client : RpcClient) : RpcClient :=
  { client with object := client.object.setReturnType methodName plcType }

/-- The symbols of another operation are kept in the cache of the connection. -/
def lookUp (use : SymbolUse) (client : RpcClient) : RpcClient :=
  if use.reaches client.session then
    match use.resolve client.adsGetSymbolInfo client.session.symbolInfoCache with
    | .error _ => client
    | .ok (_, symbolInfoCache) => { client with session := { client.session with symbolInfoCache := symbolInfoCache } }
  else client

end RpcClient

def RpcEvent.after (linux : Bool) (setOrder : List String → List String) (client : RpcClient) : RpcEvent → RpcClient
  | .invoke methodName returnType callRpcMethod => (client.invoke setOrder methodName returnType callRpcMethod).2
  | .setReturnType methodName plcType => client.setReturnType methodName plcType
  | .session call => { client with session := call.after linux client.session }
  | .lookUp use => client.lookUp use
  | .answers adsGetSymbolInfo => { client with adsGetSymbolInfo := adsGetSymbolInfo }

namespace RpcClient

/-- The client with nothing kept of the return types. -/
def withoutSpecs (client : RpcClient) : RpcClient :=
  { client with object := { client.object with returnSpecCache := OrderedDict.empty } }

/-- For every candidate name, the inferred pair is the one that would be
inferred with nothing kept. -/
def UpToDate (setOrder : List String → List String) (client : RpcClient) : Prop :=
  ∀ qualifiedName, (client.inferReturnSpec setOrder qualifiedName).1 =
    (client.withoutSpecs.inferReturnSpec setOrder qualifiedName).1

/-- The pair that the symbol information of a name leads to, on an open connection. -/
def describedSpec (client : RpcClient) (qualifiedName : String) : Result ReturnSpec :=
  match client.session.symbolInfoCache.get? qualifiedName with
  | some info => specOfInfo (some info)
  | none => tolerated (client.adsGetSymbolInfo qualifiedName) >>= specOfInfo

/-- The pair that the symbol information of a name leads to now. -/
def symbolSpec (client : RpcClient) (qualifiedName : String) : Result ReturnSpec :=
  if client.reachable then client.describedSpec qualifiedName else .ok (none, false)

/-- The candidates whose pair is kept and comes from symbol information. -/
def RestsOnSymbol (setOrder : List String → List String) (client : RpcClient) (qualifiedName : String) : Prop :=
  qualifiedName ∈ client.object.returnSpecCache.keys ∧ client.object.configuredType setOrder qualifiedName = .ok none

end RpcClient

/-- The event changes nothing that a pair kept for a candidate comes from. A
configured type may only reach candidates beside the one of its own name that
had this type from their symbol information; opening and closing may only
concern candidates whose symbol tells no type. -/
def RpcEvent.Harmless (linux : Bool) (setOrder : List String → List String) (client : RpcClient) : RpcEvent → Prop
  | .invoke .. | .lookUp _ => True
  | .setReturnType methodName plcType => ∀ qualifiedName ∈ client.object.returnSpecCache.keys,
    qualifiedName ≠ client.object.qualified methodName →
      (client.object.setReturnType methodName plcType).configuredType setOrder qualifiedName =
          client.object.configuredType setOrder qualifiedName ∨
        client.object.configuredType setOrder qualifiedName = .ok none ∧
          ∃ type, (client.object.setReturnType methodName plcType).configuredType setOrder qualifiedName =
            .ok (some type) ∧ client.symbolSpec qualifiedName = .ok (some type, false)
  | .session call =>
    RpcClient.reachable { client with session := call.after linux client.session } = client.reachable ∨
      ∀ qualifiedName, client.RestsOnSymbol setOrder qualifiedName → client.describedSpec qualifiedName = .ok (none, false)
  | .answers adsGetSymbolInfo => client.reachable = true → ∀ qualifiedName, client.RestsOnSymbol setOrder qualifiedName →
    qualifiedName ∉ client.session.symbolInfoCache.keys →
      (tolerated (adsGetSymbolInfo qualifiedName) >>= specOfInfo) =
        (tolerated (client.adsGetSymbolInfo qualifiedName) >>= specOfInfo)

/-! ## Inferring -/

namespace RpcClient

/-- What would be inferred with nothing kept. -/
def freshSpec (setOrder : List String → List String) (client : RpcClient) (qualifiedName : String) :
    Result ReturnSpec := do
  match ← client.object.configuredType setOrder qualifiedName with
  | some plcType => return (some plcType, false)
  | none => client.symbolSpec qualifiedName

/-- The connection has more symbols in its cache, as the PLC describes them. -/
structure Filled (client later : RpcClient) : Prop where
  object : later.object = client.object
  answers : later.adsGetSymbolInfo = client.adsGetSymbolInfo
  reachable : later.reachable = client.reachable
  symbols : ∀ qualifiedName,
    later.session.symbolInfoCache.get? qualifiedName = client.session.symbolInfoCache.get? qualifiedName ∨
      client.session.symbolInfoCache.get? qualifiedName = none ∧
        ∃ info, client.adsGetSymbolInfo qualifiedName = .ok info ∧
          later.session.symbolInfoCache.get? qualifiedName = some info

theorem Filled.refl (client : RpcClient) : Filled client client := ⟨rfl, rfl, rfl, fun _ => .inl rfl⟩

theorem Filled.symbolSpec {client later : RpcClient} (filled : Filled client later) (qualifiedName : String) :
    later.symbolSpec qualifiedName = client.symbolSpec qualifiedName := by
  have described : later.describedSpec qualifiedName = client.describedSpec qualifiedName := by
    unfold describedSpec
    cases filled.symbols qualifiedName with
    | inl same => rw [same, filled.answers]
    | inr new =>
      obtain ⟨absent, info, answered, held⟩ := new
      rw [held, absent, answered]
      rfl
  rw [RpcClient.symbolSpec, RpcClient.symbolSpec, filled.reachable, described]

theorem Filled.freshSpec {client later : RpcClient} (filled : Filled client later)
    (setOrder : List String → List String) (qualifiedName : String) :
    later.freshSpec setOrder qualifiedName = client.freshSpec setOrder qualifiedName := by
  unfold RpcClient.freshSpec
  rw [filled.object]
  congr 1
  funext configured
  cases configured with
  | some plcType => rfl
  | none => exact filled.symbolSpec qualifiedName

theorem getSymbolInfo_spec (client : RpcClient) (qualifiedName : String) :
    (client.getSymbolInfo qualifiedName).1 >>= specOfInfo = client.symbolSpec qualifiedName := by
  unfold getSymbolInfo symbolSpec describedSpec
  cases client.reachable with
  | false => rfl
  | true =>
    simp only [↓reduceIte]
    cases client.session.symbolInfoCache.get? qualifiedName with
    | some info => rfl
    | none =>
      cases client.adsGetSymbolInfo qualifiedName with
      | ok info => rfl
      | error e => cases e <;> rfl

theorem filled_getSymbolInfo (client : RpcClient) (qualifiedName : String) :
    Filled client (client.getSymbolInfo qualifiedName).2 := by
  unfold getSymbolInfo
  split
  · cases absent : client.session.symbolInfoCache.get? qualifiedName with
    | some info => exact .refl client
    | none =>
      cases answered : client.adsGetSymbolInfo qualifiedName with
      | error e => cases e <;> exact .refl client
      | ok info =>
        refine ⟨rfl, rfl, rfl, ?_⟩
        intro other
        dsimp only
        rw [OrderedDict.get?_set]
        by_cases same : qualifiedName = other
        · subst same
          exact .inr ⟨absent, info, answered, if_pos rfl⟩
        · exact .inl (if_neg same)
  · exact .refl client

section Infer
variable {setOrder : List String → List String} {client : RpcClient} {qualifiedName : String}

theorem inferReturnSpec_kept (kept : client.object.returnSpecCache.get? qualifiedName = some spec) :
    client.inferReturnSpec setOrder qualifiedName = (.ok spec, client) := by
  simp [inferReturnSpec, kept]

/-- A pair that is not kept is inferred anew, and then kept. -/
theorem inferReturnSpec_anew (new : client.object.returnSpecCache.get? qualifiedName = none) :
    (client.inferReturnSpec setOrder qualifiedName).1 = client.freshSpec setOrder qualifiedName ∧
      ∃ filled, Filled client filled ∧ ((client.inferReturnSpec setOrder qualifiedName).2 = filled ∨
        ∃ spec, client.freshSpec setOrder qualifiedName = .ok spec ∧
          (client.inferReturnSpec setOrder qualifiedName).2 = filled.keepSpec qualifiedName spec) := by
  unfold inferReturnSpec freshSpec
  rw [new]
  cases client.object.configuredType setOrder qualifiedName with
  | error e => exact ⟨rfl, client, .refl client, .inl rfl⟩
  | ok configured =>
    cases configured with
    | some plcType => exact ⟨rfl, client, .refl client, .inr ⟨_, rfl, rfl⟩⟩
    | none =>
      have asked := getSymbolInfo_spec client qualifiedName
      have filled := filled_getSymbolInfo client qualifiedName
      simp only [bind, Except.bind]
      rw [← asked]
      cases found : client.getSymbolInfo qualifiedName with
      | mk answer later =>
        rw [found] at filled
        cases answer with
        | error e => exact ⟨rfl, later, filled, .inl rfl⟩
        | ok info =>
          simp only [bind, Except.bind]
          cases told : specOfInfo info with
          | error e => exact ⟨rfl, later, filled, .inl rfl⟩
          | ok spec => exact ⟨rfl, later, filled, .inr ⟨spec, rfl, rfl⟩⟩

/-- A client is up to date if every pair that it has kept would be inferred anew. -/
theorem upToDate_iff : client.UpToDate setOrder ↔
    ∀ qualifiedName spec, client.object.returnSpecCache.get? qualifiedName = some spec →
      client.freshSpec setOrder qualifiedName = .ok spec := by
  have anew (qualifiedName : String) : (client.withoutSpecs.inferReturnSpec setOrder qualifiedName).1 =
      client.freshSpec setOrder qualifiedName :=
    (@inferReturnSpec_anew _ client.withoutSpecs _ rfl).1
  unfold UpToDate
  simp only [anew]
  apply forall_congr'
  intro qualifiedName
  cases kept : client.object.returnSpecCache.get? qualifiedName with
  | none => exact iff_of_true (inferReturnSpec_anew kept).1 (by simp)
  | some spec =>
    rw [inferReturnSpec_kept kept]
    simp [eq_comm]

theorem UpToDate.filled (upToDate : client.UpToDate setOrder) (filled : Filled client later) :
    later.UpToDate setOrder := by
  rw [upToDate_iff] at upToDate ⊢
  intro qualifiedName spec kept
  rw [filled.freshSpec]
  rw [filled.object] at kept
  exact upToDate qualifiedName spec kept

theorem UpToDate.infer (upToDate : client.UpToDate setOrder) (qualifiedName : String) :
    (client.inferReturnSpec setOrder qualifiedName).2.UpToDate setOrder := by
  cases kept : client.object.returnSpecCache.get? qualifiedName with
  | some spec =>
    rw [inferReturnSpec_kept kept]
    exact upToDate
  | none =>
    obtain ⟨_, filled, more, same | ⟨spec, fresh, same⟩⟩ := @inferReturnSpec_anew setOrder _ _ kept
    · rw [same]
      exact upToDate.filled more
    · rw [same]
      have before := upToDate_iff.mp (upToDate.filled more)
      apply upToDate_iff.mpr
      intro other otherSpec keptNow
      change filled.freshSpec setOrder other = _
      change (filled.object.returnSpecCache.set qualifiedName spec).get? other = _ at keptNow
      rw [OrderedDict.get?_set] at keptNow
      by_cases same : qualifiedName = other
      · subst same
        rw [if_pos rfl] at keptNow
        cases keptNow
        rw [more.freshSpec, fresh]
      · rw [if_neg same] at keptNow
        exact before other otherSpec keptNow

theorem UpToDate.resolvedSpec (upToDate : client.UpToDate setOrder) (returnType : Option PlcDataType)
    (candidateName : String) : (client.resolvedSpec setOrder returnType candidateName).2.UpToDate setOrder := by
  cases returnType with
  | some plcType => exact upToDate
  | none => exact upToDate.infer candidateName

theorem UpToDate.invokeCandidates (upToDate : client.UpToDate setOrder) (returnType : Option PlcDataType)
    (callRpcMethod : String → Option PlcDataType → Result PyVal) (candidateNames : List String) (lastError : PyError) :
    (client.invokeCandidates setOrder returnType callRpcMethod candidateNames lastError).2.UpToDate setOrder := by
  induction candidateNames generalizing client lastError with
  | nil => exact upToDate
  | cons candidateName candidateNames ih =>
    have kept := upToDate.resolvedSpec returnType candidateName
    unfold RpcClient.invokeCandidates
    cases found : client.resolvedSpec setOrder returnType candidateName with
    | mk answer later =>
      rw [found] at kept
      cases answer with
      | error e => exact kept
      | ok spec =>
        dsimp only
        split
        · exact kept
        · exact ih kept _
        · exact kept

/-- Symbols that another operation has looked up are described as before. -/
theorem filled_lookUp (client : RpcClient) (use : SymbolUse) : Filled client (client.lookUp use) := by
  unfold lookUp
  split
  · cases found : use.resolve client.adsGetSymbolInfo client.session.symbolInfoCache with
    | error e => exact .refl client
    | ok result =>
      obtain ⟨entries, _, _⟩ := resolve_eq_ok found
      refine ⟨rfl, rfl, rfl, ?_⟩
      intro qualifiedName
      dsimp only
      rw [entries, resolved]
      cases absent : client.session.symbolInfoCache.get? qualifiedName with
      | some info => exact .inl rfl
      | none =>
        by_cases named : qualifiedName ∈ use.names
        · obtain ⟨info, answered⟩ :=
            exists_resolve_iff.mp ⟨result, found⟩ qualifiedName named (OrderedDict.get?_eq_none_iff.mp absent)
          refine .inr ⟨rfl, info, answered, ?_⟩
          rw [if_pos named, answered]
          rfl
        · exact .inl (by rw [if_neg named]; rfl)
  · exact .refl client

end Infer

/-! ## One event -/

section Events
variable {setOrder : List String → List String} {client : RpcClient} (upToDate : client.UpToDate setOrder)
include upToDate

/-- What is kept stays up to date if the symbols that it rests on tell the same. -/
theorem upToDate_later_iff {later : RpcClient} (same : later.object = client.object) : later.UpToDate setOrder ↔
    ∀ qualifiedName, client.RestsOnSymbol setOrder qualifiedName →
      later.symbolSpec qualifiedName = client.symbolSpec qualifiedName := by
  rw [upToDate_iff] at upToDate ⊢
  unfold freshSpec at upToDate ⊢
  rw [same]
  constructor
  · rintro laterUpToDate qualifiedName ⟨present, unconfigured⟩
    cases kept : client.object.returnSpecCache.get? qualifiedName with
    | none => exact absurd present (OrderedDict.get?_eq_none_iff.mp kept)
    | some spec =>
      have now := laterUpToDate qualifiedName spec kept
      have before := upToDate qualifiedName spec kept
      rw [unconfigured] at now before
      exact now.trans before.symm
  · intro told qualifiedName spec kept
    have present : qualifiedName ∈ client.object.returnSpecCache.keys :=
      OrderedDict.mem_keys_of_get? kept
    have before := upToDate qualifiedName spec kept
    cases configured : client.object.configuredType setOrder qualifiedName with
    | error e =>
      rw [configured] at before
      exact before
    | ok type =>
      rw [configured] at before
      cases type with
      | some plcType => exact before
      | none => exact (told qualifiedName ⟨present, configured⟩).trans before

omit upToDate in
theorem describedSpec_session (linux : Bool) (call : SessionCall) (qualifiedName : String) :
    describedSpec { client with session := call.after linux client.session } qualifiedName =
      client.describedSpec qualifiedName := by
  have cache : (call.after linux client.session).symbolInfoCache = client.session.symbolInfoCache := by
    cases call with
    | open_ router => exact Session.symbolInfoCache_open linux router client.session
    | close router => exact Session.symbolInfoCache_close router client.session
  unfold describedSpec
  rw [cache]

theorem session_upToDate_iff (linux : Bool) (call : SessionCall) :
    ((RpcEvent.session call).after linux setOrder client).UpToDate setOrder ↔
      (RpcEvent.session call).Harmless linux setOrder client := by
  refine Iff.trans (upToDate_later_iff upToDate rfl) ?_
  unfold RpcEvent.Harmless
  simp only [RpcEvent.after, symbolSpec, describedSpec_session]
  cases after : reachable { client with session := call.after linux client.session } <;>
    cases before : client.reachable
  all_goals simp [eq_comm]

theorem answers_upToDate_iff (linux : Bool) (adsGetSymbolInfo : String → Result SAdsSymbolEntry) :
    ((RpcEvent.answers adsGetSymbolInfo).after linux setOrder client).UpToDate setOrder ↔
      (RpcEvent.answers adsGetSymbolInfo).Harmless linux setOrder client := by
  refine Iff.trans (upToDate_later_iff upToDate rfl) ?_
  unfold RpcEvent.Harmless
  have same : reachable { client with adsGetSymbolInfo := adsGetSymbolInfo } = client.reachable := rfl
  simp only [RpcEvent.after, symbolSpec, same, describedSpec]
  cases client.reachable with
  | false => simp
  | true =>
    simp only [↓reduceIte, forall_const]
    apply forall_congr'
    intro qualifiedName
    apply imp_congr_right
    intro _
    rw [← OrderedDict.get?_eq_none_iff]
    cases client.session.symbolInfoCache.get? qualifiedName with
    | some info => simp
    | none => simp

end Events

/-! ## Configuring a type -/

section Configure
variable {setOrder : List String → List String} {object : RpcObject} {qualifiedName : String}

/-- A name that had a configured type still has one. -/
theorem configuredType_setReturnType (methodName : String) (plcType : PlcDataType)
    (before : object.configuredType setOrder qualifiedName = .ok configured) :
    ∃ reconfigured, (object.setReturnType methodName plcType).configuredType setOrder qualifiedName =
      .ok reconfigured ∧ (reconfigured = none → configured = none) := by
  obtain ⟨name, found, here⟩ := bind_eq_ok.mp before
  cases here
  refine ⟨_, bind_eq_ok.mpr ⟨name, found, rfl⟩, ?_⟩
  by_cases empty : name = ""
  · simp [empty]
  · simp only [empty, ↓reduceIte, RpcObject.manualReturnType, List.findSome?_eq_none_iff]
    intro unset candidate member
    have still : (object.methodReturnTypes.set methodName plcType).get? candidate = none := unset candidate member
    rw [OrderedDict.get?_set] at still
    split at still
    · cases still
    · exact still

/-- A kept pair is still what would be inferred exactly if the type configured
for its name is the same, or it is the type that the symbol has told. -/
theorem freshSpec_setReturnType_iff {client : RpcClient} (methodName : String) (plcType : PlcDataType)
    (fresh : client.freshSpec setOrder qualifiedName = .ok spec) :
    (client.setReturnType methodName plcType).freshSpec setOrder qualifiedName = .ok spec ↔
      (client.object.setReturnType methodName plcType).configuredType setOrder qualifiedName =
          client.object.configuredType setOrder qualifiedName ∨
        client.object.configuredType setOrder qualifiedName = .ok none ∧
          ∃ type, (client.object.setReturnType methodName plcType).configuredType setOrder qualifiedName =
            .ok (some type) ∧ client.symbolSpec qualifiedName = .ok (some type, false) := by
  obtain ⟨configured, before, told⟩ := bind_eq_ok.mp fresh
  obtain ⟨reconfigured, after, grown⟩ := configuredType_setReturnType methodName plcType before
  have anew : (client.setReturnType methodName plcType).freshSpec setOrder qualifiedName =
      reconfigured.elim (client.symbolSpec qualifiedName) fun type => .ok (some type, false) := by
    change (client.object.setReturnType methodName plcType).configuredType setOrder qualifiedName >>= _ = _
    rw [after]
    cases reconfigured <;> rfl
  rw [anew, before, after]
  cases configured with
  | some type =>
    cases told
    cases reconfigured with
    | none => cases grown rfl
    | some other => simp
  | none =>
    change client.symbolSpec qualifiedName = .ok spec at told
    cases reconfigured with
    | none => simp [told]
    | some other => simp [told, eq_comm]

theorem setReturnType_upToDate_iff {client : RpcClient} (upToDate : client.UpToDate setOrder) (linux : Bool)
    (methodName : String) (plcType : PlcDataType) : (client.setReturnType methodName plcType).UpToDate setOrder ↔
      (RpcEvent.setReturnType methodName plcType).Harmless linux setOrder client := by
  have kept (qualifiedName : String) :
      (client.setReturnType methodName plcType).object.returnSpecCache.get? qualifiedName =
        if client.object.qualified methodName = qualifiedName then none
        else client.object.returnSpecCache.get? qualifiedName := OrderedDict.get?_erase ..
  simp only [upToDate_iff, kept, RpcEvent.Harmless]
  apply forall_congr'
  intro qualifiedName
  by_cases own : client.object.qualified methodName = qualifiedName
  · simp [own]
  · simp only [own, ↓reduceIte, Ne.symm own, ne_eq, not_false_eq_true, forall_const]
    cases before : client.object.returnSpecCache.get? qualifiedName with
    | none => simp [OrderedDict.get?_eq_none_iff.mp before]
    | some spec =>
      have present : qualifiedName ∈ client.object.returnSpecCache.keys :=
        OrderedDict.mem_keys_of_get? before
      simp only [Option.some.injEq, forall_eq', present, forall_const]
      exact freshSpec_setReturnType_iff methodName plcType (upToDate_iff.mp upToDate qualifiedName spec before)

end Configure

end RpcClient

/-- Over a history of calls, configured types, sessions and symbol lookups,
every pair that is kept stays the one that would be inferred exactly if no event
changes what it comes from. -/
theorem return_specs_upToDate_iff {client : RpcClient} (linux : Bool) (setOrder : List String → List String)
    (upToDate : client.UpToDate setOrder) (events : List RpcEvent) :
    Throughout (RpcEvent.after linux setOrder) (RpcClient.UpToDate setOrder) client events ↔
      Along (RpcEvent.after linux setOrder) (RpcEvent.Harmless linux setOrder) client events := by
  have exact_ (client : RpcClient) (event : RpcEvent) (upToDate : client.UpToDate setOrder) (_ : True) :
      (event.after linux setOrder client).UpToDate setOrder ↔ event.Harmless linux setOrder client := by
    cases event with
    | invoke methodName returnType callRpcMethod =>
      exact iff_of_true (upToDate.invokeCandidates returnType callRpcMethod _ _) trivial
    | setReturnType methodName plcType => exact RpcClient.setReturnType_upToDate_iff upToDate linux methodName plcType
    | session call => exact RpcClient.session_upToDate_iff upToDate linux call
    | lookUp use => exact iff_of_true (upToDate.filled (RpcClient.filled_lookUp client use)) trivial
    | answers adsGetSymbolInfo => exact RpcClient.answers_upToDate_iff upToDate linux adsGetSymbolInfo
  exact invariant_iff exact_ upToDate along_true

/-- A method block on a connection that is not open; the PLC knows no symbol. -/
def pumpClient : RpcClient :=
  ⟨tankSession, fun _ => .error (.adsError 1808), ⟨"GVL.pump", "#", ["", "m_"], OrderedDict.empty, OrderedDict.empty⟩⟩

theorem pumpClient_upToDate : pumpClient.UpToDate id := by
  intro qualifiedName
  rfl

def plcInt : PlcDataType := .ctypes (.simple .int16)

/-- A type is configured before the method is called for the first time. -/
theorem configured_first_upToDate : Throughout (RpcEvent.after true id) (RpcClient.UpToDate id) pumpClient
    [.setReturnType "start" plcInt, .invoke "start" none fun _ _ => .ok .none, .session (.open_ (answering 30000 0 0)),
     .lookUp (.byName "GVL.pump#stop")] := by
  apply (return_specs_upToDate_iff true id pumpClient_upToDate _).mpr
  refine ⟨?_, trivial, .inr ?_, trivial, trivial⟩
  · intro qualifiedName kept
    cases kept
  · rintro qualifiedName ⟨kept, unconfigured⟩
    have only : qualifiedName ∈ ["GVL.pump#start"] := kept
    rw [List.mem_singleton.mp only] at unconfigured
    have configured : (.ok (some plcInt) : Result (Option PlcDataType)) = .ok none := unconfigured
    cases configured

/-- The PLC calls the method `m_start`; what has been inferred for this name
stays when a type is configured for `start`. -/
theorem prefixed_candidate_stale : ¬ Throughout (RpcEvent.after true id) (RpcClient.UpToDate id) pumpClient
    [.session (.open_ (answering 30000 0 0)),
     .invoke "start" none fun candidateName _ =>
      if candidateName = "GVL.pump#m_start" then .ok .none else .error (.adsError 1808),
     .setReturnType "start" plcInt] := by
  intro all
  have last := all _ (foldl_mem_states ..) "GVL.pump#m_start"
  have differ : (.ok (none, false) : Result ReturnSpec) = .ok (some plcInt, false) := last
  cases differ

end PyAds
