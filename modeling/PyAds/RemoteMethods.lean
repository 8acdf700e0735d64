import PyAds.Base.SequentialObject
import PyAds.MethodInputs
import PyAds.RpcCalls
import PyAds.RpcProxies

/-! Remote methods as a caller sees them. A call through a proxy does what a
direct call on its arguments does, and leaves no handle open. -/
namespace PyAds
open Fallible SequentialObject

/-! ## The PLC -/

/-- A method: its inputs, which a payload keeps apart, the type of its result,
and what it does to the state of the PLC. -/
structure PlcMethod (σ : Type) where
  inputs : List ParameterType
  delimited : Delimited inputs
  resultType : CType
  body : List PyVal → σ → PyVal × σ
  fits : ∀ values state, resultType.Keeps (body values state).1

/-- The methods by their qualified names, and the choice of a handle, which is
not in use as long as there is such a one. -/
structure PlcProgram (σ : Type) where
  method? : String → Option (PlcMethod σ)
  newHandle : List UInt32 → UInt32
  fresh : ∀ used, used.length < 2 ^ 32 → newHandle used ∉ used

/-- The state of the program and the handles that are open. -/
structure PlcMemory (σ : Type) where
  state : σ
  handles : List (UInt32 × String)

def PlcMemory.adsReleaseHandle (handle : UInt32) (plc : PlcMemory σ) : Result Unit × PlcMemory σ :=
  if handle ∈ plc.handles.map Prod.fst then
    (.ok (), { plc with handles := plc.handles.filter (·.1 ≠ handle) })
  else (.error (.adsError 1795), plc)

namespace PlcProgram
variable {σ : Type} (program : PlcProgram σ)

def adsGetHandle (dataName : String) (plc : PlcMemory σ) : Result UInt32 × PlcMemory σ :=
  match program.method? dataName with
  | none => (.error (.adsError 1808), plc)
  | some _ =>
    let handle := program.newHandle (plc.handles.map Prod.fst)
    (.ok handle, { plc with handles := (handle, dataName) :: plc.handles })

/-- A combined request through a handle executes its method. -/
def adsSyncReadWrite (handle : UInt32) (readLength : Nat) (data : Bytes) (plc : PlcMemory σ) :
    Result Bytes × PlcMemory σ :=
  match (plc.handles.lookup handle).bind program.method? with
  | none => (.error (.adsError 1795), plc)
  | some method =>
    match receiveInputs method.inputs data with
    | none => (.error (.adsError 1797), plc)
    | some values =>
      let (value, state) := method.body values plc.state
      ((structPack method.resultType.format value).map (·.take readLength), { plc with state := state })

/-! ## Calls -/

/-- `Connection.read_write` through a handle, with both data types -/
def readWrite (handle : UInt32) (returnType : Option PlcDataType) (writeValue : PyVal) (writeType : Option PlcDataType)
    (plc : PlcMemory σ) : Result PlainValue × PlcMemory σ :=
  match readWriteRequest returnType writeValue writeType with
  | .error e => (.error e, plc)
  | .ok (readLength, data) =>
    let (reply, plc) := program.adsSyncReadWrite handle readLength data plc
    (reply >>= readWriteValue returnType readLength, plc)

/-- `Connection.call_rpc_method` -/
def callRpcMethod (portOpen : Bool) (methodName : String) (returnType : Option PlcDataType) (writeValue : PyVal)
    (writeType : Option PlcDataType) (plc : PlcMemory σ) : Result PlainValue × PlcMemory σ :=
  if portOpen then
    match program.adsGetHandle methodName plc with
    | (.error e, plc) => (.error e, plc)
    | (.ok handle, plc) =>
      let (outcome, plc) := program.readWrite handle returnType writeValue writeType plc
      match plc.adsReleaseHandle handle with
      | (.error e, plc) => (.error e, plc)
      | (.ok (), plc) => (outcome, plc)
  else (.ok (.value .none), plc)

/-- The loop of `_invoke` over the candidates. -/
def callCandidates (setOrder : List String → List String) (writeValue : PyVal) (writeType : Option PlcDataType) :
    List String → PyError → RpcClient → PlcMemory σ → MethodResult × RpcClient × PlcMemory σ
  | [], lastError, client, plc => (.error lastError, client, plc)
  | candidateName :: candidateNames, _, client, plc =>
    match client.resolvedSpec setOrder none candidateName with
    | (.error e, client) => (.error e, client, plc)
    | (.ok (returnType, coerceBytes), client) =>
      match program.callRpcMethod client.portOpen candidateName returnType writeValue writeType plc with
      | (.ok result, plc) => (.ok (result, coerceBytes), client, plc)
      | (.error (.adsError 1808), plc) =>
        callCandidates setOrder writeValue writeType candidateNames (.adsError 1808) client plc
      | (.error e, plc) => (.error e, client, plc)

end PlcProgram

/-- A proxy with its connection, and the types of its parameters. -/
structure RemoteObject where
  client : RpcClient
  methodParameters : OrderedDict String (List PlcDataType)

namespace RemoteObject

def parameterTypes (setOrder : List String → List String) (object : RemoteObject) (methodName : String) :
    List PlcDataType :=
  object.client.object.parameterTypesFor setOrder object.methodParameters methodName

/-- What `_invoke` sends for positional arguments, none of which is a class: the
bytes of a payload, one by one, with a class for an array of them. -/
def writeArguments (setOrder : List String → List String) (object : RemoteObject) (methodName : String)
    (args : List PyVal) : Result (PyVal × Option PlcDataType) :=
  if args = [] ∧ object.parameterTypes setOrder methodName = [] then .ok (.none, none)
  else (packMethodArgs (object.parameterTypes setOrder methodName) args).map fun
    | none => (.none, none)
    | some payload => (.ofBytes payload, some (.ctypes (.array (.simple .ubyte) payload.length)))

/-- `RpcObject.__getattr__` and a call of what it returns -/
def invoke (setOrder : List String → List String) (program : PlcProgram σ) (methodName : String) (args : List PyVal)
    (object : RemoteObject) (plc : PlcMemory σ) : MethodResult × RemoteObject × PlcMemory σ :=
  if RpcObject.startsWith methodName "_" then (.error .attributeError, object, plc)
  else
    match object.writeArguments setOrder methodName args with
    | .error e => (.error e, object, plc)
    | .ok (writeValue, writeType) =>
      let (outcome, client, plc) := program.callCandidates setOrder writeValue writeType
        (object.client.object.candidateMethodNames methodName) .attributeError object.client plc
      (outcome, { object with client := client }, plc)

end RemoteObject

/-- A call of a method through one of several proxies. -/
structure RemoteCall (ι : Type) where
  proxy : ι
  methodName : String
  args : List PyVal

/-- The proxies, each with a connection of its own, and the PLC that they share. -/
structure RemoteSystem (ι σ : Type) where
  objects : ι → RemoteObject
  plc : PlcMemory σ

namespace RemoteSystem

/-- The outcome of a call, and what it leaves. -/
def perform [DecidableEq ι] (setOrder : List String → List String) (program : PlcProgram σ)
    (system : RemoteSystem ι σ) (call : RemoteCall ι) : MethodResult × RemoteSystem ι σ :=
  let (outcome, object, plc) := (system.objects call.proxy).invoke setOrder program call.methodName call.args system.plc
  (outcome, ⟨Function.update system.objects call.proxy object, plc⟩)

end RemoteSystem

/-! ## One call -/

namespace PlcMethod
variable {σ : Type} (method : PlcMethod σ)

def plcTypes : List PlcDataType := method.inputs.map (·.plcType)

/-- The outcome of a call that executes the method once on values equal to the
arguments, or refuses arguments that cannot be packed. -/
inductive CalledDirectly (args : List PyVal) (state : σ) : MethodResult → σ → Prop
  | executed (inputs : List.Forall₂ (PyVal.Same .plain) values args)
      (result : PyVal.Same .plain value (method.body values state).1) :
      CalledDirectly args state (.ok (.value value, false)) (method.body values state).2
  | refused (unsendable : packMethodArgs method.plcTypes args = .error e) : CalledDirectly args state (.error e) state

/-- The arguments are kept as they are, if they are packed at all. -/
def Takes (args : List PyVal) : Prop :=
  ∀ payload, packMethodArgs method.plcTypes args = .ok payload → List.Forall₂ ParameterType.Keeps method.inputs args

end PlcMethod

/-- What is sent for the payload of a call. -/
def sentPayload (payload : Option Bytes) : PyVal × Option PlcDataType :=
  match payload with
  | none => (.none, none)
  | some payload => (.ofBytes payload, some (.ctypes (.array (.simple .ubyte) payload.length)))

theorem readWriteData_sentPayload (payload : Option Bytes) :
    readWriteData (sentPayload payload).2 (sentPayload payload).1 = .ok (payload.getD []) := by
  cases payload with
  | none => rfl
  | some payload =>
    have whole := requestData_ofBytes payload payload.length
    rw [if_neg (Nat.lt_irrefl _), Nat.sub_self, List.replicate_zero, List.append_nil] at whole
    exact whole

theorem writeArguments_eq (setOrder : List String → List String) (object : RemoteObject) (methodName : String)
    (args : List PyVal) : object.writeArguments setOrder methodName args =
      (packMethodArgs (object.parameterTypes setOrder methodName) args).map sentPayload := by
  unfold RemoteObject.writeArguments
  split
  · rename_i none_
    obtain ⟨rfl, noTypes⟩ := none_
    rw [noTypes]
    rfl
  · congr 1

namespace PlcProgram
variable {σ : Type} {program : PlcProgram σ} {method : PlcMethod σ} {plc : PlcMemory σ}

/-- A request through a handle of a method executes it once, and returns its result. -/
theorem readWrite_executed (named : (plc.handles.lookup handle).bind program.method? = some method)
    (received : receiveInputs method.inputs (payload.getD []) = some values) :
    ∃ value, program.readWrite handle (some (.ctypes (.simple method.resultType))) (sentPayload payload).1
        (sentPayload payload).2 plc =
        (.ok (.value value), { plc with state := (method.body values plc.state).2 }) ∧
      PyVal.Same .plain value (method.body values plc.state).1 := by
  obtain ⟨part, packed, length, same⟩ := CType.Keeps.packed (method.fits values plc.state)
  have request : readWriteRequest (some (.ctypes (.simple method.resultType))) (sentPayload payload).1
      (sentPayload payload).2 = .ok (method.resultType.sizeof, payload.getD []) := by
    rw [readWriteRequest, readWriteData_sentPayload]
    rfl
  have reply : readWriteValue (some (.ctypes (.simple method.resultType))) method.resultType.sizeof part =
      .ok (.value (unpackValue method.resultType.format part)) := by
    simp only [readWriteValue, Option.any_some, length, ne_eq, not_true_eq_false, and_false, ↓reduceIte,
      responseBuffer_exact length]
    rfl
  refine ⟨unpackValue method.resultType.format part, ?_, same⟩
  rw [readWrite, request]
  simp only [adsSyncReadWrite, named, received, packed, Except.map, List.take_of_length_le length.le]
  rw [← reply]
  rfl

/-- The handle that a call asks for is released again. -/
theorem release_fresh (room : plc.handles.length < 2 ^ 32) (state : σ) (name : String) :
    PlcMemory.adsReleaseHandle (program.newHandle (plc.handles.map Prod.fst))
        ⟨state, (program.newHandle (plc.handles.map Prod.fst), name) :: plc.handles⟩ =
      (.ok (), { plc with state := state }) := by
  have unused := program.fresh (plc.handles.map Prod.fst) (by simpa using room)
  have others : plc.handles.filter (·.1 ≠ program.newHandle (plc.handles.map Prod.fst)) = plc.handles := by
    apply List.filter_eq_self.mpr
    intro entry member
    have other : entry.1 ≠ program.newHandle (plc.handles.map Prod.fst) := by
      intro same
      exact unused (same ▸ List.mem_map_of_mem member)
    simpa using other
  rw [PlcMemory.adsReleaseHandle, if_pos (by simp), List.filter_cons_of_neg (by simp), others]

/-- A call of a known method executes it once, and leaves no handle open. -/
theorem callRpcMethod_executed (known : program.method? name = some method) (room : plc.handles.length < 2 ^ 32)
    (received : receiveInputs method.inputs (payload.getD []) = some values) :
    ∃ value, program.callRpcMethod true name (some (.ctypes (.simple method.resultType))) (sentPayload payload).1
        (sentPayload payload).2 plc =
        (.ok (.value value), { plc with state := (method.body values plc.state).2 }) ∧
      PyVal.Same .plain value (method.body values plc.state).1 := by
  let handle := program.newHandle (plc.handles.map Prod.fst)
  let opened : PlcMemory σ := ⟨plc.state, (handle, name) :: plc.handles⟩
  have named : (opened.handles.lookup handle).bind program.method? = some method := by
    rw [List.lookup_cons_self]
    exact known
  obtain ⟨value, executed, same⟩ := readWrite_executed named received
  refine ⟨value, ?_, same⟩
  rw [callRpcMethod, if_pos rfl, adsGetHandle, known]
  simp only
  rw [executed]
  simp only
  rw [release_fresh room]

end PlcProgram

/-! ## Offered methods -/

namespace RpcClient

/-- What a client has learned from its calls changes neither the names that it
calls nor the types that are inferred for them. -/
structure Informed (setOrder : List String → List String) (client later : RpcClient) : Prop where
  candidates : later.object.candidateMethodNames = client.object.candidateMethodNames
  forms : later.object.configurableNames = client.object.configurableNames
  specs : later.freshSpec setOrder = client.freshSpec setOrder
  port : later.portOpen = client.portOpen
  upToDate : client.UpToDate setOrder → later.UpToDate setOrder

variable {setOrder : List String → List String} {client later : RpcClient}

theorem Informed.refl (client : RpcClient) : Informed setOrder client client := ⟨rfl, rfl, rfl, rfl, fun held => held⟩

theorem Informed.trans (first : Informed setOrder client later) (second : Informed setOrder later last) :
    Informed setOrder client last :=
  ⟨second.candidates.trans first.candidates, second.forms.trans first.forms, second.specs.trans first.specs,
    second.port.trans first.port, fun held => second.upToDate (first.upToDate held)⟩

theorem informed_resolvedSpec (client : RpcClient) (name : String) :
    Informed setOrder client (client.resolvedSpec setOrder none name).2 := by
  have port := portOpen_resolvedSpec setOrder none client name
  have upToDate := fun held : client.UpToDate setOrder => held.resolvedSpec none name
  cases held : client.object.returnSpecCache.get? name with
  | some spec =>
    rw [resolvedSpec, inferReturnSpec_kept held]
    exact .refl client
  | none =>
    obtain ⟨-, filled, more, same⟩ := @inferReturnSpec_anew setOrder _ _ held
    have object : ∃ cache, (client.inferReturnSpec setOrder name).2.object =
        { client.object with returnSpecCache := cache } := by
      rcases same with same | ⟨spec, -, same⟩
      · rw [same, more.object]
        exact ⟨_, rfl⟩
      · rw [same]
        refine ⟨filled.object.returnSpecCache.set name spec, ?_⟩
        rw [← more.object]
        rfl
    have specs : (client.inferReturnSpec setOrder name).2.freshSpec setOrder = client.freshSpec setOrder := by
      funext other
      rcases same with same | ⟨spec, -, same⟩
      · rw [same, more.freshSpec]
      · rw [same]
        exact more.freshSpec setOrder other
    obtain ⟨cache, object⟩ := object
    refine ⟨?_, ?_, specs, port, upToDate⟩
    · rw [resolvedSpec, object]
      rfl
    · rw [resolvedSpec, object]
      rfl

theorem UpToDate.resolvedSpec_eq (upToDate : client.UpToDate setOrder) (name : String) :
    (client.resolvedSpec setOrder none name).1 = client.freshSpec setOrder name := by
  rw [RpcClient.resolvedSpec, upToDate name, (@inferReturnSpec_anew setOrder client.withoutSpecs name rfl).1]
  rfl

end RpcClient

namespace RemoteObject
variable {σ : Type}

/-- A proxy offers a method of the program: it has the types of the inputs and
of the result, and the method is the first of its candidates that there is. -/
structure Offers (setOrder : List String → List String) (program : PlcProgram σ) (object : RemoteObject)
    (methodName : String) (method : PlcMethod σ) : Prop where
  callable : RpcObject.startsWith methodName "_" = false
  inputs : object.parameterTypes setOrder methodName = method.plcTypes
  found : ∃ before name after, object.client.object.candidateMethodNames methodName = before ++ name :: after ∧
    (∀ earlier ∈ before, program.method? earlier = none ∧ ∃ spec, object.client.freshSpec setOrder earlier = .ok spec) ∧
    program.method? name = some method ∧
    object.client.freshSpec setOrder name = .ok (some (.ctypes (.simple method.resultType)), false)

theorem Offers.informed {object : RemoteObject} (offers : object.Offers setOrder program methodName method)
    (informed : RpcClient.Informed setOrder object.client later) :
    RemoteObject.Offers setOrder program { object with client := later } methodName method := by
  obtain ⟨callable, inputs, before, name, after, split, unknown, known, typed⟩ := offers
  refine ⟨callable, ?_, before, name, after, ?_, ?_, known, ?_⟩
  · rw [← inputs]
    unfold parameterTypes RpcObject.parameterTypesFor
    rw [informed.forms]
  · rw [← split, informed.candidates]
  · intro earlier member
    rw [informed.specs]
    exact unknown earlier member
  · rw [informed.specs]
    exact typed

end RemoteObject

namespace PlcProgram
variable {σ : Type} {program : PlcProgram σ} {method : PlcMethod σ} {plc : PlcMemory σ}

/-- Names that the PLC does not know are passed over, and the method behind them is executed once. -/
theorem callCandidates_executed {setOrder : List String → List String} {client : RpcClient}
    (portOpen : client.portOpen = true) (upToDate : client.UpToDate setOrder)
    (unknown : ∀ earlier ∈ before, program.method? earlier = none ∧ ∃ spec, client.freshSpec setOrder earlier = .ok spec)
    (known : program.method? name = some method)
    (typed : client.freshSpec setOrder name = .ok (some (.ctypes (.simple method.resultType)), false))
    (room : plc.handles.length < 2 ^ 32) (received : receiveInputs method.inputs (payload.getD []) = some values)
    (after : List String) (lastError : PyError) :
    ∃ value later, program.callCandidates setOrder (sentPayload payload).1 (sentPayload payload).2
        (before ++ name :: after) lastError client plc =
        (.ok (.value value, false), later, { plc with state := (method.body values plc.state).2 }) ∧
      PyVal.Same .plain value (method.body values plc.state).1 ∧ RpcClient.Informed setOrder client later := by
  induction before generalizing client lastError with
  | nil =>
    obtain ⟨value, executed, same⟩ := callRpcMethod_executed known room received
    have informed : RpcClient.Informed setOrder client _ := RpcClient.informed_resolvedSpec client name
    have spec := (upToDate.resolvedSpec_eq name).trans typed
    refine ⟨value, (client.resolvedSpec setOrder none name).2, ?_, same, informed⟩
    rw [List.nil_append, callCandidates]
    cases resolved : client.resolvedSpec setOrder none name with
    | mk answer next =>
      rw [resolved] at spec informed
      cases spec
      simp only
      rw [informed.port, portOpen, executed]
  | cons earlier before ih =>
    obtain ⟨⟨absent, spec, told⟩, others⟩ := List.forall_mem_cons.mp unknown
    have informed : RpcClient.Informed setOrder client _ := RpcClient.informed_resolvedSpec client earlier
    have fresh := (upToDate.resolvedSpec_eq earlier).trans told
    rw [List.cons_append, callCandidates]
    cases resolved : client.resolvedSpec setOrder none earlier with
    | mk answer next =>
      rw [resolved] at fresh informed
      cases fresh
      obtain ⟨value, later, called, same, more⟩ := ih (informed.port.trans portOpen)
        (informed.upToDate upToDate) (by rw [informed.specs]; exact others) (by rw [informed.specs]; exact typed)
        (.adsError 1808)
      refine ⟨value, later, ?_, same, informed.trans more⟩
      have missing : program.callRpcMethod next.portOpen earlier spec.1 (sentPayload payload).1 (sentPayload payload).2
          plc = (.error (.adsError 1808), plc) := by
        rw [informed.port, portOpen, callRpcMethod, if_pos rfl, adsGetHandle, absent]
      simp only
      rw [missing]
      exact called

end PlcProgram

/-! ## All calls -/

namespace RemoteObject
variable {σ : Type} {program : PlcProgram σ} {method : PlcMethod σ} {plc : PlcMemory σ}

/-- A call through a proxy is a direct call of the method that it offers. -/
theorem Offers.invoke_direct {setOrder : List String → List String} {object : RemoteObject}
    (offers : object.Offers setOrder program methodName method) (takes : method.Takes args)
    (portOpen : object.client.portOpen = true) (upToDate : object.client.UpToDate setOrder)
    (room : plc.handles.length < 2 ^ 32) :
    ∃ outcome later next, object.invoke setOrder program methodName args plc =
        (outcome, { object with client := later }, { plc with state := next }) ∧
      method.CalledDirectly args plc.state outcome next ∧ RpcClient.Informed setOrder object.client later := by
  have arguments := writeArguments_eq setOrder object methodName args
  rw [offers.inputs] at arguments
  rw [invoke, offers.callable, arguments]
  cases packed : packMethodArgs method.plcTypes args with
  | error e => exact ⟨.error e, object.client, plc.state, rfl, .refused packed, .refl _⟩
  | ok payload =>
    obtain ⟨words, packs, sent⟩ := packMethodArgs_eq_ok.mp packed
    obtain ⟨values, received, inputs⟩ := receiveInputs_words method.delimited (takes payload packed) packs
    have whole : payload.getD [] = words.flatten := by
      rw [sent]
      split
      · rename_i empty
        exact empty.symm
      · rfl
    rw [← whole] at received
    obtain ⟨before, name, after, split, unknown, known, typed⟩ := offers.found
    obtain ⟨value, later, called, result, informed⟩ := PlcProgram.callCandidates_executed portOpen upToDate
      unknown known typed room received after .attributeError
    refine ⟨_, later, _, ?_, .executed inputs result, informed⟩
    simp only [Bool.false_eq_true, ↓reduceIte, Except.map]
    rw [split, called]

end RemoteObject

namespace RemoteSystem
variable {ι σ : Type} [DecidableEq ι]

/-- The proxies can still do what they could at the beginning, and no handle of a call is open. -/
structure Serves (setOrder : List String → List String) (first system : RemoteSystem ι σ) (state : σ) : Prop where
  plc : system.plc = { first.plc with state := state }
  objects : ∀ i, ∃ later, system.objects i = { first.objects i with client := later } ∧
    RpcClient.Informed setOrder (first.objects i).client later

/-- Calls through any number of proxies, each with an open connection of its own
and the return types kept so far up to date, do what the same calls do directly
on the object in the PLC: each executes its method once, on equal values, and
returns an equal result, or is refused because its arguments cannot be packed.
All handles are released. -/
theorem calls_direct (setOrder : List String → List String) (program : PlcProgram σ) (system : RemoteSystem ι σ)
    (method : RemoteCall ι → PlcMethod σ) (portOpen : ∀ i, (system.objects i).client.portOpen = true)
    (upToDate : ∀ i, (system.objects i).client.UpToDate setOrder) (room : system.plc.handles.length < 2 ^ 32)
    (calls : List (RemoteCall ι)) (offered : ∀ call ∈ calls,
      (system.objects call.proxy).Offers setOrder program call.methodName (method call) ∧
        (method call).Takes call.args) :
    ∃ last, Explained (fun state call => (method call).CalledDirectly call.args state) system.plc.state calls
        (run (perform setOrder program) system calls).1 last ∧
      (run (perform setOrder program) system calls).2.plc = { system.plc with state := last } := by
  have start : Serves setOrder system system system.plc.state := ⟨rfl, fun i => ⟨_, rfl, .refl _⟩⟩
  have simulated (now : RemoteSystem ι σ) (state : σ) (call : RemoteCall ι) (serves : Serves setOrder system now state)
      (lawful : (system.objects call.proxy).Offers setOrder program call.methodName (method call) ∧
        (method call).Takes call.args) :
      ∃ next, (method call).CalledDirectly call.args state (perform setOrder program now call).1 next ∧
        Serves setOrder system (perform setOrder program now call).2 next := by
    obtain ⟨client, held, informed⟩ := serves.objects call.proxy
    have free : now.plc.handles.length < 2 ^ 32 := by
      rw [serves.plc]
      exact room
    have offers := lawful.1.informed informed
    rw [← held] at offers
    obtain ⟨outcome, later, next, invoked, direct, more⟩ := offers.invoke_direct lawful.2
      (by rw [held]; exact informed.port.trans (portOpen _)) (by rw [held]; exact informed.upToDate (upToDate _)) free
    refine ⟨next, ?_, ?_, ?_⟩
    · rw [perform, invoked]
      rw [serves.plc] at direct
      exact direct
    · rw [perform, invoked, serves.plc]
    · intro i
      rw [perform, invoked]
      by_cases same : i = call.proxy
      · subst same
        rw [held] at more
        exact ⟨later, by simp only [Function.update_self, held], informed.trans more⟩
      · simp only [Function.update_of_ne same]
        exact serves.objects i
  obtain ⟨last, explained, serves⟩ := run_explained simulated start offered
  exact ⟨last, explained, serves.plc⟩

end RemoteSystem

/-! ## The reference program -/

/-- The variables of the reference program that its methods use. -/
structure ReferenceState where
  fbStepChain : FunctionBlock
  xStepChainForceError : Bool

namespace ReferenceProgram

theorem int_kept (lower : -2 ^ 15 ≤ i) (upper : i < 2 ^ 15) : CType.Keeps .int16 (.int i) := by
  refine ⟨.int i, i, ⟨i, rfl, ?_⟩, rfl, rfl⟩
  simp only [IntFits, StructFormat.size, CType.format, ↓reduceIte]
  omega

theorem udint_kept (n : Nat) (upper : n < 2 ^ 32) : (ParameterType.number .uint32).Keeps (.int n) := by
  refine ⟨.int n, n, ⟨n, rfl, ?_⟩, rfl, rfl⟩
  simp only [IntFits, StructFormat.size, CType.format, Bool.false_eq_true, ↓reduceIte]
  omega

theorem bool_kept (b : Bool) : CType.Keeps .bool (.bool b) := ⟨.bool b, if b then 1 else 0, ⟨b, rfl⟩, rfl, rfl⟩

/-- `m_iSimpleCall` -/
def simpleCall : PlcMethod ReferenceState where
  inputs := []
  delimited := .nil
  resultType := .int16
  body := fun _ state => (.int 10, state)
  fits := fun _ _ => int_kept (by decide) (by decide)

/-- `m_iSum`; an INT keeps 16 bits of the sum. -/
def sum : PlcMethod ReferenceState where
  inputs := [.number .int16, .number .int16]
  delimited := by simp [Delimited]
  resultType := .int16
  body := fun values state =>
    match values.map PyVal.asInt? with
    | [some iA, some iB] => (.int (Int.bmod (iA + iB) (2 ^ 16)), state)
    | _ => (.int 0, state)
  fits := by
    intro values state
    split
    · rename_i iA iB _
      have lower := @Int.le_bmod (iA + iB) (2 ^ 16) (by decide)
      have upper := @Int.bmod_lt (iA + iB) (2 ^ 16) (by decide)
      exact int_kept (by omega) (by omega)
    · exact int_kept (by decide) (by decide)

/-- `m_xStartStepChain` -/
def startStepChain : PlcMethod ReferenceState where
  inputs := [.number .uint32]
  delimited := by simp [Delimited]
  resultType := .bool
  body := fun values state =>
    match values.map PyVal.asInt? with
    | [some udiRequestId] =>
      let (accepted, fb) := state.fbStepChain.start udiRequestId.toNat state.xStepChainForceError
      (.bool accepted, { state with fbStepChain := fb })
    | _ => (.bool false, state)
  fits := by
    intro values state
    split <;> exact bool_kept _

/-- `m_xAbortStepChain` -/
def abortStepChain : PlcMethod ReferenceState where
  inputs := []
  delimited := .nil
  resultType := .bool
  body := fun _ state =>
    let (aborted, fb) := state.fbStepChain.abort
    (.bool aborted, { state with fbStepChain := fb })
  fits := fun _ _ => bool_kept _

def methods : List (String × PlcMethod ReferenceState) :=
  [("GVL.fbTestRemoteMethodCall#m_iSimpleCall", simpleCall), ("GVL.fbTestRemoteMethodCall#m_iSum", sum),
    ("GVL.fbStepChain#m_xStartStepChain", startStepChain), ("GVL.fbStepChain#m_xAbortStepChain", abortStepChain)]

/-- The smallest number that is not in use. -/
def leastUnused (used : List UInt32) : UInt32 :=
  (((List.range (used.length + 1)).map UInt32.ofNat).find? (· ∉ used)).getD 0

theorem leastUnused_fresh (used : List UInt32) (room : used.length < 2 ^ 32) : leastUnused used ∉ used := by
  cases found : ((List.range (used.length + 1)).map UInt32.ofNat).find? (· ∉ used) with
  | some handle =>
    rw [leastUnused, found]
    simpa using List.find?_some found
  | none =>
    -- more numbers than are in use cannot all be among them
    have all : (List.range (used.length + 1)).map UInt32.ofNat ⊆ used := by
      intro handle member
      simpa using List.find?_eq_none.mp found handle member
    have distinct : ((List.range (used.length + 1)).map UInt32.ofNat).Nodup := by
      refine List.Nodup.map_on ?_ List.nodup_range
      intro i small j below same
      have numbers := congrArg UInt32.toNat same
      rw [List.mem_range] at small below
      simp only [UInt32.toNat_ofNat'] at numbers
      omega
    have length := (distinct.subperm all).length_le
    rw [List.length_map, List.length_range] at length
    omega

end ReferenceProgram

/-- The methods of the reference program that can be called from outside. -/
def referenceProgram : PlcProgram ReferenceState where
  method? := fun name => ReferenceProgram.methods.lookup name
  newHandle := ReferenceProgram.leastUnused
  fresh := ReferenceProgram.leastUnused_fresh

namespace ReferenceProgram

/-- The proxy of an object, on an open connection. -/
def remoteObject (objectName : String) (settings : ProxySettings) : RemoteObject where
  client := ⟨{ tankSession with port := some 30000, isOpen := true }, fun _ => .error (.adsError 1808),
    (RpcProxy.new objectName settings).object⟩
  methodParameters := (RpcProxy.new objectName settings).methodParameters

/-- A proxy for each of the two function blocks. -/
def proxies : Bool → RemoteObject
  | false => remoteObject "GVL.fbTestRemoteMethodCall"
    { methodReturnTypes := OrderedDict.empty.setAll [("m_iSimpleCall", plcInt), ("m_iSum", plcInt)]
      methodParameters := OrderedDict.empty.set "m_iSum" [plcInt, plcInt] }
  | true => remoteObject "GVL.fbStepChain"
    { methodReturnTypes := OrderedDict.empty.setAll
        [("m_xStartStepChain", .ctypes (.simple .bool)), ("m_xAbortStepChain", .ctypes (.simple .bool))]
      methodParameters := OrderedDict.empty.set "m_xStartStepChain" [PLCTYPE_UDINT] }

def system : RemoteSystem Bool ReferenceState := ⟨proxies, ⟨⟨FunctionBlock.initial, false⟩, []⟩⟩

/-- The sum of two numbers, a start and its repetition, an abort, and a sum with too few arguments. -/
def calls : List (RemoteCall Bool) :=
  [⟨false, "iSum", [.int 5, .int 10]⟩, ⟨true, "m_xStartStepChain", [.int 70000]⟩, ⟨true, "xStartStepChain", [.int 8]⟩,
    ⟨true, "m_xAbortStepChain", []⟩, ⟨false, "m_iSum", [.int 5]⟩]

def methodOf (call : RemoteCall Bool) : PlcMethod ReferenceState :=
  if call.proxy then if call.methodName = "m_xAbortStepChain" then abortStepChain else startStepChain else sum

example : (run (RemoteSystem.perform id referenceProgram) system calls).1.map
    (fun outcome => match outcome with | .ok (.value value, _) => value.asInt? | _ => none) =
    [some 15, some 1, some 0, some 1, none] := by decide +kernel

theorem proxies_upToDate (proxy : Bool) : (proxies proxy).client.UpToDate id := by
  apply RpcClient.upToDate_iff.mpr
  intro name spec kept
  cases proxy <;> cases kept

theorem sum_offered (methodName : String) (called : methodName ∈ ["iSum", "m_iSum"]) :
    (proxies false).Offers id referenceProgram methodName sum := by
  rcases List.mem_pair.mp called with rfl | rfl
  · exact ⟨rfl, rfl, ["GVL.fbTestRemoteMethodCall#iSum"], "GVL.fbTestRemoteMethodCall#m_iSum", [], by decide +kernel,
      by simp only [List.forall_mem_singleton]; exact ⟨rfl, _, rfl⟩, rfl, rfl⟩
  · exact ⟨rfl, rfl, [], "GVL.fbTestRemoteMethodCall#m_iSum", [], by decide +kernel, by simp, rfl, rfl⟩

theorem startStepChain_offered (methodName : String) (called : methodName ∈ ["xStartStepChain", "m_xStartStepChain"]) :
    (proxies true).Offers id referenceProgram methodName startStepChain := by
  rcases List.mem_pair.mp called with rfl | rfl
  · exact ⟨rfl, rfl, ["GVL.fbStepChain#xStartStepChain"], "GVL.fbStepChain#m_xStartStepChain", [], by decide +kernel,
      by simp only [List.forall_mem_singleton]; exact ⟨rfl, _, rfl⟩, rfl, rfl⟩
  · exact ⟨rfl, rfl, [], "GVL.fbStepChain#m_xStartStepChain", [], by decide +kernel, by simp, rfl, rfl⟩

theorem abortStepChain_offered : (proxies true).Offers id referenceProgram "m_xAbortStepChain" abortStepChain :=
  ⟨rfl, rfl, [], "GVL.fbStepChain#m_xAbortStepChain", [], by decide +kernel, by simp, rfl, rfl⟩

theorem calls_offered : ∀ call ∈ calls,
    (proxies call.proxy).Offers id referenceProgram call.methodName (methodOf call) ∧
      (methodOf call).Takes call.args := by
  have number (i : Int) (lower : -2 ^ 15 ≤ i) (upper : i < 2 ^ 15) : (ParameterType.number .int16).Keeps (.int i) :=
    int_kept lower upper
  simp only [calls, List.forall_mem_cons, List.not_mem_nil, false_implies, implies_true, and_true]
  refine ⟨⟨sum_offered _ (by decide), fun _ _ => ?_⟩, ⟨startStepChain_offered _ (by decide), fun _ _ => ?_⟩,
    ⟨startStepChain_offered _ (by decide), fun _ _ => ?_⟩, ⟨abortStepChain_offered, fun _ _ => .nil⟩,
    sum_offered _ (by decide), fun payload packed => ?_⟩
  · exact .cons (number 5 (by decide) (by decide)) (.cons (number 10 (by decide) (by decide)) .nil)
  · exact .cons (udint_kept 70000 (by decide)) .nil
  · exact .cons (udint_kept 8 (by decide)) .nil
  · cases packed

/-- Two proxies of the reference program, on connections of their own. -/
theorem calls_executed : ∃ last,
    Explained (fun state call => (methodOf call).CalledDirectly call.args state) ⟨FunctionBlock.initial, false⟩ calls
        (run (RemoteSystem.perform id referenceProgram) system calls).1 last ∧
      (run (RemoteSystem.perform id referenceProgram) system calls).2.plc = ⟨last, []⟩ :=
  RemoteSystem.calls_direct id referenceProgram system methodOf (fun proxy => by cases proxy <;> rfl) proxies_upToDate
    (by decide) calls calls_offered

end ReferenceProgram

end PyAds
