import PyAds.Base.Retry
import PyAds.MethodNames

/-! Calls of remote methods. A call asks for a handle, calls the method through
it and releases the handle; if one of these requests reports an unknown symbol,
the next candidate name is tried. -/
namespace PyAds
open Fallible Retry

/-- What the PLC answers to the three requests for one name. The method is
executed by a second request that succeeds. -/
structure MethodAnswers where
  adsGetHandle : Result UInt32
  readWrite : UInt32 → Nat → Bytes → Result Bytes
  adsReleaseHandle : UInt32 → Result Unit

/-- The arguments of `_invoke`, once they are packed. -/
structure MethodCall where
  returnType : Option PlcDataType
  writeValue : PyVal
  writeType : Option PlcDataType
  methodNameOverride : Option String

/-! ## Combined requests -/

/-- The number of bytes that are asked for, and those that are sent. -/
def readWriteRequest (readDataType : Option PlcDataType) (value : PyVal) (writeDataType : Option PlcDataType) :
    Result (Nat × Bytes) := do
  let readLength ← match readDataType with
    | none => pure 0
    | some plcDatatype => bufferSize plcDatatype
  let data ← readWriteData writeDataType value
  return (readLength, data)

/-- What is made of the answer. -/
def readWriteValue (readDataType : Option PlcDataType) (readLength : Nat) (reply : Bytes) : Result PlainValue := do
  let variableLength := readDataType.any fun plcDatatype => typeIsString plcDatatype || typeIsWstring plcDatatype
  if ¬ variableLength ∧ reply.length ≠ readLength then
    throw (.runtimeError s!"Insufficient data (expected {readLength} bytes, {reply.length} were read).")
  match readDataType with
  | none => return .value .none
  | some plcDatatype => getValueFromCtypeData (responseBuffer readLength reply) plcDatatype

/-- `adsSyncReadWriteReqEx2` outside the sum commands: what is made of the
answer, if there is one, and what is returned or raised. -/
def adsSyncReadWriteReqEx2 (device : Nat → Bytes → Result Bytes) (readDataType : Option PlcDataType) (value : PyVal)
    (writeDataType : Option PlcDataType) : Option (Result PlainValue) × Result PlainValue :=
  match readWriteRequest readDataType value writeDataType with
  | .error e => (none, .error e)
  | .ok (readLength, data) =>
    match device readLength data with
    | .error e => (none, .error e)
    | .ok reply => (some (readWriteValue readDataType readLength reply), readWriteValue readDataType readLength reply)

/-- `call_rpc_method`: the result of the method, if it is executed, and the
outcome of the call. What the release raises takes the place of either. -/
def MethodAnswers.callRpcMethod (answers : MethodAnswers) (portOpen : Bool) (returnType : Option PlcDataType)
    (writeValue : PyVal) (writeType : Option PlcDataType) : Option (Result PlainValue) × Result PlainValue :=
  if portOpen then
    match answers.adsGetHandle with
    | .error e => (none, .error e)
    | .ok handle =>
      let (executed, outcome) := adsSyncReadWriteReqEx2 (answers.readWrite handle) returnType writeValue writeType
      match answers.adsReleaseHandle handle with
      | .error e => (executed, .error e)
      | .ok () => (executed, outcome)
  else (none, .ok (.value .none))

/-! ## Candidates -/

/-- A returned value, and whether a list is to be made bytes. -/
abbrev MethodResult := Result (PlainValue × Bool)

namespace RpcClient

def portOpen (client : RpcClient) : Bool := client.session.port.isSome

/-- The loop of `_invoke`: the results of all executions, and the outcome. -/
def callCandidates (setOrder : List String → List String) (answers : String → MethodAnswers) (call : MethodCall) :
    List String → PyError → RpcClient → List MethodResult × MethodResult
  | [], lastError, _ => ([], .error lastError)
  | candidateName :: candidateNames, _, client =>
    match client.resolvedSpec setOrder call.returnType candidateName with
    | (.error e, _) => ([], .error e)
    | (.ok (resolvedReturnType, coerceBytes), client) =>
      let (executed, outcome) :=
        (answers candidateName).callRpcMethod client.portOpen resolvedReturnType call.writeValue call.writeType
      let executions := executed.toList.map (·.map (·, coerceBytes))
      match outcome with
      | .ok result => (executions, .ok (result, coerceBytes))
      | .error (.adsError 1808) =>
        let (later, outcome) := client.callCandidates setOrder answers call candidateNames (.adsError 1808)
        (executions ++ later, outcome)
      | .error e => (executions, .error e)

/-- `_invoke` behind the packing of its arguments; a name that is given with the
call is the only one that is called. -/
def callMethod (setOrder : List String → List String) (answers : String → MethodAnswers) (methodName : String)
    (call : MethodCall) (client : RpcClient) : List MethodResult × MethodResult :=
  match call.methodNameOverride with
  | some methodNameOverride =>
    let (executed, outcome) :=
      (answers methodNameOverride).callRpcMethod client.portOpen call.returnType call.writeValue call.writeType
    (executed.toList.map (·.map (·, false)), outcome.map (·, false))
  | none => client.callCandidates setOrder answers call (client.object.candidateMethodNames methodName) .attributeError

/-- The names that may be called one after the other, with the types of their results. -/
def calledNames (setOrder : List String → List String) (methodName : String) (call : MethodCall) (client : RpcClient) :
    List (String × Result ReturnSpec) :=
  match call.methodNameOverride with
  | some methodNameOverride => [(methodNameOverride, .ok (call.returnType, false))]
  | none => (client.object.candidateMethodNames methodName).map fun candidateName =>
      (candidateName, (client.resolvedSpec setOrder call.returnType candidateName).1)

end RpcClient

/-! ## Requests for one name -/

namespace MethodAnswers
variable (answers : MethodAnswers) (call : MethodCall)

/-- The method is executed through the handle: the lookup succeeds, and so does
the request. -/
def Executes (spec : Result ReturnSpec) (handle : UInt32) (result : Result PlainValue) : Prop :=
  ∃ returnType coerceBytes readLength data reply, spec = .ok (returnType, coerceBytes) ∧
    answers.adsGetHandle = .ok handle ∧
    readWriteRequest returnType call.writeValue call.writeType = .ok (readLength, data) ∧
    answers.readWrite handle readLength data = .ok reply ∧ readWriteValue returnType readLength reply = result

/-- The lookup reports an unknown symbol, or the release does, or the request
for the method and not the release. -/
def UnknownSymbol (spec : Result ReturnSpec) : Prop :=
  ∃ returnType coerceBytes, spec = .ok (returnType, coerceBytes) ∧
    (answers.adsGetHandle = .error (.adsError 1808) ∨
      ∃ handle, answers.adsGetHandle = .ok handle ∧
        (answers.adsReleaseHandle handle = .error (.adsError 1808) ∨
          answers.adsReleaseHandle handle = .ok () ∧
            (readWriteRequest returnType call.writeValue call.writeType >>= fun request =>
              answers.readWrite handle request.1 request.2) = .error (.adsError 1808)))

end MethodAnswers

/-- The end of a turn of the loop. -/
def endingOf (coerceBytes : Bool) : Result PlainValue → Ending PyError (PlainValue × Bool)
  | .ok result => .done (.ok (result, coerceBytes))
  | .error (.adsError 1808) => .again (.adsError 1808)
  | .error e => .done (.error e)

theorem endingOf_cases (coerceBytes : Bool) (outcome : Result PlainValue) :
    outcome = .error (.adsError 1808) ∧ endingOf coerceBytes outcome = .again (.adsError 1808) ∨
      outcome ≠ .error (.adsError 1808) ∧ endingOf coerceBytes outcome = .done (outcome.map (·, coerceBytes)) := by
  unfold endingOf
  split
  · exact .inr ⟨by rintro ⟨⟩, rfl⟩
  · exact .inl ⟨rfl, rfl⟩
  · rename_i e other
    refine .inr ⟨?_, rfl⟩
    intro same
    exact other (Except.error.inj same)

/-- The call of one name, with the type of its result. -/
def attempt (portOpen : Bool) (answers : String → MethodAnswers) (call : MethodCall)
    (entry : String × Result ReturnSpec) : Attempt PyError (PlainValue × Bool) :=
  match entry.2 with
  | .error e => ⟨none, .done (.error e)⟩
  | .ok (returnType, coerceBytes) =>
    let (executed, outcome) := (answers entry.1).callRpcMethod portOpen returnType call.writeValue call.writeType
    ⟨executed.map (·.map (·, coerceBytes)), endingOf coerceBytes outcome⟩

/-! ## The loop as a sequence of attempts -/

namespace RpcClient

theorem portOpen_resolvedSpec (setOrder : List String → List String) (returnType : Option PlcDataType)
    (client : RpcClient) (name : String) :
    (client.resolvedSpec setOrder returnType name).2.portOpen = client.portOpen := by
  have asked : (client.getSymbolInfo name).2.portOpen = client.portOpen := by
    unfold getSymbolInfo
    split
    · split
      · rfl
      · split <;> rfl
    · rfl
  cases returnType with
  | some plcType => rfl
  | none =>
    rw [resolvedSpec, inferReturnSpec]
    split
    · rfl
    · split
      · rfl
      · rfl
      · split
        · rename_i found
          rw [found] at asked
          exact asked
        · rename_i found
          rw [found] at asked
          split <;> exact asked

/-- What is inferred for a name does not depend on the names before it. -/
theorem resolvedSpec_later (setOrder : List String → List String) (returnType : Option PlcDataType)
    (client : RpcClient) {name other : String} (ne : name ≠ other) :
    ((client.resolvedSpec setOrder returnType name).2.resolvedSpec setOrder returnType other).1 =
      (client.resolvedSpec setOrder returnType other).1 := by
  cases returnType with
  | some plcType => rfl
  | none =>
    simp only [resolvedSpec]
    cases held : client.object.returnSpecCache.get? name with
    | some spec => rw [inferReturnSpec_kept held]
    | none =>
      obtain ⟨-, filled, more, same⟩ := @inferReturnSpec_anew setOrder _ _ held
      have cache : (client.inferReturnSpec setOrder name).2.object.returnSpecCache.get? other =
          client.object.returnSpecCache.get? other := by
        rcases same with same | ⟨spec, -, same⟩
        · rw [same, more.object]
        · rw [same]
          change (filled.object.returnSpecCache.set name spec).get? other = _
          rw [OrderedDict.get?_set, if_neg ne, more.object]
      have fresh : (client.inferReturnSpec setOrder name).2.freshSpec setOrder other =
          client.freshSpec setOrder other := by
        rcases same with same | ⟨spec, -, same⟩
        · rw [same, more.freshSpec]
        · rw [same]
          exact more.freshSpec setOrder other
      cases kept : client.object.returnSpecCache.get? other with
      | some spec => rw [inferReturnSpec_kept kept, inferReturnSpec_kept (cache.trans kept)]
      | none => rw [(inferReturnSpec_anew kept).1, (inferReturnSpec_anew (cache.trans kept)).1, fresh]

theorem callCandidates_eq_run (setOrder : List String → List String) (answers : String → MethodAnswers)
    (call : MethodCall) {candidateNames : List String} (nodup : candidateNames.Nodup) (lastError : PyError)
    (client : RpcClient) :
    client.callCandidates setOrder answers call candidateNames lastError =
      run ((candidateNames.map fun name => (name, (client.resolvedSpec setOrder call.returnType name).1)).map
        (attempt client.portOpen answers call)) lastError := by
  induction candidateNames generalizing client lastError with
  | nil => rfl
  | cons name candidateNames ih =>
    obtain ⟨fresh, nodup⟩ := List.nodup_cons.mp nodup
    have port := portOpen_resolvedSpec setOrder call.returnType client name
    have others : (candidateNames.map fun other =>
        (other, ((client.resolvedSpec setOrder call.returnType name).2.resolvedSpec setOrder call.returnType other).1)) =
        candidateNames.map fun other => (other, (client.resolvedSpec setOrder call.returnType other).1) := by
      apply List.map_congr_left
      intro other member
      rw [resolvedSpec_later]
      rintro rfl
      exact fresh member
    rw [callCandidates, List.map_cons, List.map_cons, run, attempt]
    cases found : client.resolvedSpec setOrder call.returnType name with
    | mk answer later =>
      rw [found] at port others
      dsimp only at port others ⊢
      cases answer with
      | error e => rfl
      | ok spec =>
        obtain ⟨returnType, coerceBytes⟩ := spec
        dsimp only
        rw [port]
        cases called : (answers name).callRpcMethod client.portOpen returnType call.writeValue call.writeType with
        | mk executed outcome =>
          have effects : (executed.map (·.map (·, coerceBytes)) : Option MethodResult).toList =
              executed.toList.map (·.map (·, coerceBytes)) := by
            cases executed <;> rfl
          dsimp only
          rw [← effects]
          unfold endingOf
          split
          · rfl
          · rw [ih nodup, port, others]
          · rfl

/-- Apart from the executions, the loop is the one through which the inferred
types go. -/
theorem invokeCandidates_eq (setOrder : List String → List String) (answers : String → MethodAnswers) (call : MethodCall)
    (plain : PlainValue → PyVal) (candidateNames : List String) (lastError : PyError) {client : RpcClient}
    (port : client.portOpen = isOpen) :
    (client.invokeCandidates setOrder call.returnType (fun name returnType =>
        ((answers name).callRpcMethod isOpen returnType call.writeValue call.writeType).2.map plain)
        candidateNames lastError).1 =
      (client.callCandidates setOrder answers call candidateNames lastError).2.map fun result =>
        (plain result.1, result.2) := by
  induction candidateNames generalizing client lastError with
  | nil => rfl
  | cons name candidateNames ih =>
    have later := portOpen_resolvedSpec setOrder call.returnType client name
    rw [invokeCandidates, callCandidates]
    cases found : client.resolvedSpec setOrder call.returnType name with
    | mk answer next =>
      rw [found] at later
      have same : next.portOpen = isOpen := later.trans port
      cases answer with
      | error e => rfl
      | ok spec =>
        obtain ⟨returnType, coerceBytes⟩ := spec
        dsimp only
        rw [same]
        cases called : (answers name).callRpcMethod isOpen returnType call.writeValue call.writeType with
        | mk executed outcome =>
          cases outcome with
          | ok result => rfl
          | error e =>
            by_cases unknown : e = .adsError 1808
            · subst unknown
              exact ih _ same
            · simp only [Except.map]

theorem nodup_candidateMethodNames (object : RpcObject) (methodName : String) :
    (object.candidateMethodNames methodName).Nodup := by
  rw [RpcObject.candidateMethodNames, RpcObject.distinct, ← OrderedDict.keys_fromKeys _ ()]
  exact (OrderedDict.fromKeys _ ()).nodup

theorem callMethod_eq_run (setOrder : List String → List String) (answers : String → MethodAnswers)
    (methodName : String) (call : MethodCall) (client : RpcClient) :
    client.callMethod setOrder answers methodName call =
      run ((client.calledNames setOrder methodName call).map (attempt client.portOpen answers call)) .attributeError := by
  unfold callMethod calledNames
  cases call.methodNameOverride with
  | none => exact callCandidates_eq_run setOrder answers call (nodup_candidateMethodNames ..) _ client
  | some name =>
    dsimp only
    cases called : (answers name).callRpcMethod client.portOpen call.returnType call.writeValue call.writeType with
    | mk executed outcome =>
      have effects : executed.toList.map (·.map (·, false)) =
          (executed.map (·.map (·, false)) : Option MethodResult).toList := by
        cases executed <;> rfl
      rw [effects, List.map_singleton, run, attempt]
      simp only [called]
      rcases endingOf_cases false outcome with ⟨rfl, again⟩ | ⟨-, done⟩
      · rw [again]
        simp [run, Except.map]
      · rw [done]

end RpcClient

/-! ## One attempt -/

section Attempts
variable {answers : String → MethodAnswers} {call : MethodCall} {entry : String × Result ReturnSpec}

theorem getValueFromCtypeData_no_adsError (readData : Bytes) (plcType : PlcDataType) (code : Nat) :
    getValueFromCtypeData readData plcType ≠ .error (.adsError code) := by
  unfold getValueFromCtypeData TextCoding.nullIdx decodeUtf8 decodeUtf16
  intro raised
  split at raised
  · cases decoded : Text.Utf8.decode (beforeZero readData) <;> simp [decoded, bind, Except.bind, pure, Except.pure] at raised
  · split at raised
    · cases terminated : findWstringNullTerminator readData with
      | none => simp [terminated, bind, Except.bind] at raised
      | some nullIdx =>
        cases decoded : Text.Utf16.decode (readData.take nullIdx) <;>
          simp [terminated, decoded, bind, Except.bind, pure, Except.pure] at raised
    · split at raised <;> cases raised

/-- The error that lets the next name follow comes from a request, and not from
what is made of an answer. -/
theorem readWriteValue_no_adsError (readDataType : Option PlcDataType) (readLength : Nat) (reply : Bytes) (code : Nat) :
    readWriteValue readDataType readLength reply ≠ .error (.adsError code) := by
  unfold readWriteValue
  dsimp only
  split
  · rintro ⟨⟩
  · cases readDataType with
    | none => rintro ⟨⟩
    | some plcType => exact getValueFromCtypeData_no_adsError _ plcType code

/-- What is made of the answer to a request that succeeds, and the errors of the
other requests. -/
theorem adsSyncReadWriteReqEx2_cases (device : Nat → Bytes → Result Bytes) (readDataType : Option PlcDataType)
    (value : PyVal) (writeDataType : Option PlcDataType) :
    (∃ e, (readWriteRequest readDataType value writeDataType >>= fun request => device request.1 request.2) = .error e ∧
      adsSyncReadWriteReqEx2 device readDataType value writeDataType = (none, .error e)) ∨
    ∃ readLength data reply, readWriteRequest readDataType value writeDataType = .ok (readLength, data) ∧
      device readLength data = .ok reply ∧ adsSyncReadWriteReqEx2 device readDataType value writeDataType =
        (some (readWriteValue readDataType readLength reply), readWriteValue readDataType readLength reply) := by
  unfold adsSyncReadWriteReqEx2
  cases built : readWriteRequest readDataType value writeDataType with
  | error e => exact .inl ⟨e, rfl, rfl⟩
  | ok request =>
    obtain ⟨readLength, data⟩ := request
    cases answered : device readLength data with
    | error e => exact .inl ⟨e, answered, by simp [answered]⟩
    | ok reply => exact .inr ⟨readLength, data, reply, rfl, answered, by simp [answered]⟩

/-- What a call of one name does on an open port. -/
theorem callRpcMethod_cases (answers : MethodAnswers) (returnType : Option PlcDataType) (writeValue : PyVal)
    (writeType : Option PlcDataType) :
    (∃ e, answers.adsGetHandle = .error e ∧
      answers.callRpcMethod true returnType writeValue writeType = (none, .error e)) ∨
    ∃ handle, answers.adsGetHandle = .ok handle ∧
      answers.callRpcMethod true returnType writeValue writeType =
        ((adsSyncReadWriteReqEx2 (answers.readWrite handle) returnType writeValue writeType).1,
          answers.adsReleaseHandle handle >>= fun _ =>
            (adsSyncReadWriteReqEx2 (answers.readWrite handle) returnType writeValue writeType).2) := by
  unfold MethodAnswers.callRpcMethod
  rw [if_pos rfl]
  cases answers.adsGetHandle with
  | error e => exact .inl ⟨e, rfl, rfl⟩
  | ok handle =>
    refine .inr ⟨handle, rfl, ?_⟩
    cases released : answers.adsReleaseHandle handle <;> simp [released, bind, Except.bind]

/-- An attempt fails before the method is executed, or executes it and then
releases the handle. -/
theorem attempt_cases (answers : String → MethodAnswers) (call : MethodCall) (name : String)
    (returnType : Option PlcDataType) (coerceBytes : Bool) :
    (∃ e, (answers name).adsGetHandle = .error e ∧
      attempt true answers call (name, .ok (returnType, coerceBytes)) = ⟨none, endingOf coerceBytes (.error e)⟩) ∨
    (∃ handle e, (answers name).adsGetHandle = .ok handle ∧
      (readWriteRequest returnType call.writeValue call.writeType >>= fun request =>
        (answers name).readWrite handle request.1 request.2) = .error e ∧
      attempt true answers call (name, .ok (returnType, coerceBytes)) =
        ⟨none, endingOf coerceBytes ((answers name).adsReleaseHandle handle >>= fun _ => .error e)⟩) ∨
    ∃ handle readLength data reply, (answers name).adsGetHandle = .ok handle ∧
      readWriteRequest returnType call.writeValue call.writeType = .ok (readLength, data) ∧
      (answers name).readWrite handle readLength data = .ok reply ∧
      attempt true answers call (name, .ok (returnType, coerceBytes)) =
        ⟨some ((readWriteValue returnType readLength reply).map (·, coerceBytes)),
          endingOf coerceBytes ((answers name).adsReleaseHandle handle >>= fun _ =>
            readWriteValue returnType readLength reply)⟩ := by
  unfold attempt
  dsimp only
  obtain ⟨e, lookup, called⟩ | ⟨handle, lookup, called⟩ :=
    callRpcMethod_cases (answers name) returnType call.writeValue call.writeType
  · refine .inl ⟨e, lookup, ?_⟩
    rw [called]
    rfl
  · obtain ⟨e, failed, read⟩ | ⟨readLength, data, reply, built, answered, read⟩ :=
      adsSyncReadWriteReqEx2_cases ((answers name).readWrite handle) returnType call.writeValue call.writeType
    · refine .inr (.inl ⟨handle, e, lookup, failed, ?_⟩)
      rw [called, read]
      rfl
    · refine .inr (.inr ⟨handle, readLength, data, reply, lookup, built, answered, ?_⟩)
      rw [called, read]
      rfl

theorem endingOf_eq_done_ok {outcome : Result PlainValue} :
    endingOf coerceBytes outcome = .done (.ok value) ↔ outcome.map (·, coerceBytes) = .ok value := by
  obtain ⟨rfl, again⟩ | ⟨-, done⟩ := endingOf_cases coerceBytes outcome
  · rw [again]
    exact iff_of_false (by rintro ⟨⟩) (by rintro ⟨⟩)
  · rw [done]
    exact ⟨fun same => by injection same, fun same => by rw [same]⟩

theorem endingOf_eq_again {outcome : Result PlainValue} :
    (∃ error, endingOf coerceBytes outcome = .again error) ↔ outcome = .error (.adsError 1808) := by
  obtain ⟨same, again⟩ | ⟨other, done⟩ := endingOf_cases coerceBytes outcome
  · exact iff_of_true ⟨_, again⟩ same
  · rw [done]
    exact iff_of_false (by rintro ⟨_, ⟨⟩⟩) other

theorem attempt_honest (answers : String → MethodAnswers) (call : MethodCall) (entry : String × Result ReturnSpec) :
    (attempt true answers call entry).Honest := by
  obtain ⟨name, spec⟩ := entry
  intro value ended
  cases spec with
  | error e => cases ended
  | ok spec =>
    obtain ⟨returnType, coerceBytes⟩ := spec
    obtain ⟨e, -, made⟩ | ⟨handle, e, -, -, made⟩ | ⟨handle, readLength, data, reply, -, -, -, made⟩ :=
      attempt_cases answers call name returnType coerceBytes
    · rw [made] at ended
      cases endingOf_eq_done_ok.mp ended
    · rw [made] at ended
      have failed := endingOf_eq_done_ok.mp ended
      cases released : (answers name).adsReleaseHandle handle <;> rw [released] at failed <;> cases failed
    · rw [made]
      exact ⟨_, rfl⟩

/-- An attempt is sound exactly if the release succeeds and the answer has a
value, where the method is executed. -/
theorem attempt_sound_iff {answers : String → MethodAnswers} {call : MethodCall} :
    (attempt true answers call (name, spec)).Sound ↔ ∀ handle result, (answers name).Executes call spec handle result →
      (answers name).adsReleaseHandle handle = .ok () ∧ ∃ value, result = .ok value := by
  cases spec with
  | error e =>
    apply iff_of_true
    · rintro result ⟨⟩
    · rintro handle result ⟨_, _, _, _, _, ⟨⟩, _⟩
  | ok spec =>
    obtain ⟨returnType, coerceBytes⟩ := spec
    obtain ⟨e, lookup, made⟩ | ⟨handle, e, lookup, failed, made⟩ |
      ⟨handle, readLength, data, reply, lookup, built, answered, made⟩ :=
      attempt_cases answers call name returnType coerceBytes
    · rw [made]
      apply iff_of_true
      · rintro result ⟨⟩
      · rintro handle result ⟨_, _, _, _, _, ⟨⟩, found, -⟩
        rw [lookup] at found
        cases found
    · rw [made]
      apply iff_of_true
      · rintro result ⟨⟩
      · rintro other result ⟨_, _, _, _, _, ⟨⟩, found, built, answered, -⟩
        rw [lookup] at found
        cases found
        rw [built] at failed
        cases answered.symm.trans failed
    · rw [made]
      have only : ∀ other result, (answers name).Executes call (.ok (returnType, coerceBytes)) other result ↔
          other = handle ∧ result = readWriteValue returnType readLength reply := by
        intro other result
        constructor
        · rintro ⟨_, _, _, _, _, ⟨⟩, found, builtAgain, answeredAgain, value⟩
          rw [lookup] at found
          cases found
          rw [built] at builtAgain
          cases builtAgain
          rw [answered] at answeredAgain
          cases answeredAgain
          exact ⟨rfl, value.symm⟩
        · rintro ⟨rfl, rfl⟩
          exact ⟨_, _, _, _, _, rfl, lookup, built, answered, rfl⟩
      simp only [Attempt.Sound, only, and_imp, forall_eq, forall_eq_apply_imp_iff, Option.some.injEq, forall_eq',
        endingOf_eq_done_ok]
      cases (answers name).adsReleaseHandle handle <;> cases readWriteValue returnType readLength reply <;>
        simp [Except.map, bind, Except.bind]

theorem released_error_iff {released : Result Unit} {outcome : Result α} :
    (released >>= fun _ => outcome) = .error e ↔ released = .error e ∨ released = .ok () ∧ outcome = .error e := by
  cases released <;> simp [bind, Except.bind]

theorem MethodAnswers.unknownSymbol_of_failed {answers : MethodAnswers} {call : MethodCall} {spec : ReturnSpec}
    (lookup : answers.adsGetHandle = .error e) : answers.UnknownSymbol call (.ok spec) ↔ e = .adsError 1808 := by
  constructor
  · rintro ⟨_, _, -, unknown | ⟨handle, found, -⟩⟩
    · exact Except.error.inj (lookup.symm.trans unknown)
    · cases lookup.symm.trans found
  · rintro rfl
    exact ⟨_, _, rfl, .inl lookup⟩

theorem MethodAnswers.unknownSymbol_of_found {answers : MethodAnswers} {call : MethodCall}
    (lookup : answers.adsGetHandle = .ok handle) : answers.UnknownSymbol call (.ok (returnType, coerceBytes)) ↔
      answers.adsReleaseHandle handle = .error (.adsError 1808) ∨
        answers.adsReleaseHandle handle = .ok () ∧
          (readWriteRequest returnType call.writeValue call.writeType >>= fun request =>
            answers.readWrite handle request.1 request.2) = .error (.adsError 1808) := by
  constructor
  · rintro ⟨_, _, ⟨⟩, unknown | ⟨other, found, behind⟩⟩
    · cases lookup.symm.trans unknown
    · cases lookup.symm.trans found
      exact behind
  · intro behind
    exact ⟨_, _, rfl, .inr ⟨handle, lookup, behind⟩⟩

theorem attempt_again_iff {answers : String → MethodAnswers} {call : MethodCall} :
    (∃ error, (attempt true answers call (name, spec)).ending = .again error) ↔
      (answers name).UnknownSymbol call spec := by
  cases spec with
  | error e =>
    apply iff_of_false
    · rintro ⟨error, ⟨⟩⟩
    · rintro ⟨_, _, ⟨⟩, _⟩
  | ok spec =>
    obtain ⟨returnType, coerceBytes⟩ := spec
    obtain ⟨e, lookup, made⟩ | ⟨handle, e, lookup, failed, made⟩ |
      ⟨handle, readLength, data, reply, lookup, built, answered, made⟩ :=
      attempt_cases answers call name returnType coerceBytes
    · rw [made, MethodAnswers.unknownSymbol_of_failed lookup]
      dsimp only
      rw [endingOf_eq_again, Except.error.injEq]
    · rw [made, MethodAnswers.unknownSymbol_of_found lookup, failed]
      dsimp only
      rw [endingOf_eq_again, released_error_iff, Except.error.injEq, Except.error.injEq]
    · have executed : (readWriteRequest returnType call.writeValue call.writeType >>= fun request =>
          (answers name).readWrite handle request.1 request.2) = .ok reply := by
        rw [built]
        exact answered
      have value : readWriteValue returnType readLength reply ≠ .error (.adsError 1808) :=
        readWriteValue_no_adsError _ _ _ _
      rw [made, MethodAnswers.unknownSymbol_of_found lookup, executed]
      dsimp only
      rw [endingOf_eq_again, released_error_iff]
      exact or_congr_right (and_congr_right fun _ => iff_of_false value (by rintro ⟨⟩))

end Attempts

/-! ## Calls -/

theorem attempt_closed (answers : String → MethodAnswers) (call : MethodCall) (entry : String × Result ReturnSpec) :
    (attempt false answers call entry).effect = none := by
  obtain ⟨name, spec⟩ := entry
  cases spec <;> rfl

theorem effects_closed (answers : String → MethodAnswers) (call : MethodCall)
    (entries : List (String × Result ReturnSpec)) (lastError : PyError) :
    (run (entries.map (attempt false answers call)) lastError).1 = [] := by
  induction entries generalizing lastError with
  | nil => rfl
  | cons entry entries ih =>
    rw [List.map_cons, run, attempt_closed]
    split
    · rfl
    · simp [ih]

/-- A method is executed at most once by a call, and its result is what the
caller receives, exactly if every name that is called, because the requests for
the names before it have reported unknown symbols, and whose method is executed
has its handle released without an error and an answer that has a value. -/
theorem callMethod_delivered_iff (setOrder : List String → List String) (answers : String → MethodAnswers)
    (methodName : String) (call : MethodCall) (client : RpcClient) :
    Delivered (client.callMethod setOrder answers methodName call).1
        (client.callMethod setOrder answers methodName call).2 ↔
      (client.portOpen = true → ∀ before name spec after,
        client.calledNames setOrder methodName call = before ++ (name, spec) :: after →
          (∀ earlier ∈ before, (answers earlier.1).UnknownSymbol call earlier.2) →
            ∀ handle result, (answers name).Executes call spec handle result →
              (answers name).adsReleaseHandle handle = .ok () ∧ ∃ value, result = .ok value) := by
  rw [RpcClient.callMethod_eq_run]
  generalize client.calledNames setOrder methodName call = entries
  cases client.portOpen with
  | false =>
    rw [effects_closed]
    simp [Delivered]
  | true =>
    have honest : ∀ made ∈ entries.map (attempt true answers call), made.Honest := by
      intro made member
      obtain ⟨entry, -, rfl⟩ := List.mem_map.mp member
      exact attempt_honest answers call entry
    rw [delivered_iff honest]
    simp only [forall_const]
    constructor
    · intro sound before name spec after split unknown
      apply attempt_sound_iff.mp
      apply sound
      refine ⟨before.map (attempt true answers call), after.map (attempt true answers call), ?_, ?_⟩
      · rw [split, List.map_append, List.map_cons]
      · intro made member
        obtain ⟨earlier, earlierMember, rfl⟩ := List.mem_map.mp member
        exact attempt_again_iff.mpr (unknown earlier earlierMember)
    · rintro released made ⟨before, after, split, again⟩
      obtain ⟨front, rest, rfl, rfl, behind⟩ := List.map_eq_append_iff.mp split
      obtain ⟨entry, last, rfl, rfl, -⟩ := List.map_eq_cons_iff.mp behind
      obtain ⟨name, spec⟩ := entry
      apply attempt_sound_iff.mpr
      apply released front name spec last rfl
      intro earlier member
      exact attempt_again_iff.mp (again _ (List.mem_map_of_mem member))

/-- The handle of the first name cannot be released, so the second one is called. -/
theorem release_error_calls_again : ¬ Delivered
    (RpcClient.callMethod id (fun _ => ⟨.ok 1, fun _ _ _ => .ok [], fun _ => .error (.adsError 1808)⟩) "start"
      ⟨none, .none, none, none⟩ { pumpClient with session := { tankSession with port := some 30000 } }).1
    (RpcClient.callMethod id (fun _ => ⟨.ok 1, fun _ _ _ => .ok [], fun _ => .error (.adsError 1808)⟩) "start"
      ⟨none, .none, none, none⟩ { pumpClient with session := { tankSession with port := some 30000 } }).2 := by
  rintro ⟨once, -⟩
  have two : 2 ≤ 1 := once
  omega

end PyAds
