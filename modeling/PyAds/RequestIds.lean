import PyAds.RequestPayloads
import PyAds.ReturnTypes
import PyAds.StepChainAttribution
import PyAds.StructureArrayWrites

/-! The request id of a stepchain method on its two ways: as the number that
the operation waits for, and as one of the arguments that are packed for the
PLC. -/
namespace PyAds
open Fallible SlotSequence

/-! ## The request id -/

/-- `AsyncStepChainRpcObject._resolve_request_id`: the id and the positional
arguments of the call, and the counter of the connection afterwards. -/
def resolveRequestId (requestArg : String) (argNames : List String) (args : List PyVal)
    (kwargs : OrderedDict String PyVal) (counter : Nat) : Result (Int × List PyVal) × Nat :=
  if kwargs.keys.any (· ≠ requestArg) then (.error .typeError, counter)
  else if requestArg ∈ argNames then
    let argIndex := argNames.idxOf requestArg
    match kwargs.get? requestArg with
    | some value =>
      (do
        let requestId ← value.int?
        if argIndex < args.length then throw .typeError
        if argIndex ≠ args.length then throw .typeError
        return (requestId, args ++ [.int requestId]), counter)
    | none =>
      match args[argIndex]? with
      | some value => (value.int?.map fun requestId => (requestId, args), counter)
      | none =>
        let (requestId, counter) := nextRequestId counter
        if argIndex ≠ args.length then (.error .typeError, counter)
        else (.ok (requestId, args ++ [.int requestId]), counter)
  else (.error .typeError, counter)

/-- The value that the caller gives for the id, by keyword or by position. -/
def explicitId (requestArg : String) (argNames : List String) (args : List PyVal)
    (kwargs : OrderedDict String PyVal) : Option PyVal :=
  (kwargs.get? requestArg).or args[argNames.idxOf requestArg]?

/-! ## The payload -/

/-- `RpcObject._parameter_types_for` -/
def RpcObject.parameterTypesFor (setOrder : List String → List String) (object : RpcObject)
    (methodParameters : OrderedDict String (List PlcDataType)) (methodName : String) : List PlcDataType :=
  ((setOrder (object.configurableNames methodName)).findSome? methodParameters.get?).getD []

/-- `RpcObject._pack_method_args`, given the types of the parameters: the
elements of an array of bytes, or nothing at all. -/
def packMethodArgs (parameterTypes : List PlcDataType) (args : List PyVal) : Result (Option Bytes) :=
  if parameterTypes = [] then if args = [] then .ok none else .error .typeError
  else if args.length ≠ parameterTypes.length then .error .typeError
  else do
    let payload ← concatM (fun item => packSingleArgument item.1 item.2) (args.zip parameterTypes)
    return if payload = [] then none else some payload

/-- The bytes of a text in an encoding. -/
def encodedWidth (encode : List Char → Bytes) : PyVal → Nat
  | .str text => textLength encode text
  | _ => 0

/-- The bytes that an argument takes in the payload. -/
def argumentWidth (item : PyVal × PlcDataType) : Nat :=
  if typeIsString item.2 then encodedWidth Text.Utf8.encode item.1 + 1
  else
    match item.2 with
    | .wstring => encodedWidth Text.Utf16.encode item.1
    | .ctypes type => type.sizeof
    | .arrayFunction _ => 0

/-- Where the argument of an index begins, behind those before it. -/
def argumentOffset (parameterTypes : List PlcDataType) (args : List PyVal) (index : Nat) : Nat :=
  extent argumentWidth ((args.zip parameterTypes).take index)

/-- What a PLC decodes as a UDINT at an offset. -/
def decodeUdint (payload : Bytes) (offset : Nat) : Nat := LittleEndian.toNat ((payload.drop offset).take 4)

def PLCTYPE_UDINT : PlcDataType := .ctypes (.simple .uint32)

theorem length_fromValue {ctype : CType} (made : ctype.fromValue value = .ok bytes) : bytes.length = ctype.sizeof := by
  unfold CType.fromValue at made
  split at made
  · cases made
    rfl
  · split at made
    · cases made
      exact LittleEndian.length_ofNat ..
    · cases made
  · split at made
    · cases made
      exact LittleEndian.length_ofNat ..
    · cases made
  · split at made
    · cases made
      exact LittleEndian.length_ofInt ..
    · cases made

theorem length_requestData {type : CDataType} (noString : typeIsString (.ctypes type) = false)
    (made : requestData (some (.ctypes type)) value = .ok bytes) : bytes.length = type.sizeof := by
  simp only [requestData, noString, Bool.false_eq_true, ↓reduceIte] at made
  cases type with
  | simple ctype => exact length_fromValue made
  | char => cases noString
  | array element n =>
    obtain ⟨elements, -, made⟩ := bind_eq_ok.mp made
    obtain ⟨data, packed, made⟩ := bind_eq_ok.mp made
    have each : ∀ value ∈ elements.take n, ∀ bytes, element.fromValue value = .ok bytes →
        bytes.length = element.sizeof := by
      intro value _ part here
      cases element with
      | simple ctype => exact length_fromValue here
      | _ => cases here
    have length := length_concatM (fun _ => element.sizeof) packed each
    have room : data.length ≤ n * element.sizeof := by
      rw [length, extent_const, List.length_take]
      exact Nat.mul_le_mul_right _ (Nat.min_le_left ..)
    split at made
    · cases made
    · cases made
      rw [List.length_append, List.length_replicate, CDataType.sizeof]
      omega

theorem length_packSingleArgument (packed : packSingleArgument value plcType = .ok bytes) :
    bytes.length = argumentWidth (value, plcType) := by
  unfold packSingleArgument at packed
  cases string : typeIsString plcType with
  | true =>
    rw [string, if_pos rfl] at packed
    cases value with
    | str text =>
      obtain ⟨encoded, utf8, same⟩ := bind_eq_ok.mp packed
      cases same
      obtain ⟨chars, rfl, rfl⟩ := encodeUtf8_eq_ok_iff.mp utf8
      simp [argumentWidth, string, encodedWidth, textLength]
    | _ => cases packed
  | false =>
    rw [string, if_neg (by simp)] at packed
    simp only [argumentWidth, string, Bool.false_eq_true, ↓reduceIte]
    cases plcType with
    | ctypes type => exact length_requestData string packed
    | wstring =>
      cases value with
      | str text =>
        obtain ⟨chars, rfl, rfl⟩ := encodeUtf16_eq_ok_iff.mp packed
        simp [encodedWidth, textLength]
      | _ => cases packed
    | arrayFunction element => cases packed

/-! ## The two ways of the id -/

section Resolution
variable {requestArg : String} {argNames : List String} {args : List PyVal} {kwargs : OrderedDict String PyVal}
  {counter later : Nat} {requestId : Int} {callArgs : List PyVal}

/-- The id is appended to the arguments or found among them; it is the one that was
given, or the next of the connection. -/
theorem resolveRequestId_cases
    (resolved : resolveRequestId requestArg argNames args kwargs counter = (.ok (requestId, callArgs), later)) :
    (callArgs = args ++ [.int requestId] ∧ argNames.idxOf requestArg = args.length ∨
      callArgs = args ∧ ∃ value, args[argNames.idxOf requestArg]? = some value ∧ value.int? = .ok requestId) ∧
    ((∃ value, explicitId requestArg argNames args kwargs = some value ∧ value.int? = .ok requestId) ∨
      explicitId requestArg argNames args kwargs = none ∧ requestId = (nextRequestId counter).1) := by
  unfold resolveRequestId at resolved
  split at resolved
  · cases resolved
  split at resolved
  · dsimp only at resolved
    split at resolved
    · rename_i value given
      obtain ⟨outcome, -⟩ := Prod.mk.inj resolved
      obtain ⟨id, integer, rest⟩ := bind_eq_ok.mp outcome
      split at rest
      · cases rest
      split at rest
      · cases rest
      · rename_i here
        cases rest
        have explicit : explicitId requestArg argNames args kwargs = some value := by
          rw [explicitId, given]
          rfl
        exact ⟨.inl ⟨rfl, not_not.mp here⟩, .inl ⟨value, explicit, integer⟩⟩
    · rename_i missing
      split at resolved
      · rename_i value found
        obtain ⟨outcome, -⟩ := Prod.mk.inj resolved
        obtain ⟨id, integer, same⟩ := map_eq_ok.mp outcome
        cases same
        have explicit : explicitId requestArg argNames args kwargs = some value := by
          rw [explicitId, missing, found]
          rfl
        exact ⟨.inr ⟨rfl, value, found, integer⟩, .inl ⟨value, explicit, integer⟩⟩
      · rename_i absent
        split at resolved
        · cases resolved
        · rename_i here
          cases resolved
          have automatic : explicitId requestArg argNames args kwargs = none := by
            rw [explicitId, missing, absent]
            rfl
          exact ⟨.inl ⟨rfl, not_not.mp here⟩, .inr ⟨automatic, rfl⟩⟩
  · cases resolved

/-- What is waited for is the integer at the position of the id, and all other
arguments stay where they are. -/
theorem resolveRequestId_args
    (resolved : resolveRequestId requestArg argNames args kwargs counter = (.ok (requestId, callArgs), later)) :
    (∃ value, callArgs[argNames.idxOf requestArg]? = some value ∧ value.int? = .ok requestId) ∧
      callArgs.eraseIdx (argNames.idxOf requestArg) = args.eraseIdx (argNames.idxOf requestArg) := by
  rcases (resolveRequestId_cases resolved).1 with ⟨rfl, here⟩ | ⟨rfl, found⟩
  · rw [here]
    refine ⟨⟨PyVal.int requestId, by simp, rfl⟩, ?_⟩
    rw [List.eraseIdx_of_length_le (Nat.le_refl _), List.eraseIdx_append_of_length_le (Nat.le_refl _)]
    simp
  · exact ⟨found, rfl⟩

end Resolution

/-- An argument of type UDINT is found at its position, modulo 2³². -/
theorem decodeUdint_argument {types : List PlcDataType} {args : List PyVal}
    (packed : packMethodArgs types args = .ok payload) (typed : types[index]? = some PLCTYPE_UDINT)
    (found : args[index]? = some value) : ∃ data i, payload = some data ∧ value.asInt? = some i ∧
      decodeUdint data (argumentOffset types args index) = udint i := by
  unfold packMethodArgs at packed
  split at packed
  · rename_i empty
    rw [empty] at typed
    cases typed
  split at packed
  · cases packed
  obtain ⟨data, whole, final⟩ := bind_eq_ok.mp packed
  have item : (args.zip types)[index]? = some (value, PLCTYPE_UDINT) := List.getElem?_zip_eq_some.mpr ⟨found, typed⟩
  obtain ⟨inside, at_⟩ := List.getElem?_eq_some_iff.mp item
  have split : args.zip types =
      (args.zip types).take index ++ (value, PLCTYPE_UDINT) :: (args.zip types).drop (index + 1) := by
    rw [← at_, ← List.drop_eq_getElem_cons inside, List.take_append_drop]
  rw [split] at whole
  obtain ⟨head, tail, before, behind, rfl⟩ := concatM_append_eq_ok.mp whole
  obtain ⟨word, after, here, -, rfl⟩ := concatM_cons_eq_ok.mp behind
  have offset : head.length = argumentOffset types args index :=
    length_concatM argumentWidth before fun item _ bytes made => length_packSingleArgument made
  obtain ⟨i, integer, rfl⟩ : ∃ i, value.asInt? = some i ∧ word = LittleEndian.ofInt 4 i := by
    have made : CType.fromValue .uint32 value = .ok word := here
    cases integer : value.asInt? with
    | none => simp [CType.fromValue, integer] at made
    | some i =>
      simp only [CType.fromValue, integer, Except.ok.injEq] at made
      exact ⟨i, rfl, made.symm⟩
  refine ⟨head ++ (LittleEndian.ofInt 4 i ++ after), i, ?_, integer, ?_⟩
  · split at final
    · rename_i nothing
      have length := congrArg List.length nothing
      simp at length
    · cases final
      rfl
  · have small : (i % 256 ^ 4).toNat < 256 ^ 4 := by omega
    rw [decodeUdint, ← offset, List.drop_left, List.take_left' (LittleEndian.length_ofInt ..), LittleEndian.ofInt,
      LittleEndian.toNat_ofNat_of_lt small]
    rfl

theorem int?_of_asInt? (integer : PyVal.asInt? value = some i) : value.int? = .ok i := by
  cases value with
  | bool b =>
    cases integer
    rfl
  | int j =>
    cases integer
    rfl
  | _ => cases integer

/-- The id that an operation waits for is the one that the PLC decodes exactly
when an explicit id fits a UDINT; the other arguments are passed on in any
case. -/
theorem requestId_decoded_iff (setOrder : List String → List String) (object : RpcObject)
    (methodParameters : OrderedDict String (List PlcDataType)) (methodName : String) {argNames : List String}
    {requestArg : String} {args callArgs : List PyVal} {kwargs : OrderedDict String PyVal}
    (typed : (object.parameterTypesFor setOrder methodParameters methodName)[argNames.idxOf requestArg]? =
      some PLCTYPE_UDINT)
    (resolved : resolveRequestId requestArg argNames args kwargs counter = (.ok (requestId, callArgs), later))
    (packed : packMethodArgs (object.parameterTypesFor setOrder methodParameters methodName) callArgs = .ok payload) :
    ((∃ data, payload = some data ∧ (decodeUdint data (argumentOffset
          (object.parameterTypesFor setOrder methodParameters methodName) callArgs (argNames.idxOf requestArg)) : Int) =
            requestId) ∧
        callArgs.eraseIdx (argNames.idxOf requestArg) = args.eraseIdx (argNames.idxOf requestArg)) ↔
      ∀ value id, explicitId requestArg argNames args kwargs = some value → value.int? = .ok id →
        0 ≤ id ∧ id < 2 ^ 32 := by
  obtain ⟨⟨value, found, waited⟩, others⟩ := resolveRequestId_args resolved
  obtain ⟨data, i, rfl, integer, decoded⟩ := decodeUdint_argument packed typed found
  cases (int?_of_asInt? integer).symm.trans waited
  have agrees : (∃ data', some data = some data' ∧ (decodeUdint data' (argumentOffset
      (object.parameterTypesFor setOrder methodParameters methodName) callArgs (argNames.idxOf requestArg)) : Int) = requestId) ↔
        0 ≤ requestId ∧ requestId < 2 ^ 32 := by
    simp only [Option.some.injEq, exists_eq_left', decoded, udint]
    omega
  rw [and_iff_left others, agrees]
  rcases (resolveRequestId_cases resolved).2 with ⟨given, explicit, same⟩ | ⟨automatic, rfl⟩
  · constructor
    · rintro fits other id again integer'
      cases explicit.symm.trans again
      cases same.symm.trans integer'
      exact fits
    · intro all
      exact all given requestId explicit same
  · refine iff_of_true ?_ fun value id explicit => ?_
    · have masked : counter &&& 0xFFFFFFFF = counter % 2 ^ 32 := Nat.and_two_pow_sub_one_eq_mod counter 32
      simp only [nextRequestId, masked]
      omega
    · cases automatic.symm.trans explicit

/-- A function block whose method takes a count and the request id. -/
def chainObject : RpcObject where
  objectName := "MAIN.fbChain"
  methodSeparator := "#"
  methodPrefixes := ["", "m_"]
  methodReturnTypes := OrderedDict.empty
  returnSpecCache := OrderedDict.empty

def chainParameters : OrderedDict String (List PlcDataType) :=
  ⟨[("xStart", [.ctypes (.simple .int16), PLCTYPE_UDINT])], by decide⟩

def chainKwargs : OrderedDict String PyVal := ⟨[("udiRequestId", .int 70000)], by decide⟩

theorem chain_id_decoded :
    (∃ data, some [7, 0, 0x70, 0x11, 1, 0] = some data ∧ (decodeUdint data (argumentOffset
        (chainObject.parameterTypesFor id chainParameters "xStart") [.int 7, .int 70000]
          (["iCount", "udiRequestId"].idxOf "udiRequestId")) : Int) = 70000) ∧
      [PyVal.int 7, .int 70000].eraseIdx (["iCount", "udiRequestId"].idxOf "udiRequestId") =
        [PyVal.int 7].eraseIdx (["iCount", "udiRequestId"].idxOf "udiRequestId") := by
  have resolved : resolveRequestId "udiRequestId" ["iCount", "udiRequestId"] [.int 7] chainKwargs 1 =
      (.ok (70000, [.int 7, .int 70000]), 1) := rfl
  have explicit : explicitId "udiRequestId" ["iCount", "udiRequestId"] [.int 7] chainKwargs = some (.int 70000) := rfl
  refine (requestId_decoded_iff id chainObject chainParameters "xStart" (by decide) resolved rfl).mpr ?_
  intro value i given integer
  cases explicit.symm.trans given
  cases integer
  decide

/-- The operation waits for 2³², and the PLC receives 0. -/
theorem large_id_wraps : resolveRequestId "udiRequestId" ["iCount", "udiRequestId"] [.int 7, .int 4294967296]
      OrderedDict.empty 1 = (.ok (4294967296, [.int 7, .int 4294967296]), 1) ∧
    packMethodArgs (chainObject.parameterTypesFor id chainParameters "xStart") [.int 7, .int 4294967296] =
      .ok (some [7, 0, 0, 0, 0, 0]) ∧
    decodeUdint [7, 0, 0, 0, 0, 0] (argumentOffset (chainObject.parameterTypesFor id chainParameters "xStart")
      [.int 7, .int 4294967296] 1) = 0 :=
  ⟨rfl, rfl, by decide⟩

end PyAds
