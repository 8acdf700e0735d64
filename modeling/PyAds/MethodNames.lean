import PyAds.Base.SetOrder
import PyAds.RequestIds

/-! The names of a method. A type may be configured under the name itself or
under a form of it with a prefix added or removed; these forms are a set. The
name is composed with the path of its object, and taken apart again at the first
separator. -/
namespace PyAds
open Fallible SetOrder

/-! ## The first separator -/

/-- What is found in a text is found at the same place in a longer one. -/
theorem findText_append (found : findText needle front = some start) (back : List Char) :
    findText needle (front ++ back) = some start ∧ start + needle.length ≤ front.length := by
  induction front generalizing start with
  | nil => cases found
  | cons c front ih =>
    rw [findText] at found
    rw [List.cons_append, findText]
    split at found
    · rename_i here
      cases found
      have whole := List.isPrefixOf_iff_prefix.mp here
      refine ⟨if_pos (List.isPrefixOf_iff_prefix.mpr (whole.trans (List.prefix_append ..))), ?_⟩
      simpa using whole.length_le
    · rename_i elsewhere
      obtain ⟨behind, later, rfl⟩ := Option.map_eq_some_iff.mp found
      obtain ⟨same, room⟩ := ih later
      -- the rest of the text has room for the needle, so it does not reach into the added part
      have absent : ¬ needle.isPrefixOf (c :: (front ++ back)) = true := by
        intro here
        apply elsewhere
        apply List.isPrefixOf_iff_prefix.mpr
        have long : needle <+: (c :: front) ++ back := List.isPrefixOf_iff_prefix.mp here
        exact List.prefix_of_prefix_length_le long (List.prefix_append ..) (by simp; omega)
      rw [if_neg absent, same]
      exact ⟨rfl, by simp; omega⟩

theorem findText_append_needle (nonempty : needle ≠ []) (front : List Char) :
    ∃ start, findText needle (front ++ needle) = some start := by
  induction front with
  | nil =>
    cases needle with
    | nil => contradiction
    | cons c rest => exact ⟨0, by simp [findText]⟩
  | cons c front ih =>
    obtain ⟨start, found⟩ := ih
    rw [List.cons_append, findText, found]
    split <;> exact ⟨_, rfl⟩

namespace RpcObject

/-- What stands behind the first separator in the object name and the separator
after it; nothing, unless a separator comes earlier. -/
def remainder (object : RpcObject) : List Char :=
  let path := object.objectName.toList ++ object.methodSeparator.toList
  match findText object.methodSeparator.toList path with
  | some start => path.drop (start + object.methodSeparator.toList.length)
  | none => []

theorem methodNameOf_qualified {object : RpcObject} (separated : object.methodSeparator ≠ "") (candidate : String) :
    object.methodNameOf (object.qualified candidate) = .ok (String.ofList (object.remainder ++ candidate.toList)) := by
  have nonempty : object.methodSeparator.toList ≠ [] := by simpa using separated
  obtain ⟨start, found⟩ := findText_append_needle nonempty object.objectName.toList
  obtain ⟨same, room⟩ := findText_append found candidate.toList
  have whole : (object.qualified candidate).toList =
      object.objectName.toList ++ object.methodSeparator.toList ++ candidate.toList := by
    simp [qualified, String.toList_append]
  rw [methodNameOf, whole]
  simp only [nonempty, ↓reduceIte, same, remainder, found]
  rw [List.drop_append_of_le_length room]

/-! ## Forms of a name -/

/-- The name that is called for a prefix. -/
def candidateOf (methodName prefix_ : String) : String :=
  if startsWith methodName prefix_ then methodName else prefix_ ++ methodName

@[simp] theorem mem_distinct {names : List String} : name ∈ distinct names ↔ name ∈ names := by
  simp [distinct, OrderedDict.mem_foldl_addKey]

theorem mem_candidateMethodNames {object : RpcObject} :
    qualifiedName ∈ object.candidateMethodNames methodName ↔
      ∃ prefix_ ∈ object.methodPrefixes, object.qualified (candidateOf methodName prefix_) = qualifiedName := by
  simp [candidateMethodNames, candidateOf]

theorem self_mem_configurableNames (object : RpcObject) (methodName : String) :
    methodName ∈ object.configurableNames methodName := by
  simp [configurableNames]

/-! ## Types under several forms -/

/-- `RpcObject.__init__`: a method with a return type has no parameters, unless
some are given. -/
def initialParameters (methodReturnTypes : OrderedDict String PlcDataType)
    (methodParameters : OrderedDict String (List PlcDataType)) : OrderedDict String (List PlcDataType) :=
  methodReturnTypes.keys.foldl (fun parameters methodName =>
    if methodName ∈ parameters.keys then parameters else parameters.set methodName []) methodParameters

@[simp] theorem get?_initialParameters (methodReturnTypes : OrderedDict String PlcDataType)
    (methodParameters : OrderedDict String (List PlcDataType)) (methodName : String) :
    (initialParameters methodReturnTypes methodParameters).get? methodName =
      (methodParameters.get? methodName).or (if methodName ∈ methodReturnTypes.keys then some [] else none) := by
  unfold initialParameters
  generalize methodReturnTypes.keys = names
  induction names generalizing methodParameters with
  | nil => simp
  | cons first names ih =>
    rw [List.foldl_cons, ih]
    split
    · rename_i known
      by_cases same : methodName = first
      · subst same
        cases given : methodParameters.get? methodName with
        | none => exact absurd known (OrderedDict.get?_eq_none_iff.mp given)
        | some types => simp
      · simp [same]
    · rename_i unknown
      rw [OrderedDict.get?_set]
      by_cases same : first = methodName
      · subst same
        simp [OrderedDict.get?_eq_none_iff.mpr unknown]
      · simp [same, Ne.symm same]

/-- In every order of the set, what is configured under the exact name is
returned, and in any case the same as in every other order. -/
def SignatureDetermined (object : RpcObject) (methodParameters : OrderedDict String (List PlcDataType))
    (methodName : String) : Prop :=
  (∀ setOrder, IsOrder setOrder →
    (∀ plcType, object.methodReturnTypes.get? methodName = some plcType →
      object.manualReturnType setOrder methodName = some plcType) ∧
    ∀ types, methodParameters.get? methodName = some types →
      object.parameterTypesFor setOrder methodParameters methodName = types) ∧
  ∀ setOrder other, IsOrder setOrder → IsOrder other →
    object.manualReturnType setOrder methodName = object.manualReturnType other methodName ∧
      object.parameterTypesFor setOrder methodParameters methodName =
        object.parameterTypesFor other methodParameters methodName

/-- The types of a method are looked up alike in every order of the set, and
those of the exact name first, exactly if no two forms of the name are
configured differently. -/
theorem signatureDetermined_iff (object : RpcObject) (methodParameters : OrderedDict String (List PlcDataType))
    (methodName : String) : object.SignatureDetermined methodParameters methodName ↔
      SetOrder.Agree object.methodReturnTypes.get? (object.configurableNames methodName) ∧
        SetOrder.Agree methodParameters.get? (object.configurableNames methodName) := by
  have self := object.self_mem_configurableNames methodName
  constructor
  · rintro ⟨-, same⟩
    constructor
    · apply (forall_order_eq_iff id fun _ _ => Option.some.inj).mp
      intro setOrder other order otherOrder
      exact (same setOrder other order otherOrder).1
    · apply (forall_order_eq_iff (·.getD []) fun _ _ => id).mp
      intro setOrder other order otherOrder
      exact (same setOrder other order otherOrder).2
  · rintro ⟨types, parameters⟩
    refine ⟨?_, ?_⟩
    · intro setOrder order
      constructor
      · intro plcType configured
        exact (types.onlyFinds self configured).findSome? (order _).symm
      · intro listed configured
        rw [parameterTypesFor, (parameters.onlyFinds self configured).findSome? (order _).symm]
        rfl
    · intro setOrder other order otherOrder
      constructor
      · exact types.findSome?_eq (order _).symm (otherOrder _).symm
      · rw [parameterTypesFor, parameters.findSome?_eq (order _).symm (otherOrder _).symm]
        rfl

end RpcObject

def plcDint : PlcDataType := .ctypes (.simple .int32)

/-- A pump with a type for a bare name and another one for the same name with a prefix. -/
def twoFormsPump : RpcObject :=
  ⟨"GVL.pump", "#", ["", "m_"], OrderedDict.empty.setAll [("start", plcInt), ("m_start", plcDint)], OrderedDict.empty⟩

/-- The types of `m_start` are those of `start` where this comes first. -/
theorem start_before_m_start :
    ¬ twoFormsPump.SignatureDetermined (RpcObject.initialParameters twoFormsPump.methodReturnTypes OrderedDict.empty)
      "m_start" := by
  rintro ⟨exact_, -⟩
  have first := (exact_ (inFront "start") (isOrder_inFront _)).1 plcDint rfl
  have differ : some plcInt = some plcDint := first
  cases differ

/-! ## Types for candidates -/

namespace RpcObject

/-- The configured type is inferred for every candidate of the method, whatever
the PLC answers. -/
def HonoursType (object : RpcObject) (methodName : String) (plcType : PlcDataType) : Prop :=
  ∀ setOrder, IsOrder setOrder → ∀ client : RpcClient, client.object = object →
    ∀ qualifiedName ∈ object.candidateMethodNames methodName,
      (client.withoutSpecs.inferReturnSpec setOrder qualifiedName).1 = .ok (some plcType, false)

theorem configuredType_qualified {object : RpcObject} (separated : object.methodSeparator ≠ "")
    (setOrder : List String → List String) (candidate : String) :
    object.configuredType setOrder (object.qualified candidate) =
      .ok (if String.ofList (object.remainder ++ candidate.toList) = "" then none
        else object.manualReturnType setOrder (String.ofList (object.remainder ++ candidate.toList))) := by
  rw [configuredType, methodNameOf_qualified separated]
  rfl

/-- A connection that is not open tells nothing of a symbol. -/
def unopened (object : RpcObject) : RpcClient := ⟨tankSession, fun _ => .error (.adsError 1808), object⟩

theorem inferReturnSpec_qualified {client : RpcClient} (same : client.object = object)
    (setOrder : List String → List String) (qualifiedName : String) :
    (client.withoutSpecs.inferReturnSpec setOrder qualifiedName).1 =
      object.configuredType setOrder qualifiedName >>= fun configured =>
        configured.elim (client.symbolSpec qualifiedName) fun plcType => .ok (some plcType, false) := by
  have new : client.withoutSpecs.object.returnSpecCache.get? qualifiedName = none := rfl
  rw [(RpcClient.inferReturnSpec_anew new).1, RpcClient.freshSpec]
  subst same
  change client.object.configuredType setOrder qualifiedName >>= _ = _
  congr 1
  funext configured
  cases configured <;> rfl

/-- The type of a method is inferred for all of its candidates exactly if, for
each of them, the remainder of the path with the candidate behind it is a name
of which some form has this type and none another. -/
theorem honoursType_iff (object : RpcObject) (separated : object.methodSeparator ≠ "") (methodName : String)
    (plcType : PlcDataType) : object.HonoursType methodName plcType ↔
      ∀ prefix_ ∈ object.methodPrefixes,
        let name := String.ofList (object.remainder ++ (candidateOf methodName prefix_).toList)
        name ≠ "" ∧ OnlyFinds object.methodReturnTypes.get? (object.configurableNames name) plcType := by
  constructor
  · intro honours prefix_ member name
    have configured : ∀ setOrder, IsOrder setOrder →
        name ≠ "" ∧ object.manualReturnType setOrder name = some plcType := by
      intro setOrder order
      have same : (unopened object).object = object := rfl
      have told := honours setOrder order _ same _ (mem_candidateMethodNames.mpr ⟨prefix_, member, rfl⟩)
      rw [inferReturnSpec_qualified same, configuredType_qualified separated] at told
      by_cases empty : name = ""
      · rw [if_pos empty] at told
        have nothing : (.ok (none, false) : Result ReturnSpec) = .ok (some plcType, false) := told
        cases nothing
      · rw [if_neg empty] at told
        refine ⟨empty, ?_⟩
        cases found : object.manualReturnType setOrder name with
        | none =>
          rw [found] at told
          have nothing : (.ok (none, false) : Result ReturnSpec) = .ok (some plcType, false) := told
          cases nothing
        | some other =>
          rw [found] at told
          have same : (.ok (some other, false) : Result ReturnSpec) = .ok (some plcType, false) := told
          cases same
          rfl
    refine ⟨(configured id fun _ => .refl _).1, ?_⟩
    exact forall_findSome?_iff.mp fun setOrder order => (configured setOrder order).2
  · intro each setOrder order client same qualifiedName candidate
    obtain ⟨prefix_, member, rfl⟩ := mem_candidateMethodNames.mp candidate
    obtain ⟨nonempty, only⟩ := each prefix_ member
    rw [inferReturnSpec_qualified same, configuredType_qualified separated, if_neg nonempty, manualReturnType,
      only.findSome? (order _).symm]
    rfl

/-! ## Paths without the separator -/

/-- A name that is called has the name of the method as one of its forms. -/
theorem mem_configurableNames_candidateOf {object : RpcObject} (member : prefix_ ∈ object.methodPrefixes)
    (methodName : String) : methodName ∈ object.configurableNames (candidateOf methodName prefix_) := by
  unfold candidateOf
  split
  · exact self_mem_configurableNames ..
  · have begins : startsWith (prefix_ ++ methodName) prefix_ = true := by
      simp [startsWith, String.toList_append]
    rw [configurableNames, mem_distinct, List.mem_cons, List.mem_map]
    refine .inr ⟨prefix_, member, ?_⟩
    rw [if_pos begins, String.toList_append, List.drop_left, String.ofList_toList]

/-- Where the separator does not come before the end of the object name, the
type of a method is inferred for its candidates exactly if none of them is empty
and no form of them has another type. -/
theorem honoursType_iff_of_path (object : RpcObject) (separated : object.methodSeparator ≠ "")
    (path : findText object.methodSeparator.toList (object.objectName.toList ++ object.methodSeparator.toList) =
      some object.objectName.toList.length)
    (configured : object.methodReturnTypes.get? methodName = some plcType) :
    object.HonoursType methodName plcType ↔ ∀ prefix_ ∈ object.methodPrefixes, candidateOf methodName prefix_ ≠ "" ∧
      ∀ name ∈ object.configurableNames (candidateOf methodName prefix_), ∀ other,
        object.methodReturnTypes.get? name = some other → other = plcType := by
  have nothing : object.remainder = [] := by
    rw [remainder]
    simp only [path]
    rw [← List.length_append, List.drop_length]
  rw [honoursType_iff object separated]
  apply forall_congr'
  intro prefix_
  apply forall_congr'
  intro member
  have self := mem_configurableNames_candidateOf member methodName
  simp only [nothing, List.nil_append, String.ofList_toList, OnlyFinds]
  exact and_congr_right fun _ => and_iff_right ⟨methodName, self, configured⟩

end RpcObject

/-- A pump in the default configuration, with a type for `start`. -/
def startPump : RpcObject :=
  ⟨"GVL.pump", "#", ["", "m_"], OrderedDict.empty.set "start" plcInt, OrderedDict.empty⟩

theorem startPump_honours : startPump.HonoursType "start" plcInt := by
  apply (startPump.honoursType_iff (by decide) "start" plcInt).mpr
  have only (name : String) (other : PlcDataType) (found : startPump.methodReturnTypes.get? name = some other) :
      other = plcInt := by
    change (OrderedDict.empty.set "start" plcInt).get? name = some other at found
    rw [OrderedDict.get?_set] at found
    split at found
    · cases found
      rfl
    · cases found
  intro prefix_ member
  have either : prefix_ = "" ∨ prefix_ = "m_" := by simpa [startPump] using member
  rcases either with rfl | rfl
  · exact ⟨by decide, ⟨"start", by decide, rfl⟩, fun name _ => only name⟩
  · exact ⟨by decide, ⟨"start", by decide, rfl⟩, fun name _ => only name⟩

/-- The path of the object contains the separator; what is behind the first one
is `pump.start`. -/
theorem pathPump_ignores :
    ¬ RpcObject.HonoursType { startPump with methodSeparator := "." } "start" plcInt := by
  intro honours
  have told := honours id (fun _ => .refl _) (RpcObject.unopened _) rfl "GVL.pump.start" (by decide)
  have nothing : (.ok (none, false) : Result ReturnSpec) = .ok (some plcInt, false) := told
  cases nothing

end PyAds
