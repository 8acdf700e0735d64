import PyAds.RpcArguments

/-! The inputs of a method in the PLC. They are taken from the payload of a call
one after the other, and equal the arguments that were packed. -/
namespace PyAds
open Fallible

namespace ParameterType

/-- The bytes that an input has in every payload. -/
def width : ParameterType → Nat
  | .number ctype => ctype.sizeof
  | .array ctype n => n * ctype.sizeof
  | .string _ | .wstring => 0

/-- The number at the front of a payload, and the bytes behind it. -/
def receiveNumber (ctype : CType) (payload : Bytes) : Option (PyVal × Bytes) :=
  if payload.length < ctype.sizeof then none
  else some (unpackValue ctype.format (payload.take ctype.sizeof), payload.drop ctype.sizeof)

def receiveNumbers (ctype : CType) : Nat → Bytes → Option (List PyVal × Bytes)
  | 0, payload => some ([], payload)
  | n + 1, payload => do
    let (item, rest) ← receiveNumber ctype payload
    let (items, rest) ← receiveNumbers ctype n rest
    return (item :: items, rest)

/-- The input at the front of a payload, and the bytes behind it. A STRING ends
with a zero byte, a WSTRING where the numbers behind it begin. -/
def receive (behind : List ParameterType) (payload : Bytes) : ParameterType → Option (PyVal × Bytes)
  | .number ctype => receiveNumber ctype payload
  | .array ctype n => (receiveNumbers ctype n payload).map fun (items, rest) => (.list items, rest)
  | .string _ =>
    match decodeUtf8 (beforeZero payload) with
    | .ok text => some (.str text, payload.drop ((beforeZero payload).length + 1))
    | .error _ => none
  | .wstring =>
    let length := payload.length - (behind.map width).sum
    match decodeUtf16 (payload.take length) with
    | .ok text => some (.str text, payload.drop length)
    | .error _ => none

end ParameterType

/-- The inputs of a method, as they are taken from a payload; nothing is left over. -/
def receiveInputs : List ParameterType → Bytes → Option (List PyVal)
  | [], payload => if payload = [] then some [] else none
  | type :: types, payload => do
    let (value, rest) ← type.receive types payload
    let values ← receiveInputs types rest
    return value :: values

/-! ## Packed arguments -/

namespace ParameterType

/-- The words of numbers have their widths. -/
theorem length_words (packs : ArgumentWords types args words) (numbers : ∀ type ∈ types, ¬ type.IsText) :
    words.flatten.length = (types.map width).sum := by
  induction packs with
  | nil => rfl
  | @cons value word types args words type packed _ ih =>
    obtain ⟨here, later⟩ := List.forall_mem_cons.mp numbers
    have length : word.length = type.width := by
      rw [length_packSingleArgument packed]
      cases type with
      | number ctype => rfl
      | array ctype n => rfl
      | string length => exact absurd trivial here
      | wstring => exact absurd trivial here
    rw [List.flatten_cons, List.length_append, length, ih later, List.map_cons, List.sum_cons]

theorem receiveNumber_packed (packed : PackedIn order ctype value part) (rest : Bytes) :
    receiveNumber ctype (part ++ rest) = some (unpackValue ctype.format part, rest) := by
  rw [receiveNumber, if_neg (by simp [packed.2.1]), List.take_left' packed.2.1, List.drop_left' packed.2.1]

theorem receiveNumbers_packed (packed : List.Forall₂ (PackedIn order ctype) items parts) (rest : Bytes) :
    receiveNumbers ctype items.length (parts.flatten ++ rest) = some (parts.map (unpackValue ctype.format), rest) := by
  induction packed with
  | nil => rfl
  | cons here _ ih =>
    rw [List.length_cons, List.flatten_cons, List.append_assoc, receiveNumbers, receiveNumber_packed here]
    simp only [Option.bind_eq_bind, Option.bind_some, ih]
    rfl

/-- What is packed for a parameter is received as an equal value. -/
theorem receive_word {type : ParameterType} (kept : type.Keeps value)
    (packed : packSingleArgument value type.plcType = .ok word)
    (bounded : type = .wstring → rest.length = (behind.map width).sum) :
    ∃ received, type.receive behind (word ++ rest) = some (received, rest) ∧ PyVal.Same .plain received value := by
  cases type with
  | number ctype =>
    obtain ⟨part, here⟩ := CType.Keeps.packed kept
    cases (packSingleArgument_number here).symm.trans packed
    exact ⟨_, receiveNumber_packed here rest, here.2.2⟩
  | array ctype n =>
    obtain ⟨items, rfl, rfl, each⟩ := kept
    obtain ⟨parts, here⟩ := exists_forall₂ fun item member => (each item member).packed
    cases (packSingleArgument_array here).symm.trans packed
    refine ⟨.list (parts.map (unpackValue ctype.format)), ?_, .list ?_⟩
    · rw [receive, receiveNumbers_packed here]
      rfl
    · exact List.forall₂_map_left_iff.mpr (here.flip.imp fun _ _ part => part.2.2)
  | string length =>
    obtain ⟨text, rfl, nulFree⟩ := kept
    obtain ⟨chars, rfl, rfl⟩ := packSingleArgument_string_eq_ok.mp packed
    have zeroFree : (0 : UInt8) ∉ Text.Utf8.encode chars :=
      fun zero => nulFree (List.mem_map.mpr ⟨_, Text.Utf8.zero_mem_encode zero, rfl⟩)
    have found : beforeZero (Text.Utf8.encode chars ++ [0] ++ rest) = Text.Utf8.encode chars := by
      rw [List.append_assoc]
      exact beforeZero_append zeroFree rest
    refine ⟨.str (Text.ofChars chars), ?_, .refl _⟩
    rw [receive, found, decodeUtf8_encode]
    simp only [Option.some.injEq, Prod.mk.injEq, true_and]
    exact List.drop_left' (by simp)
  | wstring =>
    obtain ⟨text, rfl, nulFree⟩ := kept
    obtain ⟨chars, rfl, rfl⟩ := packSingleArgument_wstring_eq_ok.mp packed
    have length : (Text.Utf16.encode chars ++ rest).length - (behind.map width).sum =
        (Text.Utf16.encode chars).length := by
      rw [List.length_append, bounded rfl, Nat.add_sub_cancel]
    refine ⟨.str (Text.ofChars chars), ?_, .refl _⟩
    rw [receive]
    simp only [length, List.take_left, decodeUtf16_encode, List.drop_left]

end ParameterType

/-- Where no text comes behind a WSTRING, the inputs that are received equal the arguments. -/
theorem receiveInputs_words (delimited : Delimited signature) (kept : List.Forall₂ ParameterType.Keeps signature args)
    (packs : ArgumentWords signature args words) :
    ∃ received, receiveInputs signature words.flatten = some received ∧
      List.Forall₂ (PyVal.Same .plain) received args := by
  induction packs with
  | nil => exact ⟨[], rfl, .nil⟩
  | @cons value word types args words type packed rest ih =>
    obtain ⟨here, later⟩ := List.pairwise_cons.mp delimited
    obtain ⟨keeps, keepLater⟩ := List.forall₂_cons.mp kept
    obtain ⟨received, taken, same⟩ := ih later keepLater
    have bounded : type = .wstring → words.flatten.length = (types.map ParameterType.width).sum := by
      intro wide
      exact ParameterType.length_words rest fun other member => here other member wide
    obtain ⟨first, front, equal⟩ := ParameterType.receive_word keeps packed bounded
    refine ⟨first :: received, ?_, .cons equal same⟩
    rw [List.flatten_cons, receiveInputs, front]
    simp only [Option.bind_eq_bind, Option.bind_some, taken]
    rfl

end PyAds
