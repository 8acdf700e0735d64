import PyAds.Base.PrefixCodes
import PyAds.RequestIds
import PyAds.StoredValues

/-! Whether the arguments of a method are told by its payload. The encodings are
joined without separators: a number has the width of its type and a STRING ends
with a zero byte, but a WSTRING has neither. -/
namespace PyAds
open Fallible PrefixCodes SlotSequence

/-! ## Parameters -/

/-- The types of the parameters of a method; a STRING may have a length. -/
inductive ParameterType where
  | number (ctype : CType)
  | array (ctype : CType) (n : Nat)
  | string (length : Option Nat)
  | wstring
  deriving DecidableEq

/-- A number in the range of its type. -/
def CType.InRange (ctype : CType) (value : PyVal) : Prop :=
  match ctype with
  | .float => ∃ bits narrow, value.asFloat? = some bits ∧ toBinary32 bits = some narrow
  | .double => ∃ bits, value.asFloat? = some bits
  | ctype => FitsNumber ctype value

/-- A number that its type keeps without rounding it. -/
def CType.Keeps (ctype : CType) (value : PyVal) : Prop :=
  match ctype with
  | .float => ∃ bits narrow, bits < 2 ^ 64 ∧ value = .float bits ∧ toBinary32 bits = some narrow ∧
      ofBinary32 narrow = bits
  | .double => ∃ bits, bits < 2 ^ 64 ∧ value = .float bits
  | ctype => FitsNumber ctype value

namespace ParameterType

def plcType : ParameterType → PlcDataType
  | .number ctype => .ctypes (.simple ctype)
  | .array ctype n => .ctypes (.array (.simple ctype) n)
  | .string none => .ctypes .char
  | .string (some n) => .ctypes (.array .char n)
  | .wstring => .wstring

def IsText : ParameterType → Prop
  | .string _ | .wstring => True
  | .number _ | .array .. => False

instance : DecidablePred IsText := fun type => by
  cases type <;> unfold IsText <;> infer_instance

/-- The arguments for a parameter: numbers in range, lists of them, and texts without NUL. -/
def Accepts : ParameterType → PyVal → Prop
  | .number ctype, value => ctype.InRange value
  | .array ctype _, value => ∃ items, value = .list items ∧ ∀ item ∈ items, ctype.InRange item
  | .string _, value | .wstring, value => ∃ text, value = .str text ∧ .scalar '\x00' ∉ text

/-- The arguments that a parameter keeps as they are; an array has all of its elements. -/
def Keeps : ParameterType → PyVal → Prop
  | .number ctype, value => ctype.Keeps value
  | .array ctype n, value => ∃ items, value = .list items ∧ items.length = n ∧ ∀ item ∈ items, ctype.Keeps item
  | .string _, value | .wstring, value => ∃ text, value = .str text ∧ .scalar '\x00' ∉ text

/-- Integers and texts are kept whenever they are accepted. Real numbers are
rounded, and the missing elements of an array are zero. -/
def Exact : ParameterType → Prop
  | .number ctype => ctype ≠ .float ∧ ctype ≠ .double
  | .array _ n => n = 0
  | .string _ | .wstring => True

end ParameterType

/-- No text comes behind a WSTRING. -/
def Delimited (signature : List ParameterType) : Prop :=
  signature.Pairwise fun earlier later => earlier = .wstring → ¬ later.IsText

/-- Arguments with the same payload are equal. -/
def Decodable (takes : ParameterType → PyVal → Prop) (signature : List ParameterType) : Prop :=
  ∀ first second payload, List.Forall₂ takes signature first → List.Forall₂ takes signature second →
    packMethodArgs (signature.map (·.plcType)) first = .ok payload →
    packMethodArgs (signature.map (·.plcType)) second = .ok payload → List.Forall₂ (PyVal.Same .plain) first second

/-! ## Words -/

/-- The encodings of the arguments. -/
inductive ArgumentWords : List ParameterType → List PyVal → List Bytes → Prop
  | nil : ArgumentWords [] [] []
  | cons (packed : packSingleArgument value type.plcType = .ok word) (rest : ArgumentWords signature args words) :
      ArgumentWords (type :: signature) (value :: args) (word :: words)

theorem ArgumentWords.append (front : ArgumentWords before args words) (back : ArgumentWords after moreArgs moreWords) :
    ArgumentWords (before ++ after) (args ++ moreArgs) (words ++ moreWords) := by
  induction front with
  | nil => exact back
  | cons packed _ ih => exact .cons packed ih

private theorem concatM_words (length : args.length = signature.length) :
    concatM (fun item : PyVal × PlcDataType => packSingleArgument item.1 item.2)
        (args.zip (signature.map ParameterType.plcType)) = .ok bytes ↔
      ∃ words, ArgumentWords signature args words ∧ words.flatten = bytes := by
  induction signature generalizing args bytes with
  | nil =>
    cases args with
    | cons value args => cases length
    | nil =>
      constructor
      · intro packed
        cases packed
        exact ⟨[], .nil, rfl⟩
      · rintro ⟨_, ⟨⟩, rfl⟩
        rfl
  | cons type signature ih =>
    cases args with
    | nil => cases length
    | cons value args =>
      rw [List.map_cons, List.zip_cons_cons, concatM_cons_eq_ok]
      constructor
      · rintro ⟨head, tail, packed, rest, rfl⟩
        obtain ⟨words, packs, rfl⟩ := (ih (Nat.succ.inj length)).mp rest
        exact ⟨head :: words, .cons packed packs, rfl⟩
      · rintro ⟨_, ⟨⟩ | ⟨packed, packs⟩, rfl⟩
        exact ⟨_, _, packed, (ih (Nat.succ.inj length)).mpr ⟨_, packs, rfl⟩, rfl⟩

theorem ArgumentWords.length (packs : ArgumentWords signature args words) : args.length = signature.length := by
  induction packs with
  | nil => rfl
  | cons _ _ ih => rw [List.length_cons, List.length_cons, ih]

/-- The payload consists of the words, and is missing where they are empty. -/
theorem packMethodArgs_eq_ok : packMethodArgs (signature.map ParameterType.plcType) args = .ok payload ↔
    ∃ words, ArgumentWords signature args words ∧ payload = if words.flatten = [] then none else some words.flatten := by
  unfold packMethodArgs
  cases signature with
  | nil =>
    constructor
    · intro packed
      cases args with
      | nil =>
        cases packed
        exact ⟨[], .nil, rfl⟩
      | cons value args => cases packed
    · rintro ⟨_, ⟨⟩, rfl⟩
      rfl
  | cons type signature =>
    rw [if_neg (by simp), List.length_map]
    by_cases length : args.length = (type :: signature).length
    · rw [if_neg (not_not.mpr length), bind_eq_ok]
      constructor
      · rintro ⟨bytes, packed, same⟩
        obtain ⟨words, packs, rfl⟩ := (concatM_words length).mp packed
        cases same
        exact ⟨words, packs, rfl⟩
      · rintro ⟨words, packs, rfl⟩
        exact ⟨words.flatten, (concatM_words length).mpr ⟨words, packs, rfl⟩, rfl⟩
    · rw [if_pos length]
      refine iff_of_false (by rintro ⟨⟩) ?_
      rintro ⟨words, packs, -⟩
      exact length packs.length

/-! ## Values that are kept -/

theorem forall₂_of_common {relates : α → γ → Prop} {same : α → α → Prop} {first second : List α} {shared : List γ}
    (left : List.Forall₂ relates first shared) (right : List.Forall₂ relates second shared)
    (each : ∀ a b c, relates a c → relates b c → same a b) : List.Forall₂ same first second := by
  induction left generalizing second with
  | nil =>
    cases right
    exact .nil
  | cons here _ ih =>
    cases right with
    | cons there rest => exact .cons (each _ _ _ here there) (ih rest)

/-- Values that equal the same number are equal. -/
theorem same_of_number {number first second : PyVal} (noList : ∀ items, number ≠ .list items)
    (noDict : ∀ entries, number ≠ .dict entries) (left : PyVal.Same order number first)
    (right : PyVal.Same order number second) : PyVal.Same order first second := by
  cases left with
  | refl => exact right
  | number own here =>
    cases right with
    | refl => exact .number here own
    | number again there => exact .number here (there.trans (again.symm.trans own))
    | list => exact absurd rfl (noList _)
    | dict => exact absurd rfl (noDict _)
  | list => exact absurd rfl (noList _)
  | dict => exact absurd rfl (noDict _)

theorem same_of_packedIn (one : PackedIn .plain ctype first word) (other : PackedIn .plain ctype second word) :
    PyVal.Same .plain first second := by
  refine same_of_number ?_ ?_ one.2.2 other.2.2
  · intro items
    cases ctype <;> rintro ⟨⟩
  · intro entries
    cases ctype <;> rintro ⟨⟩

/-- A number that is kept is packed into bytes from which an equal one is unpacked. -/
theorem CType.Keeps.packed {ctype : CType} (kept : ctype.Keeps value) : ∃ word, PackedIn .plain ctype value word := by
  have notSint {t : NumberType} (other : t ≠ .sint) : ¬ (ElementaryType.number t).Misread value :=
    fun misread => other (ElementaryType.number.inj misread.1)
  cases ctype with
  | float => exact NumberType.exists_packed (t := .real) kept (notSint (by decide))
  | double => exact NumberType.exists_packed (t := .lreal) kept (notSint (by decide))
  | _ => exact structPack_fits kept .plain

namespace ParameterType

/-- The words of the arguments that a parameter keeps. -/
def Word (type : ParameterType) (word : Bytes) : Prop :=
  ∃ value, type.Keeps value ∧ packSingleArgument value type.plcType = .ok word

theorem packSingleArgument_number (packed : PackedIn order ctype value word) :
    packSingleArgument value (ParameterType.number ctype).plcType = .ok word := CType.fromValue_packed packed.1

/-- The elements of an array, behind which zeros fill it up. -/
theorem packSingleArgument_elements {items : List PyVal} (fits : items.length ≤ n)
    (packed : concatM (CDataType.simple ctype).fromValue items = .ok data) :
    packSingleArgument (.list items) (ParameterType.array ctype n).plcType =
      .ok (data ++ List.replicate (n * ctype.sizeof - data.length) 0) := by
  simp only [packSingleArgument, plcType, typeIsString, Bool.false_eq_true, ↓reduceIte, requestData, PyVal.iterate,
    bind, Except.bind, List.take_of_length_le fits, packed, Nat.not_lt.mpr fits]
  rfl

theorem packSingleArgument_array {items : List PyVal} {words : List Bytes}
    (packed : List.Forall₂ (PackedIn order ctype) items words) :
    packSingleArgument (.list items) (ParameterType.array ctype items.length).plcType = .ok words.flatten := by
  have elements : concatM (CDataType.simple ctype).fromValue items = .ok words.flatten :=
    concatM_of_forall₂ (packed.imp fun _ _ here => CType.fromValue_packed here.1)
  have length : words.flatten.length = items.length * ctype.sizeof := by
    rw [length_flatten_blocks (length_of_mem_packed packed), packed.length_eq]
  rw [packSingleArgument_elements (Nat.le_refl _) elements, length, Nat.sub_self, List.replicate_zero, List.append_nil]

theorem packSingleArgument_string_eq_ok {length : Option Nat} {text : Text.Str} :
    packSingleArgument (.str text) (ParameterType.string length).plcType = .ok word ↔
      ∃ chars, text = Text.ofChars chars ∧ word = Text.Utf8.encode chars ++ [0] := by
  have same : packSingleArgument (.str text) (ParameterType.string length).plcType =
      (encodeUtf8 text).map (· ++ [0]) := by
    cases length <;> rfl
  rw [same, map_eq_ok]
  constructor
  · rintro ⟨encoded, utf8, rfl⟩
    obtain ⟨chars, rfl, rfl⟩ := encodeUtf8_eq_ok_iff.mp utf8
    exact ⟨chars, rfl, rfl⟩
  · rintro ⟨chars, rfl, rfl⟩
    exact ⟨_, encodeUtf8_ofChars chars, rfl⟩

theorem packSingleArgument_wstring_eq_ok {text : Text.Str} :
    packSingleArgument (.str text) ParameterType.wstring.plcType = .ok word ↔
      ∃ chars, text = Text.ofChars chars ∧ word = Text.Utf16.encode chars := encodeUtf16_eq_ok_iff

theorem fixed_word {type : ParameterType} (number : ¬ type.IsText) : Fixed type.Word := by
  refine ⟨argumentWidth (.none, type.plcType), ?_⟩
  rintro word ⟨value, -, packed⟩
  rw [length_packSingleArgument packed]
  cases type with
  | number ctype => rfl
  | array ctype n => rfl
  | string length => exact absurd trivial number
  | wstring => exact absurd trivial number

theorem prefixFree_word {type : ParameterType} (terminated : type ≠ .wstring) : PrefixFree type.Word := by
  cases type with
  | number ctype => exact (fixed_word (by simp [IsText])).prefixFree
  | array ctype n => exact (fixed_word (by simp [IsText])).prefixFree
  | wstring => exact absurd rfl terminated
  | string length =>
    apply prefixFree_of_mark 0
    rintro word ⟨value, ⟨text, rfl, nulFree⟩, packed⟩
    obtain ⟨chars, rfl, rfl⟩ := packSingleArgument_string_eq_ok.mp packed
    refine ⟨Text.Utf8.encode chars, ?_, rfl⟩
    intro zero
    exact nulFree (List.mem_map.mpr ⟨_, Text.Utf8.zero_mem_encode zero, rfl⟩)

/-- Words of the same bytes are words of equal values. -/
theorem same_of_word {type : ParameterType} (one : type.Keeps first) (other : type.Keeps second)
    (packed : packSingleArgument first type.plcType = .ok word)
    (again : packSingleArgument second type.plcType = .ok word) : PyVal.Same .plain first second := by
  cases type with
  | number ctype =>
    obtain ⟨left, here⟩ := CType.Keeps.packed one
    obtain ⟨right, there⟩ := CType.Keeps.packed other
    cases (packSingleArgument_number here).symm.trans packed
    cases (packSingleArgument_number there).symm.trans again
    exact same_of_packedIn here there
  | array ctype n =>
    obtain ⟨items, rfl, rfl, kept⟩ := one
    obtain ⟨others, rfl, count, alsoKept⟩ := other
    obtain ⟨left, here⟩ := exists_forall₂ fun item member => (kept item member).packed
    obtain ⟨right, there⟩ := exists_forall₂ fun item member => (alsoKept item member).packed
    cases (packSingleArgument_array here).symm.trans packed
    rw [← count] at again
    have flat : right.flatten = left.flatten :=
      Except.ok.inj ((packSingleArgument_array there).symm.trans again)
    have width {values : List PyVal} {words : List Bytes} (packed : List.Forall₂ (PackedIn .plain ctype) values words) :
        words.map List.length = List.replicate values.length ctype.sizeof := by
      refine List.eq_replicate_iff.mpr ⟨by rw [List.length_map, packed.length_eq], ?_⟩
      exact List.forall_mem_map.mpr (length_of_mem_packed packed)
    cases List.eq_iff_flatten_eq.mpr ⟨flat, by rw [width here, width there, count]⟩
    exact .list (forall₂_of_common here there fun _ _ _ => same_of_packedIn)
  | string length =>
    obtain ⟨text, rfl, -⟩ := one
    obtain ⟨others, rfl, -⟩ := other
    obtain ⟨chars, rfl, rfl⟩ := packSingleArgument_string_eq_ok.mp packed
    obtain ⟨more, rfl, same⟩ := packSingleArgument_string_eq_ok.mp again
    have decoded := congrArg Text.Utf8.decode (List.append_cancel_right same)
    rw [Text.Utf8.decode_encode, Text.Utf8.decode_encode, Option.some.injEq] at decoded
    exact decoded ▸ .refl _
  | wstring =>
    obtain ⟨text, rfl, -⟩ := one
    obtain ⟨others, rfl, -⟩ := other
    obtain ⟨chars, rfl, rfl⟩ := packSingleArgument_wstring_eq_ok.mp packed
    obtain ⟨more, rfl, same⟩ := packSingleArgument_wstring_eq_ok.mp again
    have decoded := congrArg Text.Utf16.decode same
    rw [Text.Utf16.decode_encode, Text.Utf16.decode_encode, Option.some.injEq] at decoded
    exact decoded ▸ .refl _

end ParameterType

/-! ## Delimited signatures -/

theorem separable_of_delimited (delimited : Delimited signature) : Separable ParameterType.Word signature := by
  induction delimited with
  | nil => trivial
  | @cons type later here _ ih =>
    refine ⟨?_, ih⟩
    by_cases wide : type = .wstring
    · right
      intro other member
      exact ParameterType.fixed_word (here other member wide)
    · left
      exact ParameterType.prefixFree_word wide

theorem ArgumentWords.forall_word (packs : ArgumentWords signature args words)
    (kept : List.Forall₂ ParameterType.Keeps signature args) : List.Forall₂ ParameterType.Word signature words := by
  induction packs with
  | nil => exact .nil
  | cons packed _ ih =>
    cases kept with
    | cons here rest => exact .cons ⟨_, here, packed⟩ (ih rest)

theorem ArgumentWords.same (packs : ArgumentWords signature args words) (again : ArgumentWords signature others words)
    (kept : List.Forall₂ ParameterType.Keeps signature args) (also : List.Forall₂ ParameterType.Keeps signature others) :
    List.Forall₂ (PyVal.Same .plain) args others := by
  induction packs generalizing others with
  | nil =>
    cases again
    exact .nil
  | cons packed _ ih =>
    cases again with
    | cons packedToo rest =>
      cases kept with
      | cons here later =>
        cases also with
        | cons there laterToo =>
          exact .cons (ParameterType.same_of_word here there packed packedToo) (ih rest later laterToo)

theorem decodable_of_delimited (delimited : Delimited signature) : Decodable ParameterType.Keeps signature := by
  intro first second payload kept also packed again
  obtain ⟨words, packs, rfl⟩ := packMethodArgs_eq_ok.mp packed
  obtain ⟨others, packsToo, same⟩ := packMethodArgs_eq_ok.mp again
  have joined : words.flatten = others.flatten := by
    by_cases empty : words.flatten = []
    · rw [if_pos empty] at same
      split at same
      · rename_i alsoEmpty
        rw [empty, alsoEmpty]
      · cases same
    · rw [if_neg empty] at same
      split at same
      · cases same
      · exact Option.some.inj same
  cases (separable_of_delimited delimited).flatten_injective (packs.forall_word kept) (packsToo.forall_word also) joined
  exact packs.same packsToo kept also

/-! ## Arguments with the same payload -/

/-- The number all of whose bytes are 1. -/
def CType.filler (ctype : CType) : PyVal := unpackValue ctype.format (List.replicate ctype.sizeof 1)

theorem CType.filler_packed (ctype : CType) :
    PackedIn .plain ctype ctype.filler (List.replicate ctype.sizeof 1) := by
  refine ⟨?_, List.length_replicate, .refl _⟩
  cases ctype with
  | bool => rfl
  | float => decide
  | double => decide
  | _ => exact structPack_unpackValue (by decide) rfl

theorem CType.filler_kept (ctype : CType) : ctype.Keeps ctype.filler := by
  cases ctype with
  | bool => exact ⟨.bool true, 1, ⟨true, rfl⟩, rfl, rfl⟩
  | float => exact ⟨_, 0x01010101, by decide, rfl, by decide, rfl⟩
  | double => exact ⟨_, by decide, rfl⟩
  | _ => exact ⟨_, _, ⟨_, rfl, by decide⟩, rfl, rfl⟩

namespace ParameterType

/-- An argument for each type, numbers of bytes that are 1 and empty texts. -/
def filler : ParameterType → PyVal
  | .number ctype => ctype.filler
  | .array ctype n => .list (List.replicate n ctype.filler)
  | .string _ | .wstring => .str []

def fillerWord : ParameterType → Bytes
  | .number ctype => List.replicate ctype.sizeof 1
  | .array ctype n => (List.replicate n (List.replicate ctype.sizeof 1)).flatten
  | .string _ => [0]
  | .wstring => []

theorem filler_kept (type : ParameterType) : type.Keeps type.filler := by
  cases type with
  | number ctype => exact ctype.filler_kept
  | array ctype n =>
    refine ⟨_, rfl, List.length_replicate, fun item member => ?_⟩
    rw [List.eq_of_mem_replicate member]
    exact ctype.filler_kept
  | string length => exact ⟨[], rfl, List.not_mem_nil⟩
  | wstring => exact ⟨[], rfl, List.not_mem_nil⟩

theorem filler_packed (type : ParameterType) : packSingleArgument type.filler type.plcType = .ok type.fillerWord := by
  cases type with
  | number ctype => exact packSingleArgument_number ctype.filler_packed
  | array ctype n =>
    have packed : List.Forall₂ (PackedIn .plain ctype) (List.replicate n ctype.filler)
        (List.replicate n (List.replicate ctype.sizeof 1)) := by
      induction n with
      | zero => exact .nil
      | succ n ih => exact .cons ctype.filler_packed ih
    have whole := packSingleArgument_array packed
    rwa [List.length_replicate] at whole
  | string length => cases length <;> rfl
  | wstring => rfl

/-- A number in the place of a text consists of bytes that are 1. -/
theorem exists_fillerWord {types : List ParameterType} (numbers : ∀ type ∈ types, ¬ type.IsText) :
    ∃ m, (types.map fillerWord).flatten = List.replicate m 1 := by
  induction types with
  | nil => exact ⟨0, rfl⟩
  | cons type types ih =>
    obtain ⟨here, later⟩ := List.forall_mem_cons.mp numbers
    obtain ⟨m, rest⟩ := ih later
    rw [List.map_cons, List.flatten_cons, rest]
    cases type with
    | number ctype => exact ⟨ctype.sizeof + m, by rw [fillerWord, List.replicate_add]⟩
    | array ctype n => exact ⟨n * ctype.sizeof + m, by rw [fillerWord, List.flatten_replicate_replicate, List.replicate_add]⟩
    | string length => exact absurd trivial here
    | wstring => exact absurd trivial here

/-- A text that takes the two bytes in front of it as well. -/
def lateText : ParameterType → PyVal
  | .wstring => .str (Text.ofChars ['ā'])
  | _ => .str (Text.ofChars ['\x01', '\x01'])

theorem lateText_packed {type : ParameterType} (text : type.IsText) :
    packSingleArgument type.lateText type.plcType = .ok ([1, 1] ++ type.fillerWord) := by
  cases type with
  | number ctype => cases text
  | array ctype n => cases text
  | string length => cases length <;> rfl
  | wstring => rfl

end ParameterType

theorem words_filler (types : List ParameterType) :
    ArgumentWords types (types.map (·.filler)) (types.map (·.fillerWord)) := by
  induction types with
  | nil => exact .nil
  | cons type types ih => exact .cons type.filler_packed ih

/-- Two ways to fill a part of a signature with the same bytes. -/
theorem not_decodable {takes : ParameterType → PyVal → Prop} {middle : List ParameterType}
    (fillers : ∀ type, takes type type.filler) (one : List.Forall₂ takes middle first)
    (other : List.Forall₂ takes middle second) (words : ArgumentWords middle first firstWords)
    (also : ArgumentWords middle second secondWords) (same : firstWords.flatten = secondWords.flatten)
    (differ : ¬ List.Forall₂ (PyVal.Same .plain) first second) (before after : List ParameterType) :
    ¬ Decodable takes (before ++ middle ++ after) := by
  have filled (types : List ParameterType) : List.Forall₂ takes types (types.map (·.filler)) :=
    List.forall₂_map_right_iff.mpr (List.forall₂_same.mpr fun type _ => fillers type)
  have taken {args : List PyVal} (here : List.Forall₂ takes middle args) :
      List.Forall₂ takes (before ++ middle ++ after) (before.map (·.filler) ++ args ++ after.map (·.filler)) :=
    List.rel_append (List.rel_append (filled before) here) (filled after)
  have packed {args : List PyVal} {argWords : List Bytes} (here : ArgumentWords middle args argWords) :=
    packMethodArgs_eq_ok.mpr ⟨_, ((words_filler before).append here).append (words_filler after), rfl⟩
  intro decodable
  have again := packed also
  rw [List.flatten_append, List.flatten_append, ← same, ← List.flatten_append, ← List.flatten_append] at again
  have equal := decodable _ _ _ (taken one) (taken other) (packed words) again
  rw [List.append_assoc, List.append_assoc] at equal
  have behind := List.forall₂_drop before.length equal
  rw [List.drop_left' (List.length_map ..), List.drop_left' (List.length_map ..)] at behind
  have part := List.forall₂_take middle.length behind
  rw [List.take_left' one.length_eq.symm, List.take_left' other.length_eq.symm] at part
  exact differ part

/-- In a signature that is not delimited, only numbers lie between some WSTRING
and the next text. -/
theorem exists_undelimited (open_ : ¬ Delimited signature) : ∃ before between text after,
    signature = before ++ (.wstring :: (between ++ [text])) ++ after ∧ text.IsText ∧ ∀ type ∈ between, ¬ type.IsText := by
  induction signature with
  | nil => exact absurd List.Pairwise.nil open_
  | cons type signature ih =>
    by_cases later : Delimited signature
    · have behind : ¬ ∀ other ∈ signature, type = .wstring → ¬ other.IsText :=
        fun here => open_ (List.Pairwise.cons here later)
      push Not at behind
      obtain ⟨other, member, rfl, text⟩ := behind
      have some_ : (signature.find? fun type => decide type.IsText).isSome :=
        List.find?_isSome.mpr ⟨other, member, decide_eq_true text⟩
      obtain ⟨found, first⟩ := Option.isSome_iff_exists.mp some_
      obtain ⟨isText, between, after, rfl, numbers⟩ := List.find?_eq_some_iff_append.mp first
      exact ⟨[], between, found, after, by simp, of_decide_eq_true isText, by simpa using numbers⟩
    · obtain ⟨before, between, text, after, rfl, isText, numbers⟩ := ih later
      exact ⟨type :: before, between, text, after, rfl, isText, numbers⟩

theorem delimited_of_decodable {takes : ParameterType → PyVal → Prop}
    (kept : ∀ type value, type.Keeps value → takes type value) (decodable : Decodable takes signature) :
    Delimited signature := by
  by_contra open_
  obtain ⟨before, between, text, after, rfl, isText, numbers⟩ := exists_undelimited open_
  obtain ⟨m, ones⟩ := ParameterType.exists_fillerWord numbers
  have fillers (type : ParameterType) : takes type type.filler := kept _ _ type.filler_kept
  have filled : List.Forall₂ takes between (between.map (·.filler)) :=
    List.forall₂_map_right_iff.mpr (List.forall₂_same.mpr fun type _ => fillers type)
  have wide : takes .wstring (.str (Text.ofChars ['ā'])) := kept _ _ ⟨_, rfl, by decide⟩
  have late : takes text text.lateText := by
    apply kept
    cases text with
    | number ctype => cases isText
    | array ctype n => cases isText
    | string length => exact ⟨_, rfl, by decide⟩
    | wstring => exact ⟨_, rfl, by decide⟩
  have early : packSingleArgument (.str (Text.ofChars ['ā'])) ParameterType.wstring.plcType = .ok [1, 1] := rfl
  refine not_decodable fillers (.cons wide (List.rel_append filled (.cons (fillers text) .nil)))
    (.cons (fillers .wstring) (List.rel_append filled (.cons late .nil)))
    (.cons early ((words_filler between).append (.cons text.filler_packed .nil)))
    (.cons ParameterType.wstring.filler_packed
      ((words_filler between).append (.cons (ParameterType.lateText_packed isText) .nil))) ?_ ?_ before after decodable
  · -- the two bytes are those of the WSTRING in the one case, and those of the later text in the other
    have moved : [1, 1] ++ List.replicate m (1 : UInt8) = List.replicate m 1 ++ [1, 1] := by
      have two : [(1 : UInt8), 1] = List.replicate 2 1 := rfl
      rw [two, List.replicate_append_replicate, List.replicate_append_replicate, Nat.add_comm]
    rw [List.flatten_cons, List.flatten_cons, List.flatten_append, List.flatten_append, ones, List.flatten_singleton,
      List.flatten_singleton, ← List.append_assoc, moved, List.append_assoc]
    rfl
  · rintro (_ | ⟨equal, -⟩)
    cases equal with
    | number left => cases left

/-! ## All arguments -/

theorem CType.fromValue_zero (ctype : CType) : ctype.fromValue (.int 0) = .ok (List.replicate ctype.sizeof 0) := by
  cases ctype <;> decide

theorem CType.inRange_zero (ctype : CType) : ctype.InRange (.int 0) := by
  cases ctype with
  | bool => exact ⟨.bool false, 0, ⟨false, rfl⟩, rfl, rfl⟩
  | float => exact ⟨0, 0, rfl, rfl⟩
  | double => exact ⟨0, rfl⟩
  | _ => exact ⟨.int 0, 0, ⟨0, rfl, by decide⟩, rfl, rfl⟩

/-- Two arguments for a type that does not keep them apart. -/
theorem exists_rivals {type : ParameterType} (rounded : ¬ type.Exact) : ∃ first second word, type.Accepts first ∧
    type.Accepts second ∧ packSingleArgument first type.plcType = .ok word ∧
    packSingleArgument second type.plcType = .ok word ∧ ¬ PyVal.Same .plain first second := by
  cases type with
  | number ctype =>
    cases ctype with
    | float =>
      refine ⟨.int 16777216, .int 16777217, [0, 0, 128, 75], ⟨_, _, rfl, rfl⟩, ⟨_, _, rfl, rfl⟩, by decide, by decide, ?_⟩
      simp
    | double =>
      refine ⟨.int (2 ^ 53), .int (2 ^ 53 + 1), [0, 0, 0, 0, 0, 0, 64, 67], ⟨_, rfl⟩, ⟨_, rfl⟩, by decide, by decide, ?_⟩
      simp
    | _ => exact absurd ⟨by decide, by decide⟩ rounded
  | array ctype n =>
    obtain ⟨n, rfl⟩ := Nat.exists_eq_succ_of_ne_zero rounded
    refine ⟨.list [], .list [.int 0], List.replicate ((n + 1) * ctype.sizeof) 0, ⟨[], rfl, by simp⟩,
      ⟨_, rfl, by simpa using ctype.inRange_zero⟩, rfl, ?_, ?_⟩
    · have element : concatM (CDataType.simple ctype).fromValue [.int 0] = .ok (List.replicate ctype.sizeof 0 ++ []) :=
        concatM_cons_eq_ok.mpr ⟨_, [], ctype.fromValue_zero, rfl, rfl⟩
      have rest : ctype.sizeof + ((n + 1) * ctype.sizeof - ctype.sizeof) = (n + 1) * ctype.sizeof := by
        rw [Nat.succ_mul]
        omega
      rw [ParameterType.packSingleArgument_elements (by simp) element, List.append_nil, List.length_replicate,
        List.replicate_append_replicate, rest]
    · rintro (_ | _ | ⟨⟨⟩⟩)
      rename_i equal
      cases equal
  | string length => exact absurd trivial rounded
  | wstring => exact absurd trivial rounded

theorem CType.Keeps.inRange {ctype : CType} (kept : ctype.Keeps value) : ctype.InRange value := by
  cases ctype with
  | float =>
    obtain ⟨bits, narrow, -, rfl, rounded, -⟩ := kept
    exact ⟨bits, narrow, rfl, rounded⟩
  | double =>
    obtain ⟨bits, -, rfl⟩ := kept
    exact ⟨bits, rfl⟩
  | _ => exact kept

theorem ParameterType.Keeps.accepts {type : ParameterType} (kept : type.Keeps value) : type.Accepts value := by
  cases type with
  | number ctype => exact CType.Keeps.inRange kept
  | array ctype n =>
    obtain ⟨items, rfl, -, each⟩ := kept
    exact ⟨items, rfl, fun item member => (each item member).inRange⟩
  | string length => exact kept
  | wstring => exact kept

/-- An exact type keeps what it accepts and packs. -/
theorem ParameterType.Exact.keeps {type : ParameterType} (exact_ : type.Exact) (accepted : type.Accepts value)
    (packed : packSingleArgument value type.plcType = .ok word) : type.Keeps value := by
  cases type with
  | number ctype =>
    obtain ⟨notFloat, notDouble⟩ := exact_
    cases ctype with
    | float => exact absurd rfl notFloat
    | double => exact absurd rfl notDouble
    | _ => exact accepted
  | array ctype n =>
    obtain ⟨items, rfl, each⟩ := accepted
    cases show n = 0 from exact_
    have none_ : items = [] := by
      by_contra some_
      have more : 0 < items.length := List.length_pos_iff.mpr some_
      simp [packSingleArgument, plcType, typeIsString, requestData, PyVal.iterate, bind, Except.bind, more, throw,
        throwThe, MonadExceptOf.throw] at packed
    exact ⟨items, rfl, by rw [none_]; rfl, by simp [none_]⟩
  | string length => exact accepted
  | wstring => exact accepted

theorem keeps_of_exact (exact_ : ∀ type ∈ signature, type.Exact)
    (accepted : List.Forall₂ ParameterType.Accepts signature args) (packs : ArgumentWords signature args words) :
    List.Forall₂ ParameterType.Keeps signature args := by
  induction packs with
  | nil => exact .nil
  | cons packed _ ih =>
    obtain ⟨here, later⟩ := List.forall_mem_cons.mp exact_
    cases accepted with
    | cons taken rest => exact .cons (here.keeps taken packed) (ih later rest)

/-- Arguments that are kept as they are can be told from the payload exactly if
no text comes behind a WSTRING. -/
theorem decodable_kept_iff (signature : List ParameterType) :
    Decodable ParameterType.Keeps signature ↔ Delimited signature :=
  ⟨delimited_of_decodable fun _ _ kept => kept, decodable_of_delimited⟩

/-- Of all arguments in range this is so where each parameter also keeps what it
is given: no real number is rounded, and no array is filled up. -/
theorem decodable_accepted_iff (signature : List ParameterType) :
    Decodable ParameterType.Accepts signature ↔ Delimited signature ∧ ∀ type ∈ signature, type.Exact := by
  constructor
  · intro decodable
    refine ⟨delimited_of_decodable (fun _ _ kept => kept.accepts) decodable, ?_⟩
    intro type member
    by_contra inexact
    obtain ⟨first, second, word, one, other, packed, again, differ⟩ := exists_rivals inexact
    obtain ⟨before, after, rfl⟩ := List.append_of_mem member
    refine not_decodable (fun type => type.filler_kept.accepts) (.cons one .nil) (.cons other .nil) (.cons packed .nil)
      (.cons again .nil) rfl ?_ before after ?_
    · rintro (_ | ⟨equal, -⟩)
      exact differ equal
    · rwa [List.append_assoc, List.singleton_append]
  · rintro ⟨delimited, exact_⟩ first second payload accepted also packed again
    obtain ⟨words, packs, -⟩ := packMethodArgs_eq_ok.mp packed
    obtain ⟨others, packsToo, -⟩ := packMethodArgs_eq_ok.mp again
    exact decodable_of_delimited delimited first second payload (keeps_of_exact exact_ accepted packs)
      (keeps_of_exact exact_ also packsToo) packed again

/-- The texts "a" and "bc" are sent as the texts "ab" and "c" are. -/
theorem wstrings_run_together : ¬ Decodable ParameterType.Accepts [.wstring, .wstring] := by
  intro decodable
  have equal := decodable [.str (Text.ofChars ['a']), .str (Text.ofChars ['b', 'c'])]
    [.str (Text.ofChars ['a', 'b']), .str (Text.ofChars ['c'])] (some [97, 0, 98, 0, 99, 0])
    (.cons ⟨_, rfl, by decide⟩ (.cons ⟨_, rfl, by decide⟩ .nil))
    (.cons ⟨_, rfl, by decide⟩ (.cons ⟨_, rfl, by decide⟩ .nil)) rfl rfl
  obtain _ | ⟨first, -⟩ := equal
  cases first with
  | number left => cases left

end PyAds
