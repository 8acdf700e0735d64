import PyAds.StructureDef

/-! A structure definition lays out its elements in consecutive slots, arrays
and nested structures unfolded. The layout is what a definition means: the
size walk adds up the widths, the decoding walk reads slot by slot, and the
encoding walk writes the same values in the same order. Dictionaries only name
and group the values of the slots. -/
namespace PyAds
open SlotSequence Fallible

/-- One element of a structure: its type and, for a string, its capacity. -/
structure Slot where
  plcDatatype : PlcType
  strLen : Nat
  deriving DecidableEq, Repr

namespace Slot

def width (slot : Slot) : Nat :=
  match slot.plcDatatype with
  | .string => slot.strLen + 1
  | .wstring => 2 * (slot.strLen + 1)
  | .simple ctype => ctype.sizeof
  | .unknown => 0

end Slot

/-- The value in the bytes of one slot. -/
def readSlot (slot : Slot) (data : Bytes) : Result PyVal :=
  match slot.plcDatatype with
  | .string => (decodeUtf8 (beforeZero data)).map .str
  | .wstring => (decodeUtf16 (beforeTerminator data)).map .str
  | .simple ctype => structUnpack ctype.format data
  | .unknown => .error (.runtimeError "Datatype not found. Check structure definition")

theorem readSlot_string : readSlot ⟨.string, strLen⟩ data = .ok value ↔
    ∃ chars, value = .str (Text.ofChars chars) ∧ beforeZero data = Text.Utf8.encode chars := by
  simp only [readSlot, map_eq_ok, decodeUtf8_eq_ok_iff]
  constructor
  · rintro ⟨_, ⟨chars, rfl, bytes⟩, rfl⟩
    exact ⟨chars, rfl, bytes⟩
  · rintro ⟨chars, rfl, bytes⟩
    exact ⟨_, ⟨chars, rfl, bytes⟩, rfl⟩

theorem readSlot_wstring : readSlot ⟨.wstring, strLen⟩ data = .ok value ↔
    ∃ chars, value = .str (Text.ofChars chars) ∧ beforeTerminator data = Text.Utf16.encode chars := by
  simp only [readSlot, map_eq_ok, decodeUtf16_eq_ok_iff]
  constructor
  · rintro ⟨_, ⟨chars, rfl, bytes⟩, rfl⟩
    exact ⟨chars, rfl, bytes⟩
  · rintro ⟨chars, rfl, bytes⟩
    exact ⟨_, ⟨chars, rfl, bytes⟩, rfl⟩

/-- The bytes of a value for one slot, which may turn out too long. -/
def writeSlot (item : Slot × PyVal) : Result Bytes :=
  writeElement item.1.plcDatatype (some item.1.strLen) item.2

namespace StructureDef

def slotOf (plcDatatype : PlcType) (strLen : Option Nat) : Slot :=
  ⟨plcDatatype, strLen.getD PLC_DEFAULT_STRING_SIZE⟩

/-- All slots of a structure, in order. -/
def layout : StructureDef → List Slot
  | .nil => []
  | .item _ plcDatatype size strLen rest =>
    List.replicate size (slotOf plcDatatype strLen) ++ layout rest
  | .nested _ plcDatatype size rest =>
    (List.replicate size (layout plcDatatype)).flatten ++ layout rest

def names : StructureDef → List String
  | .nil => []
  | .item var _ _ _ rest => var :: names rest
  | .nested var _ _ rest => var :: names rest

/-- No two items of one structure share a name, at any depth. -/
def DistinctNames : StructureDef → Prop
  | .nil => True
  | .item var _ _ _ rest => var ∉ rest.names ∧ DistinctNames rest
  | .nested var plcDatatype _ rest =>
    DistinctNames plcDatatype ∧ var ∉ rest.names ∧ DistinctNames rest

/-- Every item, at any depth, has a type of this kind. -/
def TypesIn (kind : PlcType → Prop) : StructureDef → Prop
  | .nil => True
  | .item _ plcDatatype _ _ rest => kind plcDatatype ∧ TypesIn kind rest
  | .nested _ plcDatatype _ rest => TypesIn kind plcDatatype ∧ TypesIn kind rest

/-- No nested item that is ever reached has size 1. -/
def NoSingleNested : StructureDef → Prop
  | .nil => True
  | .item _ _ _ _ rest => NoSingleNested rest
  | .nested _ plcDatatype size rest =>
    size ≠ 1 ∧ (size = 0 ∨ NoSingleNested plcDatatype) ∧ NoSingleNested rest

/-- The dictionary whose leaves, in order, are the values of the slots. -/
def assemble : StructureDef → List PyVal → Entries
  | .nil, _ => []
  | .item var _ size _ rest, leaves =>
    (var, unwrapSingle size (leaves.take size)) :: assemble rest (leaves.drop size)
  | .nested var plcDatatype size rest, leaves =>
    (var, unwrapSingle size ((groups (layout plcDatatype).length size leaves).map fun group =>
      .dict (assemble plcDatatype group))) ::
      assemble rest (leaves.drop (size * (layout plcDatatype).length))

/-- The same dictionary behind other entries, as `dict_from_bytes` builds it:
a name that is already there keeps its place and gets the new value. -/
def assembleInto : StructureDef → Entries → List PyVal → Entries
  | .nil, values, _ => values
  | .item var _ size _ rest, values, leaves =>
    rest.assembleInto (OrderedDict.setItem values var (unwrapSingle size (leaves.take size))) (leaves.drop size)
  | .nested var plcDatatype size rest, values, leaves =>
    rest.assembleInto (OrderedDict.setItem values var
      (unwrapSingle size ((groups (layout plcDatatype).length size leaves).map fun group =>
        .dict (assembleInto plcDatatype [] group)))) (leaves.drop (size * (layout plcDatatype).length))

@[simp] theorem length_layout_item :
    (layout (.item var plcDatatype size strLen rest)).length = size + rest.layout.length := by
  simp [layout]

@[simp] theorem length_layout_nested :
    (layout (.nested var plcDatatype size rest)).length =
      size * plcDatatype.layout.length + rest.layout.length := by
  simp [layout, List.length_flatten]

@[simp] theorem keys_assemble (structureDef : StructureDef) (leaves : List PyVal) :
    (structureDef.assemble leaves).map Prod.fst = structureDef.names := by
  induction structureDef generalizing leaves with
  | nil => rfl
  | item var plcDatatype size strLen rest ih => simp [assemble, names, ih]
  | nested var plcDatatype size rest _ ih => simp [assemble, names, ih]

theorem typesIn_layout {kind : PlcType → Prop} (kinds : TypesIn kind structureDef) :
    ∀ slot ∈ structureDef.layout, kind slot.plcDatatype := by
  induction structureDef with
  | nil => simp [layout]
  | item var plcDatatype size strLen rest ih =>
    intro slot member
    rcases List.mem_append.mp member with here | there
    · rw [List.eq_of_mem_replicate here]
      exact kinds.1
    · exact ih kinds.2 slot there
  | nested var plcDatatype size rest ihNested ih =>
    intro slot member
    rcases List.mem_append.mp member with here | there
    · obtain ⟨block, copy, inside⟩ := List.mem_flatten.mp here
      rw [List.eq_of_mem_replicate copy] at inside
      exact ihNested kinds.1 slot inside
    · exact ih kinds.2 slot there

theorem nodup_names (distinct : DistinctNames structureDef) : structureDef.names.Nodup := by
  induction structureDef with
  | nil => exact List.nodup_nil
  | item var plcDatatype size strLen rest ih => exact List.nodup_cons.mpr ⟨distinct.1, ih distinct.2⟩
  | nested var plcDatatype size rest _ ih =>
    exact List.nodup_cons.mpr ⟨distinct.2.1, ih distinct.2.2⟩

end StructureDef

open StructureDef

/-! ## Size -/

theorem elementSize_eq (known : elementSize plcDatatype strLen = .ok n) :
    n = (slotOf plcDatatype strLen).width := by
  cases plcDatatype <;> cases known <;> rfl

theorem extent_flatten_replicate (width : σ → Nat) (n : Nat) (block : List σ) :
    extent width (List.replicate n block).flatten = n * extent width block := by
  induction n with
  | zero => simp
  | succ n ih =>
    rw [List.replicate_succ, List.flatten_cons, extent_append, ih, Nat.succ_mul, Nat.add_comm]

/-- The size of a structure is the total width of its slots. -/
theorem sizeOfStructure_eq (known : sizeOfStructure structureDef = .ok n) :
    n = extent Slot.width structureDef.layout := by
  induction structureDef generalizing n with
  | nil => cases known; rfl
  | item var plcDatatype size strLen rest ih =>
    obtain ⟨bytes, after, element, tail, rfl⟩ := both_eq_ok.mp known
    rw [layout, extent_append, extent_replicate, ← elementSize_eq element, ← ih tail, Nat.mul_comm]
  | nested var plcDatatype size rest ihNested ih =>
    obtain ⟨bytes, after, inner, tail, rfl⟩ := both_eq_ok.mp known
    rw [layout, extent_append, extent_flatten_replicate, ← ihNested inner, ← ih tail, Nat.mul_comm]

/-- Only an unknown type has no size. -/
theorem sizeOfStructure_known (known : structureDef.TypesIn (· ≠ .unknown)) :
    sizeOfStructure structureDef = .ok (extent Slot.width structureDef.layout) := by
  have sized : ∃ n, sizeOfStructure structureDef = .ok n := by
    induction structureDef with
    | nil => exact ⟨0, rfl⟩
    | item var plcDatatype size strLen rest ih =>
      obtain ⟨after, tail⟩ := ih known.2
      have element : ∃ n, elementSize plcDatatype strLen = .ok n := by
        cases plcDatatype with
        | unknown => exact absurd rfl known.1
        | _ => exact ⟨_, rfl⟩
      obtain ⟨bytes, element⟩ := element
      exact ⟨_, by simp [sizeOfStructure, element, tail, bind, Except.bind]; rfl⟩
    | nested var plcDatatype size rest ihNested ih =>
      obtain ⟨bytes, inner⟩ := ihNested known.1
      obtain ⟨after, tail⟩ := ih known.2
      exact ⟨_, by simp [sizeOfStructure, inner, tail, bind, Except.bind]; rfl⟩
  obtain ⟨n, sized⟩ := sized
  rw [sized, sizeOfStructure_eq sized]

/-! ## Decoding -/

/-- An element loop over bytes reads one slot. -/
theorem readElement_bytes (data : Bytes) (plcDatatype : PlcType) (strLen : Option Nat) (index : Nat) :
    readElement (.bytes data) plcDatatype strLen index =
      (do
        let leaves ← readAll readSlot Slot.width [slotOf plcDatatype strLen] (data.drop index)
        return (leaves.headD .none, index + (slotOf plcDatatype strLen).width)) := by
  cases plcDatatype with
  | string =>
    simp only [readElement, readAll, readSlot, slotOf, Slot.width, ByteSource.slice,
      ByteSource.bytearray, bind, Except.bind, Except.map]
    cases decodeUtf8 (beforeZero _) <;> rfl
  | wstring =>
    simp only [readElement, readAll, readSlot, slotOf, Slot.width, ByteSource.slice,
      ByteSource.bytearray, bind, Except.bind, Except.map]
    cases decodeUtf16 _ <;> rfl
  | simple ctype =>
    simp only [readElement, readAll, readSlot, slotOf, Slot.width, ByteSource.slice,
      ByteSource.bytearray, bind, Except.bind]
    cases structUnpack ctype.format _ <;> rfl
  | unknown => rfl

/-- A loop whose body reads one block of slots reads the blocks in a row. -/
theorem repeatRead_blocks {body : Nat → Result (PyVal × Nat)} (block : List Slot) (data : Bytes)
    (pack : List PyVal → PyVal)
    (step : ∀ index, body index = (do
      let leaves ← readAll readSlot Slot.width block (data.drop index)
      return (pack leaves, index + extent Slot.width block)))
    (size index : Nat) :
    repeatRead body size index = (do
      let leaves ← readAll readSlot Slot.width (List.replicate size block).flatten (data.drop index)
      return ((groups block.length size leaves).map pack, index + size * extent Slot.width block)) := by
  induction size generalizing index with
  | zero => simp [repeatRead, groups, bind, Except.bind, pure, Except.pure]
  | succ size ih =>
    rw [repeatRead, step, List.replicate_succ, List.flatten_cons, readAll_append]
    simp only [bind, Except.bind]
    cases first : readAll readSlot Slot.width block (data.drop index) with
    | error e => rfl
    | ok head =>
      dsimp only [pure, Except.pure]
      rw [ih, List.drop_drop]
      simp only [bind, Except.bind]
      cases readAll readSlot Slot.width (List.replicate size block).flatten
          (data.drop (index + extent Slot.width block)) with
      | error e => rfl
      | ok tail =>
        have length := length_readAll first
        simp only [pure, Except.pure, groups, ← length, List.take_left, List.drop_left,
          List.map_cons, Nat.succ_mul]
        congr 2
        omega

private theorem map_headD_groups (values : List PyVal) :
    (groups 1 values.length values).map (fun leaves => leaves.headD .none) = values := by
  induction values with
  | nil => rfl
  | cons value values ih => simpa [groups] using ih

theorem flatten_replicate_singleton (n : Nat) (slot : σ) :
    (List.replicate n [slot]).flatten = List.replicate n slot := by
  induction n with
  | zero => rfl
  | succ n ih => simp [List.replicate_succ, ih]

/-- The decoding walk reads the slots of the layout and puts their values
behind the fields decoded so far. -/
theorem readFields_leaves (sized : sizeOfStructure structureDef = .ok n) (values : Entries) (data : Bytes)
    (index : Nat) :
    readFields structureDef (.bytes data) index values = (do
      let leaves ← readAll readSlot Slot.width structureDef.layout (data.drop index)
      return (structureDef.assembleInto values leaves, index + n)) := by
  induction structureDef generalizing n values data index with
  | nil =>
    cases sized
    simp [readFields, layout, assembleInto, bind, Except.bind, pure, Except.pure]
  | item var plcDatatype size strLen rest ih =>
    obtain ⟨bytes, after, element, tail, rfl⟩ := both_eq_ok.mp sized
    have loop := repeatRead_blocks [slotOf plcDatatype strLen] data (fun leaves => leaves.headD .none)
      (fun index => by simpa using readElement_bytes data plcDatatype strLen index) size index
    rw [flatten_replicate_singleton] at loop
    rw [readFields, loop, layout, readAll_append, extent_replicate]
    simp only [bind, Except.bind]
    cases first : readAll readSlot Slot.width (List.replicate size (slotOf plcDatatype strLen))
        (data.drop index) with
    | error e => rfl
    | ok head =>
      have length : head.length = size := by simpa using length_readAll first
      have same : (groups 1 size head).map (fun leaves => leaves.headD .none) = head := by
        rw [← length]
        exact map_headD_groups head
      simp only [pure, Except.pure, List.length_singleton, extent_cons, extent_nil, Nat.add_zero, same]
      rw [ih tail, List.drop_drop, ← elementSize_eq element]
      simp only [bind, Except.bind]
      cases readAll readSlot Slot.width rest.layout (data.drop (index + size * bytes)) with
      | error e => rfl
      | ok leaves =>
        have cut : (head ++ leaves).take size = head ∧ (head ++ leaves).drop size = leaves := by
          constructor <;> simp [← length]
        simp only [pure, Except.pure, assembleInto, cut, Nat.mul_comm bytes size, Nat.add_assoc]
  | nested var plcDatatype size rest ihNested ih =>
    obtain ⟨bytes, after, inner, tail, rfl⟩ := both_eq_ok.mp sized
    have total := sizeOfStructure_eq inner
    rw [readFields, repeatRead_blocks plcDatatype.layout data fun leaves => .dict (plcDatatype.assembleInto [] leaves)]
    case step =>
      intro index
      simp only [inner, bind, Except.bind, ByteSource.slice]
      rw [ihNested inner, List.drop_zero, readAll_take _ _ _ _ _ (by omega), ← total]
      simp only [bind, Except.bind]
      cases readAll readSlot Slot.width plcDatatype.layout (data.drop index) <;> rfl
    rw [layout, readAll_append, extent_flatten_replicate, ← total]
    simp only [bind, Except.bind]
    cases first : readAll readSlot Slot.width (List.replicate size plcDatatype.layout).flatten
        (data.drop index) with
    | error e => rfl
    | ok head =>
      have length : head.length = size * plcDatatype.layout.length := by
        simpa [List.length_flatten] using length_readAll first
      dsimp only [pure, Except.pure]
      rw [ih tail, List.drop_drop]
      simp only [bind, Except.bind]
      cases readAll readSlot Slot.width rest.layout (data.drop (index + size * bytes)) with
      | error e => rfl
      | ok leaves =>
        have inside := groups_append length leaves
        have behind : (head ++ leaves).drop (size * plcDatatype.layout.length) = leaves := by
          rw [← length, List.drop_left]
        simp only [pure, Except.pure, assembleInto, inside, behind, Nat.mul_comm bytes size, Nat.add_assoc]

/-- A decoded field clashes with none of the fields after it. -/
private theorem fresh_behind {values : Entries} {rest : StructureDef} (absent : var ∉ rest.names)
    (fresh : ∀ other ∈ var :: rest.names, other ∉ values.map Prod.fst) (value : PyVal) :
    ∀ other ∈ rest.names, other ∉ (values ++ [(var, value)]).map Prod.fst := by
  intro other member held
  simp only [List.map_append, List.map_cons, List.map_nil, List.mem_append, List.mem_singleton] at held
  rcases held with held | rfl
  · exact fresh other (List.mem_cons_of_mem _ member) held
  · exact absent member

/-- With distinct names the fields stand behind the entries before them. -/
theorem assembleInto_eq {structureDef : StructureDef} (distinct : structureDef.DistinctNames) (values : Entries)
    (fresh : ∀ var ∈ structureDef.names, var ∉ values.map Prod.fst) (leaves : List PyVal) :
    structureDef.assembleInto values leaves = values ++ structureDef.assemble leaves := by
  induction structureDef generalizing values leaves with
  | nil => simp [assembleInto, assemble]
  | item var plcDatatype size strLen rest ih =>
    rw [assembleInto, OrderedDict.setItem_of_not_mem (fresh var (by simp [names])),
      ih distinct.2 _ (fresh_behind distinct.1 fresh _), assemble, List.append_assoc, List.singleton_append]
  | nested var plcDatatype size rest ihNested ih =>
    have inner : plcDatatype.assembleInto [] = plcDatatype.assemble :=
      funext fun group => ihNested distinct.1 [] (by simp) group
    rw [assembleInto, inner, OrderedDict.setItem_of_not_mem (fresh var (by simp [names])),
      ih distinct.2.2 _ (fresh_behind distinct.2.1 fresh _), assemble, List.append_assoc, List.singleton_append]

/-- With distinct names, the decoding walk assembles the slots of the layout
behind the fields decoded so far. -/
theorem readFields_layout (sized : sizeOfStructure structureDef = .ok n)
    (distinct : structureDef.DistinctNames) (values : Entries)
    (fresh : ∀ var ∈ structureDef.names, var ∉ values.map Prod.fst) (data : Bytes) (index : Nat) :
    readFields structureDef (.bytes data) index values = (do
      let leaves ← readAll readSlot Slot.width structureDef.layout (data.drop index)
      return (values ++ structureDef.assemble leaves, index + n)) := by
  rw [readFields_leaves sized]
  simp only [assembleInto_eq distinct values fresh]

/-- Decoding an array of structures reads the layout once per structure. -/
theorem dictFromBytes_layout (sized : sizeOfStructure structureDef = .ok n)
    (distinct : structureDef.DistinctNames) (data : Bytes) (arraySize : Nat) :
    dictFromBytes (.bytes data) structureDef arraySize = (do
      let leaves ← readAll readSlot Slot.width (List.replicate arraySize structureDef.layout).flatten data
      return unwrapSingle arraySize ((groups structureDef.layout.length arraySize leaves).map
        fun group => .dict (structureDef.assemble group))) := by
  have total := sizeOfStructure_eq sized
  rw [dictFromBytes, repeatRead_blocks structureDef.layout data fun leaves =>
    .dict (structureDef.assemble leaves)]
  case step =>
    intro index
    rw [readFields_layout sized distinct [] (by simp), ← total]
    simp only [bind, Except.bind]
    cases readAll readSlot Slot.width structureDef.layout (data.drop index) <;> rfl
  rw [List.drop_zero]
  simp only [bind, Except.bind]
  cases readAll readSlot Slot.width (List.replicate arraySize structureDef.layout).flatten data <;> rfl

theorem dictFromBytes_single (sized : sizeOfStructure structureDef = .ok size)
    (distinct : structureDef.DistinctNames) : dictFromBytes (.bytes data) structureDef 1 = .ok value ↔
      ∃ leaves, readAll readSlot Slot.width structureDef.layout data = .ok leaves ∧
        .dict (structureDef.assemble leaves) = value := by
  rw [dictFromBytes_layout sized distinct, bind_eq_ok, List.replicate_one, List.flatten_singleton]
  refine exists_congr fun leaves => and_congr_right fun read => ?_
  rw [groups, List.take_of_length_le (length_readAll read).le]
  simp [groups, unwrapSingle, pure, Except.pure]

end PyAds
