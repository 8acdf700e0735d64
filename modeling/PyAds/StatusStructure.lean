import PyAds.FunctionBlock
import PyAds.HandlerClient
import PyAds.ReadAgreement
import PyAds.StructureArrayWrites

/-! The status of a step chain as a structure. A client waits for the status
with a sum read of its fields; it can also read the fields under their names, or
the whole structure at once with the definition that the object makes of its
configuration. -/
namespace PyAds
open SlotSequence Fallible

namespace StepChainObject

/-! ## Fields -/

/-- The type of a flag, by the value that is expected of it. -/
def flagType : PyVal → PlcType
  | .bool _ => .simple .bool
  | _ => .simple .int32

/-- The assignments to `field_types`; the names join `order` in the same order. -/
def statusFields (obj : StepChainObject) : List (String × PlcType) :=
  [(some obj.cfg.requestIdField, .simple .uint32), (obj.cfg.busyField.bind nonEmpty, .simple .bool),
    (some obj.cfg.doneField, flagType obj.cfg.doneValue), (some obj.cfg.errorField, flagType obj.cfg.errorValue),
    (nonEmpty obj.cfg.errorCodeField, .simple .int32), (obj.cfg.stepField.bind nonEmpty, .simple .uint32),
    (obj.cfg.stepNameField.bind nonEmpty, .string)].filterMap fun field => field.1.map (·, field.2)

def fieldTypes (obj : StepChainObject) : OrderedDict String PlcType := OrderedDict.empty.setAll obj.statusFields

/-- `unique_order` -/
def uniqueOrder (obj : StepChainObject) : List String := (obj.statusFields.map Prod.fst).foldl OrderedDict.addKey []

/-- One of the `structure_items`: a name, a type and a string length, which is
positive in a configuration of an interface. -/
def structureItem (obj : StepChainObject) (fieldName : String) : Result (String × PlcType × Option Nat) :=
  match obj.fieldTypes.get? fieldName with
  | none => .error (.keyError fieldName)
  | some plcType =>
    .ok (fieldName, plcType,
      if some fieldName = obj.cfg.stepNameField then some obj.cfg.stepNameLength.toNat else none)

/-- A definition of single items. -/
def definitionOf : List (String × PlcType × Option Nat) → StructureDef
  | [] => .nil
  | (fieldName, plcType, strLen) :: structureItems => .item fieldName plcType 1 strLen (definitionOf structureItems)

/-- `get_status_structure_def` -/
def getStatusStructureDef (obj : StepChainObject) : Result StructureDef := do
  let structureItems ← obj.uniqueOrder.mapM obj.structureItem
  return definitionOf structureItems

/-- `_status_field_symbol_map` -/
def statusFieldSymbolMap (obj : StepChainObject) : OrderedDict String String :=
  OrderedDict.empty.setAll (([some obj.cfg.requestIdField, some obj.cfg.doneField, some obj.cfg.errorField,
    obj.cfg.busyField.bind nonEmpty, nonEmpty obj.cfg.errorCodeField, obj.cfg.stepField.bind nonEmpty,
    obj.cfg.stepNameField.bind nonEmpty].filterMap id).map fun fieldName => (fieldName, obj.fieldSymbol fieldName))

/-- `values[symbol_name]` for one of the fields. -/
def statusField (values : OrderedDict String PyVal) (field : String × String) : Result (String × PyVal) :=
  match values.get? field.2 with
  | some value => .ok (field.1, value)
  | none => .error (.keyError field.2)

/-- `_read_status_fields`, with the sum read that it awaits. -/
def readStatusFields (sumRead : List String → Result (OrderedDict String PyVal)) (obj : StepChainObject) :
    Result (OrderedDict String PyVal) := do
  let values ← sumRead (obj.statusFieldSymbolMap.entries.map Prod.snd)
  let fields ← obj.statusFieldSymbolMap.entries.mapM (statusField values)
  return OrderedDict.empty.setAll fields

end StepChainObject

/-- `read_structure_by_name` without a given size and handle. -/
def NamePlc.readStructureByName (plc : NamePlc) (dataName : String) (structureDef : StructureDef) (arraySize : Nat) :
    Result PyVal := do
  let structureSize ← sizeOfStructure (structureDef.times arraySize)
  match ← adsSyncReadByNameEx plc dataName (some (.ctypes (.array (.simple .ubyte) structureSize))) with
  | .value values => do
    let byteList ← byteSource values
    dictFromBytes byteList structureDef arraySize
  | .rows .. => throw .typeError

/-! ## One set of fields -/

namespace StepChainObject
variable {obj : StepChainObject}

theorem mem_uniqueOrder : name ∈ obj.uniqueOrder ↔ name ∈ obj.statusFields.map Prod.fst := by
  simp [uniqueOrder, OrderedDict.mem_foldl_addKey]

theorem nodup_uniqueOrder : obj.uniqueOrder.Nodup := by
  have keys := OrderedDict.keys_setAll OrderedDict.empty obj.statusFields
  rw [OrderedDict.keys_empty] at keys
  rw [uniqueOrder, ← keys]
  exact (OrderedDict.empty.setAll obj.statusFields).nodup

/-- The fields that are read under their names are those of the structure. -/
theorem mem_keys_statusFieldSymbolMap : name ∈ obj.statusFieldSymbolMap.keys ↔ name ∈ obj.uniqueOrder := by
  rw [mem_uniqueOrder]
  simp only [statusFieldSymbolMap, OrderedDict.mem_keys_setAll, statusFields]
  cases obj.cfg.busyField.bind nonEmpty <;> cases nonEmpty obj.cfg.errorCodeField <;>
    cases obj.cfg.stepField.bind nonEmpty <;> cases obj.cfg.stepNameField.bind nonEmpty <;> simp <;> tauto

/-- Each field is read from the symbol below the status that has its name. -/
theorem entries_statusFieldSymbolMap : obj.statusFieldSymbolMap.entries =
    obj.statusFieldSymbolMap.keys.map fun fieldName => (fieldName, obj.fieldSymbol fieldName) := by
  have own : ∀ entry ∈ obj.statusFieldSymbolMap.entries, entry = (entry.1, obj.fieldSymbol entry.1) := by
    rintro ⟨fieldName, symbol⟩ member
    have held := OrderedDict.get?_of_mem member
    simp only [statusFieldSymbolMap, OrderedDict.get?_setAll, ← List.map_reverse] at held
    cases found : OrderedDict.lookup fieldName _ with
    | none =>
      rw [found] at held
      cases held
    | some other =>
      rw [found] at held
      cases held
      obtain ⟨name, -, same⟩ := List.mem_map.mp (OrderedDict.mem_of_lookup found)
      cases same
      rfl
  rw [OrderedDict.keys, List.map_map]
  exact (List.map_id _).symm.trans (List.map_congr_left own)

theorem map_snd_statusFieldSymbolMap : obj.statusFieldSymbolMap.entries.map Prod.snd =
    obj.statusFieldSymbolMap.keys.map obj.fieldSymbol := by
  rw [entries_statusFieldSymbolMap, List.map_map]
  rfl

theorem mem_foldl_joinSymbol_iff {joined : List (Option String)} {symbols : List String} :
    symbol ∈ joined.foldl joinSymbol symbols ↔ symbol ∈ symbols ∨ some symbol ∈ joined := by
  induction joined generalizing symbols with
  | nil => simp
  | cons first rest ih =>
    rw [List.foldl_cons, ih, List.mem_cons]
    cases first with
    | none => simp [joinSymbol]
    | some other => simp [joinSymbol, OrderedDict.mem_addKey, or_assoc]

/-- Waiting reads the same symbols as reading the fields. -/
theorem mem_statusSymbolsForRead : symbol ∈ obj.statusSymbolsForRead ↔
    ∃ name ∈ obj.uniqueOrder, obj.fieldSymbol name = symbol := by
  simp only [statusSymbolsForRead, mem_foldl_joinSymbol_iff, mem_uniqueOrder, statusFields, statusSymbols]
  cases obj.cfg.busyField.bind nonEmpty <;> cases nonEmpty obj.cfg.errorCodeField <;>
    cases obj.cfg.stepField.bind nonEmpty <;> cases obj.cfg.stepNameField.bind nonEmpty <;> simp [eq_comm] <;> tauto

/-! ## Reading the fields -/

/-- The value that a sum read has found for a field. -/
def valueOfField (obj : StepChainObject) (values : OrderedDict String PyVal) (fieldName : String) : Result PyVal :=
  match values.get? (obj.fieldSymbol fieldName) with
  | some value => .ok value
  | none => .error (.keyError (obj.fieldSymbol fieldName))

theorem valueOfField_eq_ok {values : OrderedDict String PyVal} :
    obj.valueOfField values fieldName = .ok value ↔ values.get? (obj.fieldSymbol fieldName) = some value := by
  unfold valueOfField
  cases values.get? (obj.fieldSymbol fieldName) <;> simp

theorem mapM_statusField {names : List String} {values : OrderedDict String PyVal} :
    (names.map fun fieldName => (fieldName, obj.fieldSymbol fieldName)).mapM (statusField values) = .ok fields ↔
      ∃ read, names.mapM (obj.valueOfField values) = .ok read ∧ names.zip read = fields := by
  induction names generalizing fields with
  | nil => simp [pure, Except.pure]
  | cons name names ih =>
    rw [List.map_cons, List.mapM_cons, List.mapM_cons, bind_eq_ok]
    simp only [bind_eq_ok, ih, statusField, valueOfField]
    cases values.get? (obj.fieldSymbol name) with
    | none => simp
    | some value =>
      simp only [Except.ok.injEq, exists_eq_left', pure, Except.pure]
      constructor
      · rintro ⟨_, ⟨read, found, rfl⟩, rfl⟩
        exact ⟨value :: read, ⟨read, found, rfl⟩, rfl⟩
      · rintro ⟨_, ⟨read, found, rfl⟩, rfl⟩
        exact ⟨_, ⟨read, found, rfl⟩, rfl⟩

/-- Where the sum read has a result for each symbol, each field gets that of its
own one. -/
theorem readStatusFields_eq_ok {sumRead : List String → Result (OrderedDict String PyVal)} {f : String → Result PyVal}
    (each : ∀ result, sumRead (obj.statusFieldSymbolMap.keys.map obj.fieldSymbol) = .ok result ↔
      dictOf f (obj.statusFieldSymbolMap.keys.map obj.fieldSymbol) = .ok result) :
    obj.readStatusFields sumRead = .ok values ↔
      dictOf (fun fieldName => f (obj.fieldSymbol fieldName)) obj.statusFieldSymbolMap.keys = .ok values := by
  have twice : obj.readStatusFields sumRead = .ok values ↔
      ∃ result, dictOf f (obj.statusFieldSymbolMap.keys.map obj.fieldSymbol) = .ok result ∧
        dictOf (obj.valueOfField result) obj.statusFieldSymbolMap.keys = .ok values := by
    rw [readStatusFields, map_snd_statusFieldSymbolMap, entries_statusFieldSymbolMap, bind_eq_ok]
    refine exists_congr fun result => and_congr (each result) ?_
    simp only [dictOf, bind_eq_ok, mapM_statusField, pure, Except.pure]
    constructor
    · rintro ⟨_, ⟨read, found, rfl⟩, same⟩
      exact ⟨read, found, same⟩
    · rintro ⟨read, found, same⟩
      exact ⟨_, ⟨read, found, rfl⟩, same⟩
  rw [twice, dictOf_eq_ok]
  constructor
  · rintro ⟨result, read, built⟩
    obtain ⟨keys, own⟩ := dictOf_eq_ok.mp built
    refine ⟨keys, fun fieldName member => ?_⟩
    obtain ⟨value, held, there⟩ := own fieldName member
    obtain ⟨other, given, same⟩ := (dictOf_eq_ok.mp read).2 _ (List.mem_map_of_mem member)
    cases same.symm.trans (valueOfField_eq_ok.mp held)
    exact ⟨value, given, there⟩
  · rintro ⟨keys, own⟩
    obtain ⟨result, read⟩ := exists_dictOf_iff.mpr (show ∀ symbol ∈ obj.statusFieldSymbolMap.keys.map obj.fieldSymbol,
        ∃ value, f symbol = .ok value by
      intro symbol member
      obtain ⟨fieldName, inside, rfl⟩ := List.mem_map.mp member
      obtain ⟨value, given, -⟩ := own fieldName inside
      exact ⟨value, given⟩)
    refine ⟨result, read, dictOf_eq_ok.mpr ⟨keys, fun fieldName member => ?_⟩⟩
    obtain ⟨value, given, there⟩ := own fieldName member
    obtain ⟨other, again, same⟩ := (dictOf_eq_ok.mp read).2 _ (List.mem_map_of_mem member)
    cases given.symm.trans again
    exact ⟨value, valueOfField_eq_ok.mpr same, there⟩

/-! ## The definition -/

section Definition
variable {structureItems : List (String × PlcType × Option Nat)}

@[simp] theorem names_definitionOf : (definitionOf structureItems).names = structureItems.map Prod.fst := by
  induction structureItems with
  | nil => rfl
  | cons item structureItems ih => simp [definitionOf, StructureDef.names, ih]

@[simp] theorem layout_definitionOf : (definitionOf structureItems).layout =
    structureItems.map fun item => StructureDef.slotOf item.2.1 item.2.2 := by
  induction structureItems with
  | nil => rfl
  | cons item structureItems ih => simp [definitionOf, StructureDef.layout, ih]

theorem distinctNames_definitionOf (distinct : (structureItems.map Prod.fst).Nodup) :
    (definitionOf structureItems).DistinctNames := by
  induction structureItems with
  | nil => trivial
  | cons item structureItems ih =>
    obtain ⟨fresh, later⟩ := List.nodup_cons.mp distinct
    exact ⟨by rwa [names_definitionOf], ih later⟩

theorem assemble_definitionOf {leaves : List PyVal} (length : leaves.length = structureItems.length) :
    (definitionOf structureItems).assemble leaves = (structureItems.map Prod.fst).zip leaves := by
  induction structureItems generalizing leaves with
  | nil => rfl
  | cons item structureItems ih =>
    cases leaves with
    | nil => cases length
    | cons leaf leaves =>
      have rest : leaves.length = structureItems.length := by simpa using length
      simp [definitionOf, StructureDef.assemble, unwrapSingle, ih rest]

end Definition

/-- Each name in the order has one of the assigned types. -/
theorem exists_fieldType (member : name ∈ obj.uniqueOrder) :
    ∃ plcType, obj.fieldTypes.get? name = some plcType ∧ (name, plcType) ∈ obj.statusFields := by
  cases found : obj.fieldTypes.get? name with
  | none =>
    rw [OrderedDict.get?_eq_none_iff, fieldTypes, OrderedDict.mem_keys_setAll] at found
    exact absurd (.inr (mem_uniqueOrder.mp member)) found
  | some plcType =>
    refine ⟨plcType, rfl, ?_⟩
    rw [fieldTypes, OrderedDict.get?_setAll] at found
    cases held : OrderedDict.lookup name obj.statusFields.reverse with
    | none =>
      rw [held] at found
      cases found
    | some other =>
      rw [held] at found
      cases found
      exact List.mem_reverse.mp (OrderedDict.mem_of_lookup held)

theorem known_of_statusFields (member : (name, plcType) ∈ obj.statusFields) : plcType ≠ .unknown := by
  have flag (expected : PyVal) : flagType expected ≠ .unknown := by cases expected <;> simp [flagType]
  simp only [statusFields, List.mem_filterMap, Option.map_eq_some_iff] at member
  obtain ⟨field, listed, own, -, same⟩ := member
  obtain ⟨rfl, rfl⟩ := Prod.mk.inj same
  simp only [List.mem_cons, List.not_mem_nil, or_false] at listed
  rcases listed with rfl | rfl | rfl | rfl | rfl | rfl | rfl
  all_goals first | exact flag _ | simp

/-- The definition can always be made. Its items are the fields, once each. -/
theorem exists_definition (obj : StepChainObject) : ∃ structureItems,
    obj.getStatusStructureDef = .ok (definitionOf structureItems) ∧ structureItems.map Prod.fst = obj.uniqueOrder ∧
      ∀ item ∈ structureItems, item.2.1 ≠ .unknown := by
  obtain ⟨structureItems, made⟩ := exists_mapM_eq_ok.mpr (show ∀ name ∈ obj.uniqueOrder,
      ∃ item, obj.structureItem name = .ok item by
    intro name member
    obtain ⟨plcType, found, -⟩ := exists_fieldType member
    exact ⟨_, by rw [structureItem, found]⟩)
  refine ⟨structureItems, bind_eq_ok.mpr ⟨structureItems, made, rfl⟩, ?_⟩
  have each : List.Forall₂ (fun name (item : String × PlcType × Option Nat) => item.1 = name ∧
      (name ∈ obj.uniqueOrder → item.2.1 ≠ .unknown)) obj.uniqueOrder structureItems := by
    refine (mapM_eq_ok.mp made).imp ?_
    intro name item same
    unfold structureItem at same
    cases found : obj.fieldTypes.get? name with
    | none =>
      rw [found] at same
      cases same
    | some plcType =>
      rw [found] at same
      cases same
      refine ⟨rfl, fun member => ?_⟩
      obtain ⟨other, again, assigned⟩ := exists_fieldType member
      cases found.symm.trans again
      exact known_of_statusFields assigned
  constructor
  · have firsts := List.forall₂_map_right_iff.mpr (each.imp fun _ _ both => both.1.symm)
    exact (List.forall₂_eq_eq_eq ▸ firsts : obj.uniqueOrder = _).symm
  · intro item member
    obtain ⟨i, inside, rfl⟩ := List.getElem_of_mem member
    have there := each.length_eq ▸ inside
    have own := List.forall₂_iff_get.mp each |>.2 i there inside
    exact own.2 (List.getElem_mem there)

end StepChainObject

/-! ## Slots and symbols -/

/-- The symbol of a field has the type and the size of its slot. -/
def DescribesSlot (symbol : SAdsSymbolEntry) (slot : Slot) : Prop :=
  symbol.size.toNat = slot.width ∧
    match slot.plcDatatype with
    | .simple ctype => itemKind false symbol = .ok (.scalar ctype)
    | .string => itemKind false symbol = .ok (.text .utf8)
    | .wstring | .unknown => False

theorem take_findIdx_zero {data : Bytes} (found : data.findIdx? (· == 0) = some index) :
    data.take index = beforeZero data := by
  induction data generalizing index with
  | nil => cases found
  | cons byte data ih =>
    by_cases zero : byte = 0
    · simp only [List.findIdx?_cons, zero, beq_self_eq_true, ↓reduceIte, Option.some.injEq] at found
      subst found
      simp [beforeZero, zero]
    · simp only [List.findIdx?_cons, zero, beq_iff_eq, ↓reduceIte, Option.map_eq_some_iff] at found
      obtain ⟨later, behind, rfl⟩ := found
      have rest := ih behind
      simp [beforeZero, zero] at rest ⊢
      exact rest

/-- A field is read from its symbol as it is read from its slot. -/
theorem readItem_slot {slot : Slot} (describes : DescribesSlot symbol slot) {data : Bytes}
    (length : data.length = slot.width) (terminated : slot.plcDatatype = .string → 0 ∈ data) :
    readItem false symbol data 0 = .ok value ↔ readSlot slot data = .ok value := by
  obtain ⟨size, kind⟩ := describes
  obtain ⟨plcDatatype, strLen⟩ := slot
  cases plcDatatype with
  | simple ctype =>
    have scalar : itemKind false symbol = .ok (.scalar ctype) := kind
    have width : ctype.format.size = data.length := by rw [CType.size_format, length]; rfl
    simp only [readItem, scalar, bind, Except.bind, structUnpackFrom, Nat.zero_add, List.drop_zero, width, Nat.le_refl,
      ↓reduceIte, List.take_length, readSlot, structUnpack]
  | string =>
    obtain ⟨index, found⟩ : ∃ index, data.findIdx? (· == 0) = some index := by
      rw [← Option.isSome_iff_exists, List.findIdx?_isSome, List.any_eq_true]
      exact ⟨0, terminated rfl, rfl⟩
    have text : itemKind false symbol = .ok (.text .utf8) := kind
    have whole : data.take symbol.size.toNat = data := List.take_of_length_le (by rw [size, length])
    simp only [readItem, text, bind, Except.bind, readText, Nat.zero_add, List.drop_zero, whole, TextCoding.nullIdx,
      found, TextCoding.decode, take_findIdx_zero found, readSlot]
    cases decodeUtf8 (beforeZero data) <;> rfl
  | wstring => exact kind.elim
  | unknown => exact kind.elim

/-! ## Both reads -/

/-- A PLC keeps the status in one block, in the order of the definition and
without gaps. Its handle gives the block and the symbol of each field its piece;
texts are terminated. -/
structure ServesStatus (plc : NamePlc) (memory : DeviceMemory) (obj : StepChainObject) (structureDef : StructureDef)
    (block : Bytes) : Prop where
  size : sizeOfStructure structureDef = .ok block.length
  whole : ∃ handle, plc.adsGetHandle obj.statusSymbol = .ok handle ∧
    (∀ length, plc.adsSyncRead handle length = .ok (block.take length)) ∧ plc.adsReleaseHandle handle = .ok ()
  listed : ∀ call, plc.sumRead call = memory.reply
  field : ∀ name slot piece, (name, slot, piece) ∈ structureDef.names.zip (cut Slot.width structureDef.layout block) →
    (slot.plcDatatype = .string → 0 ∈ piece) ∧ ∃ symbol, plc.adsGetSymbolInfo (obj.fieldSymbol name) = .ok symbol ∧
      DescribesSlot symbol slot ∧ memory.read symbol.request = ⟨0, piece⟩

/-- Structures are decoded from the bytes behind their handle. -/
theorem readStructureByName_block {plc : NamePlc} {block : Bytes}
    (size : sizeOfStructure (structureDef.times arraySize) = .ok block.length)
    (got : plc.adsGetHandle dataName = .ok handle) (read : plc.adsSyncRead handle block.length = .ok block)
    (released : plc.adsReleaseHandle handle = .ok ()) :
    plc.readStructureByName dataName structureDef arraySize = dictFromBytes (.bytes block) structureDef arraySize := by
  have bytes : adsSyncReadByNameEx plc dataName (some (.ctypes (.array (.simple .ubyte) block.length))) =
      .ok (.value (.ofBytes block)) := by
    have all := adsSyncReadReqEx2_ubytes read
    simp only [adsSyncReadByNameEx, got, all, released, bind, Except.bind, pure, Except.pure]
  have source : byteSource (.ofBytes block) = .ok (.bytes block) :=
    bind_eq_ok.mpr ⟨block, assignable_ofBytes block, rfl⟩
  simp only [NamePlc.readStructureByName, size, bytes, source, bind, Except.bind]

/-- The structure is decoded from its block. -/
theorem readStructureByName_served (serves : ServesStatus plc memory obj structureDef block) :
    plc.readStructureByName obj.statusSymbol structureDef 1 = dictFromBytes (.bytes block) structureDef 1 := by
  have once : sizeOfStructure (structureDef.times 1) = .ok block.length :=
    sizeOfStructure_append.mpr ⟨_, 0, serves.size, rfl, rfl⟩
  obtain ⟨handle, got, read, released⟩ := serves.whole
  exact readStructureByName_block once got ((read block.length).trans (congrArg Except.ok List.take_length)) released

namespace StepChainObject
variable {obj : StepChainObject} {plc : NamePlc} {memory : DeviceMemory} {block : Bytes}

theorem forall₂_iff_of_zip {P : α → γ → Prop} {Q : β → γ → Prop} {names : List α} {pieces : List β}
    {values : List γ} (length : names.length = pieces.length)
    (own : ∀ pair ∈ names.zip pieces, ∀ value, P pair.1 value ↔ Q pair.2 value) :
    List.Forall₂ P names values ↔ List.Forall₂ Q pieces values := by
  induction names generalizing pieces values with
  | nil =>
    cases List.eq_nil_of_length_eq_zero length.symm
    simp
  | cons name names ih =>
    cases pieces with
    | nil => cases length
    | cons piece pieces =>
      rw [List.zip_cons_cons, List.forall_mem_cons] at own
      cases values with
      | nil => simp
      | cons value values =>
        rw [List.forall₂_cons, List.forall₂_cons, own.1, ih (by simpa using length) own.2]

/-- The structure has the values that its fields have one by one. -/
theorem readStructureByName_eq_ok {structureItems : List (String × PlcType × Option Nat)}
    (distinct : (structureItems.map Prod.fst).Nodup)
    (serves : ServesStatus plc memory obj (definitionOf structureItems) block) {read : String → Result PyVal}
    (own : ∀ name slot piece, (name, slot, piece) ∈ (structureItems.map Prod.fst).zip
      (cut Slot.width (definitionOf structureItems).layout block) →
        ∀ value, read name = .ok value ↔ readSlot slot piece = .ok value) :
    plc.readStructureByName obj.statusSymbol (definitionOf structureItems) 1 = .ok value ↔
      ∃ values, dictOf read (structureItems.map Prod.fst) = .ok values ∧ .dict values.entries = value := by
  have pieces : (cut Slot.width (definitionOf structureItems).layout block).length = structureItems.length := by
    have slots := congrArg List.length (map_fst_cut Slot.width (definitionOf structureItems).layout block)
    simpa using slots
  have same (leaves : List PyVal) :
      readAll readSlot Slot.width (definitionOf structureItems).layout block = .ok leaves ↔
      (structureItems.map Prod.fst).mapM read = .ok leaves := by
    rw [readAll_eq_ok_iff_cut, mapM_eq_ok]
    exact (forall₂_iff_of_zip (by simpa using pieces.symm) fun pair member => own _ _ _ member).symm
  rw [readStructureByName_served serves, dictFromBytes_single serves.size (distinctNames_definitionOf distinct)]
  simp only [same, dictOf, bind_eq_ok, pure, Except.pure, Except.ok.injEq]
  constructor
  · rintro ⟨leaves, all, rfl⟩
    have length := (mapM_eq_ok.mp all).length_eq
    refine ⟨_, ⟨leaves, all, rfl⟩, ?_⟩
    rw [assemble_definitionOf (by simpa using length.symm), OrderedDict.entries_setAll_of_nodup]
    · rfl
    · rw [List.map_fst_zip (by simpa using length.le)]
      simpa using distinct
  · rintro ⟨_, ⟨leaves, all, rfl⟩, rfl⟩
    have length := (mapM_eq_ok.mp all).length_eq
    refine ⟨leaves, all, ?_⟩
    rw [assemble_definitionOf (by simpa using length.symm), OrderedDict.entries_setAll_of_nodup]
    · rfl
    · rw [List.map_fst_zip (by simpa using length.le)]
      simpa using distinct

end StepChainObject

theorem exists_mem_zip {names : List α} {pieces : List β} (length : names.length = pieces.length)
    (member : name ∈ names) : ∃ piece, (name, piece) ∈ names.zip pieces := by
  rw [← List.map_fst_zip length.le, List.mem_map] at member
  obtain ⟨⟨_, piece⟩, inside, rfl⟩ := member
  exact ⟨piece, inside⟩

theorem DescribesSlot.holds (describes : DescribesSlot symbol slot) : HoldsElement false symbol := by
  obtain ⟨size, kind⟩ := describes
  obtain ⟨plcDatatype, strLen⟩ := slot
  intro ctype scalar
  cases plcDatatype with
  | simple other =>
    cases scalar.symm.trans (kind : _ = Except.ok (ItemKind.scalar other))
    exact size.ge
  | string => cases scalar.symm.trans (kind : _ = Except.ok (ItemKind.text .utf8))
  | wstring => exact kind.elim
  | unknown => exact kind.elim

section Served
variable {plc : NamePlc} {memory : DeviceMemory} {obj : StepChainObject} {structureDef : StructureDef} {block : Bytes}

/-- The symbol of a field is read as its slot is. -/
theorem ServesStatus.resultOf (serves : ServesStatus plc memory obj structureDef block)
    (member : (name, slot, piece) ∈ structureDef.names.zip (cut Slot.width structureDef.layout block))
    (width : piece.length = slot.width) {dataSymbols : DataSymbols} {symbol : SAdsSymbolEntry}
    (known : dataSymbols.get? (obj.fieldSymbol name) = some symbol)
    (asked : plc.adsGetSymbolInfo (obj.fieldSymbol name) = .ok symbol) :
    memory.resultOf dataSymbols OrderedDict.empty (obj.fieldSymbol name) = .ok value ↔
      readSlot slot piece = .ok value := by
  obtain ⟨terminated, other, info, describes, held⟩ := serves.field name slot piece member
  cases asked.symm.trans info
  have direct : memory.resultOf dataSymbols OrderedDict.empty (obj.fieldSymbol name) =
      readItem false symbol piece 0 := by
    simp only [DeviceMemory.resultOf, DeviceMemory.entryOf, symbolOf_eq_ok.mpr known, held, bind, Except.bind, itemResult,
      ne_eq, not_true_eq_false, ↓reduceIte, OrderedDict.keys_empty, List.not_mem_nil, decide_false]
    cases readItem false symbol piece 0 <;> rfl
  rw [direct]
  exact readItem_slot describes width terminated

end Served

/-- Two exceptions, or the same fields. -/
def SameFields : Result (OrderedDict String PyVal) → Result PyVal → Prop
  | .ok fields, .ok (.dict entries) => ∀ name, fields.get? name = OrderedDict.lookup name entries
  | .error _, .error _ => True
  | _, _ => False

/-- Dictionaries of the same results have the same entries in any order of the
names. -/
theorem sameFields_of_dictOf {f : String → Result PyVal} {keys names : List String}
    {fields : Result (OrderedDict String PyVal)}
    {value : Result PyVal} (same : ∀ name, name ∈ keys ↔ name ∈ names)
    (first : ∀ values, fields = .ok values ↔ dictOf f keys = .ok values)
    (second : ∀ result, value = .ok result ↔ ∃ values, dictOf f names = .ok values ∧ .dict values.entries = result) :
    SameFields fields value := by
  have both : (∃ values, dictOf f keys = .ok values) ↔ ∃ values, dictOf f names = .ok values := by
    simp only [exists_dictOf_iff, same]
  cases fields with
  | error e =>
    cases value with
    | error e => trivial
    | ok result =>
      obtain ⟨values, built, -⟩ := (second result).mp rfl
      obtain ⟨values, built⟩ := both.mpr ⟨values, built⟩
      cases (first values).mpr built
  | ok values =>
    have built := (first values).mp rfl
    obtain ⟨others, again⟩ := both.mp ⟨values, built⟩
    have found := (second (.dict others.entries)).mpr ⟨others, again, rfl⟩
    subst found
    intro name
    obtain ⟨keysOf, own⟩ := dictOf_eq_ok.mp built
    obtain ⟨namesOf, others_own⟩ := dictOf_eq_ok.mp again
    change values.get? name = others.get? name
    by_cases member : name ∈ keys
    · obtain ⟨here, given, held⟩ := own name member
      obtain ⟨there, given', held'⟩ := others_own name ((same name).mp member)
      cases given.symm.trans given'
      rw [held, held']
    · have left : name ∉ values.keys := by
        rw [keysOf, OrderedDict.mem_foldl_addKey]
        simpa using member
      have right : name ∉ others.keys := by
        rw [namesOf, OrderedDict.mem_foldl_addKey]
        simpa using fun inside => member ((same name).mpr inside)
      rw [OrderedDict.get?_eq_none_iff.mpr left, OrderedDict.get?_eq_none_iff.mpr right]

namespace StepChainObject

/-- Each configuration has a definition of its status. Its fields are those that
waiting reads, and where a PLC keeps the status in such a structure, each text
with a terminator in its field, they have the same values in a sum read with an
up-to-date cache and in a read of the structure. -/
theorem status_read_alike (obj : StepChainObject) : ∃ structureDef, obj.getStatusStructureDef = .ok structureDef ∧
    structureDef.names.Nodup ∧
    (∀ symbol, symbol ∈ obj.statusSymbolsForRead ↔ ∃ name ∈ structureDef.names, obj.fieldSymbol name = symbol) ∧
    ∀ (plc : NamePlc) (memory : DeviceMemory) (block : Bytes) (symbolInfoCache : DataSymbols) (cacheSymbolInfo : Bool)
      (adsSubCommands : Nat), ServesStatus plc memory obj structureDef block →
      AnswersOf plc.adsGetSymbolInfo symbolInfoCache → 0 < adsSubCommands →
      SameFields (obj.readStatusFields fun dataNames =>
          (readListByName plc.toPlc symbolInfoCache dataNames cacheSymbolInfo adsSubCommands OrderedDict.empty).1)
        (plc.readStructureByName obj.statusSymbol structureDef 1) := by
  obtain ⟨structureItems, made, order, -⟩ := obj.exists_definition
  have distinct : (structureItems.map Prod.fst).Nodup := order ▸ obj.nodup_uniqueOrder
  refine ⟨definitionOf structureItems, made, by simpa using distinct, fun symbol => ?_, ?_⟩
  · rw [names_definitionOf, order]
    exact mem_statusSymbolsForRead
  intro plc memory block symbolInfoCache cacheSymbolInfo adsSubCommands serves answers positive
  have members (name : String) : name ∈ obj.statusFieldSymbolMap.keys ↔ name ∈ structureItems.map Prod.fst := by
    rw [mem_keys_statusFieldSymbolMap, order]
  have pieces : (definitionOf structureItems).names.length =
      (cut Slot.width (definitionOf structureItems).layout block).length := by
    have slots := congrArg List.length (map_fst_cut Slot.width (definitionOf structureItems).layout block)
    simpa using slots.symm
  have asked : ∀ dataName ∈ obj.statusFieldSymbolMap.keys.map obj.fieldSymbol,
      ∃ symbol, plc.adsGetSymbolInfo dataName = .ok symbol := by
    intro dataName member
    obtain ⟨name, listed, rfl⟩ := List.mem_map.mp member
    obtain ⟨⟨slot, piece⟩, inside⟩ := exists_mem_zip pieces (by simpa using (members name).mp listed)
    obtain ⟨-, symbol, info, -⟩ := serves.field name slot piece inside
    exact ⟨symbol, info⟩
  obtain ⟨dataSymbols, later, resolved⟩ : ∃ dataSymbols later, resolveSymbols plc.adsGetSymbolInfo cacheSymbolInfo
      symbolInfoCache (obj.statusFieldSymbolMap.keys.map obj.fieldSymbol) = .ok (dataSymbols, later) :=
    exists_resolveSymbols cacheSymbolInfo asked
  obtain ⟨keys, known⟩ := dictOf_eq_ok.mp (answers.resolveSymbols resolved).1
  have same (name : String) (slot : Slot) (piece : Bytes) (inside : (name, slot, piece) ∈
      (definitionOf structureItems).names.zip (cut Slot.width (definitionOf structureItems).layout block)) (value : PyVal) :
      memory.resultOf dataSymbols OrderedDict.empty (obj.fieldSymbol name) = .ok value ↔ readSlot slot piece = .ok value := by
    have listed : name ∈ obj.statusFieldSymbolMap.keys := by
      rw [members, ← names_definitionOf]
      exact (List.of_mem_zip inside).1
    obtain ⟨symbol, asked, found⟩ := known _ (List.mem_map_of_mem listed)
    have whole := (sizeOfStructure_eq serves.size).ge
    exact serves.resultOf inside (length_of_mem_cut whole (List.of_mem_zip inside).2) found asked
  have holds : ∀ dataName symbol, dataSymbols.get? dataName = some symbol →
      HoldsElement (dataName ∈ (OrderedDict.empty : StructureDefs).keys) symbol := by
    intro dataName symbol found
    have listed : dataName ∈ obj.statusFieldSymbolMap.keys.map obj.fieldSymbol := by
      by_contra absent
      have unknown := OrderedDict.get?_eq_none_iff.mpr (show dataName ∉ dataSymbols.keys by
        rw [keys, OrderedDict.mem_foldl_addKey]
        simpa using absent)
      cases unknown.symm.trans found
    obtain ⟨other, asked, held⟩ := known dataName listed
    cases held.symm.trans found
    obtain ⟨name, member, rfl⟩ := List.mem_map.mp listed
    obtain ⟨⟨slot, piece⟩, inside⟩ := exists_mem_zip pieces (by simpa using (members name).mp member)
    obtain ⟨-, _, info, describes, -⟩ := serves.field name slot piece inside
    cases asked.symm.trans info
    exact (OrderedDict.keys_empty (κ := String) ▸ describes.holds)
  refine sameFields_of_dictOf members (fun values => readStatusFields_eq_ok fun result => ?_)
    (fun result => readStructureByName_eq_ok distinct serves fun name slot piece inside =>
      same name slot piece (by simpa using inside))
  rw [readListByName, resolved]
  have each : plc.sumRead = fun _ => memory.reply := funext serves.listed
  rw [each]
  exact readList_eq_ok (fun _ _ _ => DeviceMemory.sumRead_eq_ok holds) positive

/-- A conveyor that has failed in its second step. -/
def conveyor : StepChainObject := ⟨"GVL.fbConveyor", { stepNameLength := 7 }⟩

def conveyorBlock : Bytes :=
  [9, 0, 0, 0, 0, 0, 1, 0xFE, 0xFF, 0xFF, 0xFF, 2, 0, 0, 0, 0x6C, 0x6F, 0x61, 0x64, 0, 0, 0, 0]

def conveyorMemory : DeviceMemory :=
  ⟨fun request => ⟨0, (List.range request.size.toNat).map fun i => conveyorBlock.getD (request.iOffset.toNat + i) 0⟩,
    by simp⟩

def conveyorSymbols : List (String × SAdsSymbolEntry) :=
  [("udiRequestId", ⟨0x4040, 0, 4, 19, "UDINT".toList⟩), ("xBusy", ⟨0x4040, 4, 1, 33, "BOOL".toList⟩),
    ("xDone", ⟨0x4040, 5, 1, 33, "BOOL".toList⟩), ("xError", ⟨0x4040, 6, 1, 33, "BOOL".toList⟩),
    ("diErrorCode", ⟨0x4040, 7, 4, 3, "DINT".toList⟩), ("udiStep", ⟨0x4040, 11, 4, 19, "UDINT".toList⟩),
    ("sStepName", ⟨0x4040, 15, 8, 30, "STRING(7)".toList⟩)]

def conveyorPlc : NamePlc where
  adsGetSymbolInfo dataName :=
    match conveyorSymbols.find? (fun entry => conveyor.fieldSymbol entry.1 = dataName) with
    | some (_, symbol) => .ok symbol
    | none => .error (.adsError 0x710)
  sumRead _ := conveyorMemory.reply
  adsGetHandle _ := .ok 1
  adsSyncRead _ length := .ok (conveyorBlock.take length)
  adsReleaseHandle _ := .ok ()

theorem conveyor_status_read : ∃ structureDef, conveyor.getStatusStructureDef = .ok structureDef ∧
    SameFields (conveyor.readStatusFields fun dataNames =>
        (readListByName conveyorPlc.toPlc OrderedDict.empty dataNames true 3 OrderedDict.empty).1)
      (conveyorPlc.readStructureByName conveyor.statusSymbol structureDef 1) := by
  obtain ⟨structureDef, made, -, -, alike⟩ := status_read_alike conveyor
  refine ⟨structureDef, made, alike conveyorPlc conveyorMemory conveyorBlock OrderedDict.empty true 3 ?_ ?_ (by decide)⟩
  · cases made.symm.trans (show conveyor.getStatusStructureDef = .ok (definitionOf
      [("udiRequestId", .simple .uint32, none), ("xBusy", .simple .bool, none), ("xDone", .simple .bool, none),
        ("xError", .simple .bool, none), ("diErrorCode", .simple .int32, none), ("udiStep", .simple .uint32, none),
        ("sStepName", .string, some 7)]) by rfl)
    refine ⟨rfl, ⟨1, rfl, fun _ => rfl, rfl⟩, fun _ => rfl, fun name slot piece inside => ?_⟩
    have known (symbol : SAdsSymbolEntry) (member : (name, symbol) ∈ conveyorSymbols) :
        conveyorPlc.adsGetSymbolInfo (conveyor.fieldSymbol name) = .ok symbol := by
      simp only [conveyorPlc, fieldSymbol_inj]
      revert member
      simp only [conveyorSymbols, List.mem_cons, Prod.mk.injEq, List.not_mem_nil, or_false]
      rintro (⟨rfl, rfl⟩ | ⟨rfl, rfl⟩ | ⟨rfl, rfl⟩ | ⟨rfl, rfl⟩ | ⟨rfl, rfl⟩ | ⟨rfl, rfl⟩ | ⟨rfl, rfl⟩) <;> rfl
    replace inside : (name, slot, piece) ∈ [("udiRequestId", ⟨.simple .uint32, 80⟩, [9, 0, 0, 0]),
      ("xBusy", ⟨.simple .bool, 80⟩, [0]), ("xDone", ⟨.simple .bool, 80⟩, [0]), ("xError", ⟨.simple .bool, 80⟩, [1]),
      ("diErrorCode", ⟨.simple .int32, 80⟩, [0xFE, 0xFF, 0xFF, 0xFF]), ("udiStep", ⟨.simple .uint32, 80⟩, [2, 0, 0, 0]),
      ("sStepName", ⟨.string, 7⟩, [0x6C, 0x6F, 0x61, 0x64, 0, 0, 0, 0])] := inside
    simp only [List.mem_cons, Prod.mk.injEq, List.not_mem_nil, or_false] at inside
    rcases inside with ⟨rfl, rfl, rfl⟩ | ⟨rfl, rfl, rfl⟩ | ⟨rfl, rfl, rfl⟩ | ⟨rfl, rfl, rfl⟩ | ⟨rfl, rfl, rfl⟩ |
      ⟨rfl, rfl, rfl⟩ | ⟨rfl, rfl, rfl⟩
    · exact ⟨by decide, _, known ⟨0x4040, 0, 4, 19, "UDINT".toList⟩ (by decide), ⟨rfl, rfl⟩, rfl⟩
    · exact ⟨by decide, _, known ⟨0x4040, 4, 1, 33, "BOOL".toList⟩ (by decide), ⟨rfl, rfl⟩, rfl⟩
    · exact ⟨by decide, _, known ⟨0x4040, 5, 1, 33, "BOOL".toList⟩ (by decide), ⟨rfl, rfl⟩, rfl⟩
    · exact ⟨by decide, _, known ⟨0x4040, 6, 1, 33, "BOOL".toList⟩ (by decide), ⟨rfl, rfl⟩, rfl⟩
    · exact ⟨by decide, _, known ⟨0x4040, 7, 4, 3, "DINT".toList⟩ (by decide), ⟨rfl, rfl⟩, rfl⟩
    · exact ⟨by decide, _, known ⟨0x4040, 11, 4, 19, "UDINT".toList⟩ (by decide), ⟨rfl, rfl⟩, rfl⟩
    · exact ⟨by decide, _, known ⟨0x4040, 15, 8, 30, "STRING(7)".toList⟩ (by decide), ⟨rfl, rfl⟩, rfl⟩
  · intro dataName symbol found
    cases found

end StepChainObject

end PyAds
