import PyAds.StructureTraversal

/-! Conforming dictionaries survive the way into bytes and back. Every leaf
fills its slot exactly and is read back from it, so encoder and decoder agree
on all slot boundaries; the dictionaries around the leaves are rebuilt in
definition order. -/
namespace PyAds
open SlotSequence StructureDef
open Fallible (exists_forall₂)

/-! ## Conforming values -/

/-- Values of one element: integers in range, ASCII or UTF-16 texts without
NUL that leave room for the terminator. -/
def ConformsElement (slot : Slot) (value : PyVal) : Prop :=
  match slot.plcDatatype with
  | .string => ∃ chars, value = .str (Text.ofChars chars) ∧ '\x00' ∉ chars ∧
      (∀ c ∈ chars, c.toNat < 128) ∧ chars.length ≤ slot.strLen
  | .wstring => ∃ chars, value = .str (Text.ofChars chars) ∧ '\x00' ∉ chars ∧
      (chars.flatMap Text.Utf16.units).length ≤ slot.strLen
  | .simple ctype => Representable ctype.format value
  | .unknown => False

/-- A bare value for size 1, a list of exactly `size` values otherwise. -/
def ConformsArray (conforms : PyVal → Prop) (size : Nat) (value : PyVal) : Prop :=
  if size = 1 then conforms value
  else ∃ items, value = .list items ∧ items.length = size ∧ ∀ item ∈ items, conforms item

/-- Every item of the definition has a value of its shape, whose elements meet
a condition on their slots. -/
def MatchesFields (element : Slot → PyVal → Prop) (order : KeyOrder) : StructureDef → Entries → Prop
  | .nil, _ => True
  | .item var plcDatatype size strLen rest, entries =>
    (∃ value, OrderedDict.lookup var entries = some value ∧
      ConformsArray (element (slotOf plcDatatype strLen)) size value) ∧
    MatchesFields element order rest entries
  | .nested var plcDatatype size rest, entries =>
    (∃ value, OrderedDict.lookup var entries = some value ∧
      ConformsArray (fun inner => ∃ fields, inner = .dict fields ∧
        order.Agree plcDatatype.names (fields.map Prod.fst) ∧
        MatchesFields element order plcDatatype fields) size value) ∧
    MatchesFields element order rest entries

/-- A dictionary of the form that a definition describes: its keys, a bare value
for size 1, a list of exactly as many values otherwise, at any depth. -/
def Matches (element : Slot → PyVal → Prop) (order : KeyOrder) (structureDef : StructureDef) (value : PyVal) : Prop :=
  ∃ entries, value = .dict entries ∧ order.Agree structureDef.names (entries.map Prod.fst) ∧
    MatchesFields element order structureDef entries

/-- A dictionary with the keys of the definition and conforming values. -/
def Conforms (order : KeyOrder) (structureDef : StructureDef) (value : PyVal) : Prop :=
  Matches ConformsElement order structureDef value

theorem unwrapSingle_of_ne (many : size ≠ 1) (varArray : List PyVal) :
    unwrapSingle size varArray = .list varArray := by
  unfold unwrapSingle
  split
  · exact absurd rfl many
  · rfl

theorem conformsArray_elements (held : ConformsArray conforms size value) :
    ∃ items : List PyVal, items.length = size ∧ (∀ item ∈ items, conforms item) ∧
      value = unwrapSingle size items := by
  unfold ConformsArray at held
  split at held
  · rename_i single
    subst single
    exact ⟨[value], rfl, by simpa using held, rfl⟩
  · rename_i many
    obtain ⟨items, rfl, length, each⟩ := held
    exact ⟨items, length, each, (unwrapSingle_of_ne many items).symm⟩

/-! ## One element -/

private theorem write_string (nulFree : '\x00' ∉ chars) (ascii : ∀ c ∈ chars, c.toNat < 128)
    (fits : chars.length ≤ strLen) :
    ∃ bytes, writeSlot (⟨.string, strLen⟩, .str (Text.ofChars chars)) = .ok bytes ∧
      bytes.length = strLen + 1 ∧
      readSlot ⟨.string, strLen⟩ bytes = .ok (.str (Text.ofChars chars)) := by
  have length := (Text.Utf8.length_encode_eq_iff chars).mpr ascii
  obtain ⟨padding, room⟩ : ∃ padding, strLen + 1 - chars.length = padding + 1 :=
    ⟨strLen - chars.length, by omega⟩
  refine ⟨Text.Utf8.encode chars ++ List.replicate (strLen + 1 - chars.length) 0, ?_, ?_, ?_⟩
  · simp [writeSlot, writeElement, bind, Except.bind, pure, Except.pure]
  · rw [List.length_append, length, List.length_replicate]
    omega
  · rw [room, List.replicate_succ, readSlot,
      beforeZero_append fun member => nulFree (Text.Utf8.zero_mem_encode member)]
    simp [Except.map]

private theorem write_wstring (nulFree : '\x00' ∉ chars)
    (fits : (chars.flatMap Text.Utf16.units).length ≤ strLen) :
    ∃ bytes, writeSlot (⟨.wstring, strLen⟩, .str (Text.ofChars chars)) = .ok bytes ∧
      bytes.length = 2 * (strLen + 1) ∧
      readSlot ⟨.wstring, strLen⟩ bytes = .ok (.str (Text.ofChars chars)) := by
  have length := Text.Utf16.length_encode chars
  obtain ⟨padding, room⟩ :
      ∃ padding, 2 * (strLen + 1) - (Text.Utf16.encode chars).length = padding + 1 + 1 :=
    ⟨2 * strLen - (Text.Utf16.encode chars).length, by omega⟩
  refine ⟨Text.Utf16.encode chars ++
    List.replicate (2 * (strLen + 1) - (Text.Utf16.encode chars).length) 0, ?_, ?_, ?_⟩
  · simp [writeSlot, writeElement, bind, Except.bind, pure, Except.pure]
  · rw [List.length_append, List.length_replicate]
    omega
  · rw [room, List.replicate_succ, List.replicate_succ, readSlot,
      beforeTerminator_encode nulFree]
    simp [Except.map]

/-- A conforming value fills its slot and is read back from it. -/
theorem writeSlot_conforms (held : ConformsElement slot value) :
    ∃ bytes, writeSlot (slot, value) = .ok bytes ∧ bytes.length = slot.width ∧
      readSlot slot bytes = .ok value := by
  obtain ⟨plcDatatype, strLen⟩ := slot
  cases plcDatatype with
  | string =>
    obtain ⟨chars, rfl, nulFree, ascii, fits⟩ := held
    exact write_string nulFree ascii fits
  | wstring =>
    obtain ⟨chars, rfl, nulFree, fits⟩ := held
    exact write_wstring nulFree fits
  | simple ctype =>
    obtain ⟨bytes, packed, length, back⟩ := structPack_representable held
    refine ⟨bytes, packed, by rw [length, CType.size_format]; rfl, ?_⟩
    exact (structUnpack_of_length length).trans (congrArg _ back)
  | unknown => cases held

/-! ## The walk over dictionaries -/

/-- What the walk over a dictionary gathers: an element for each slot, from
which an equal dictionary can be assembled. -/
structure Gathers (element : Slot → PyVal → Prop) (order : KeyOrder) (structureDef : StructureDef)
    (entries : Entries) (leaves : List PyVal) : Prop where
  visited : visitFields structureDef (.dict entries) = .ok leaves
  elements : List.Forall₂ element structureDef.layout leaves
  agree : ∀ key value, (key, value) ∈ structureDef.assemble leaves →
    ∃ other, OrderedDict.lookup key entries = some other ∧ PyVal.Same order value other

section Gathers
variable {element : Slot → PyVal → Prop}

theorem Gathers.length_eq (gathers : Gathers element order structureDef entries leaves) :
    leaves.length = structureDef.layout.length :=
  gathers.elements.length_eq.symm

theorem Gathers.same (gathers : Gathers element order structureDef entries leaves)
    (distinct : structureDef.DistinctNames)
    (keys : order.Agree structureDef.names (entries.map Prod.fst)) :
    PyVal.Same order (.dict (structureDef.assemble leaves)) (.dict entries) := by
  refine .dict (by rwa [keys_assemble]) fun key value other member held => ?_
  obtain ⟨found, looked, same⟩ := gathers.agree key value member
  have nodup := keys.perm.nodup_iff.mp (nodup_names distinct)
  have eq := looked.symm.trans (OrderedDict.lookup_of_mem nodup held)
  cases eq
  exact same

theorem exists_map {build : α → β} {held : α → Prop} {values : List β}
    (each : ∀ value ∈ values, ∃ source, value = build source ∧ held source) :
    ∃ sources : List α, values = sources.map build ∧ ∀ source ∈ sources, held source := by
  induction values with
  | nil => exact ⟨[], rfl, by simp⟩
  | cons value values ih =>
    obtain ⟨source, rfl, here⟩ := each value (by simp)
    obtain ⟨sources, rfl, there⟩ := ih fun value member => each value (List.mem_cons_of_mem _ member)
    exact ⟨source :: sources, rfl, List.forall_mem_cons.mpr ⟨here, there⟩⟩

private theorem forall₂_replicate {relates : α → β → Prop} {values : List β}
    (each : ∀ value ∈ values, relates head value) :
    List.Forall₂ relates (List.replicate values.length head) values := by
  induction values with
  | nil => exact .nil
  | cons value values ih =>
    exact .cons (each value (by simp)) (ih fun other member => each other (List.mem_cons_of_mem _ member))

/-- The leaves of the elements of a nested item are those of its slots. -/
private theorem elements_flatten (each : List.Forall₂ (Gathers element order structureDef) inners parts) :
    List.Forall₂ element
      (List.replicate inners.length structureDef.layout).flatten parts.flatten := by
  induction each with
  | nil => exact .nil
  | cons here _ ih => exact List.rel_append here.elements ih

private theorem length_of_gathered (each : List.Forall₂ (Gathers element order structureDef) inners parts) :
    ∀ part ∈ parts, part.length = structureDef.layout.length := by
  induction each with
  | nil => simp
  | cons here _ ih => exact List.forall_mem_cons.mpr ⟨here.length_eq, ih⟩

private theorem same_elements (distinct : structureDef.DistinctNames)
    (each : List.Forall₂ (Gathers element order structureDef) inners parts)
    (keys : ∀ inner ∈ inners, order.Agree structureDef.names (inner.map Prod.fst)) :
    List.Forall₂ (PyVal.Same order) (parts.map fun part => .dict (structureDef.assemble part))
      (inners.map .dict) := by
  induction each with
  | nil => exact .nil
  | cons here _ ih =>
    obtain ⟨first, others⟩ := List.forall_mem_cons.mp keys
    exact .cons (here.same distinct first) (ih others)

/-- The elements of a nested item, each gathered by its own walk. -/
private theorem visit_nested (many : inners.length ≠ 1)
    (each : List.Forall₂ (Gathers element order structureDef) inners parts) :
    concatM (fun i => do
      let element ← (unwrapSingle inners.length (inners.map .dict)).getIndex i
      visitStructure (visitFields structureDef) element) (List.range inners.length) =
      .ok parts.flatten := by
  have loop := concatM_range (ε := PyError) (fun i => do
    let element ← (unwrapSingle inners.length (inners.map .dict)).getIndex i
    visitStructure (visitFields structureDef) element) parts fun i inside => by
      have inside' : i < inners.length := each.length_eq ▸ inside
      have element := getIndex_unwrapSingle (i := i) (inners.map .dict) (by simpa using many)
        (by simpa using inside')
      simp only [List.length_map, List.getElem_map] at element
      simp only [element, bind, Except.bind]
      exact (List.forall₂_iff_get.mp each).2 i inside' inside |>.visited
  rwa [← each.length_eq] at loop

theorem gathers_of_matches (plural : structureDef.NoSingleNested)
    (distinct : structureDef.DistinctNames) (held : MatchesFields element order structureDef entries) :
    ∃ leaves, Gathers element order structureDef entries leaves := by
  induction structureDef generalizing entries with
  | nil => exact ⟨[], rfl, .nil, by simp [assemble]⟩
  | item var plcDatatype size strLen rest ih =>
    obtain ⟨⟨value, found, conforms⟩, later⟩ := held
    obtain ⟨items, length, each, rfl⟩ := conformsArray_elements conforms
    subst length
    obtain ⟨after, gathers⟩ := ih plural distinct.2 later
    refine ⟨items ++ after, ?_, List.rel_append (forall₂_replicate each) gathers.elements, ?_⟩
    · simp only [visitFields, PyVal.getKey, found, bind, Except.bind, visit_elements items,
        gathers.visited, pure, Except.pure]
    · intro key value member
      rw [assemble, List.take_left, List.drop_left] at member
      rcases List.mem_cons.mp member with same | member
      · cases same
        exact ⟨_, found, .refl _⟩
      · exact gathers.agree key value member
  | nested var plcDatatype size rest ihNested ih =>
    obtain ⟨⟨value, found, conforms⟩, later⟩ := held
    obtain ⟨many, inner, outer⟩ := plural
    obtain ⟨items, length, each, rfl⟩ := conformsArray_elements conforms
    obtain ⟨inners, rfl, shape⟩ := exists_map each
    rw [List.length_map] at length
    subst length
    have each : ∀ fields ∈ inners, ∃ leaves, Gathers element order plcDatatype fields leaves := fun fields member =>
      ihNested (inner.resolve_left (List.length_pos_of_mem member).ne') distinct.1 (shape fields member).2
    obtain ⟨parts, gathered⟩ := exists_forall₂ each
    obtain ⟨after, gathers⟩ := ih outer distinct.2.2 later
    have loop := visit_nested many gathered
    have same := same_elements distinct.1 gathered fun fields member => (shape fields member).1
    have total : inners.length * plcDatatype.layout.length = parts.flatten.length := by
      rw [← (elements_flatten gathered).length_eq]
      simp
    have regroup : groups plcDatatype.layout.length inners.length (parts.flatten ++ after) = parts := by
      rw [gathered.length_eq]
      exact groups_flatten (length_of_gathered gathered) after
    refine ⟨parts.flatten ++ after, ?_,
      List.rel_append (elements_flatten gathered) gathers.elements, ?_⟩
    · simp only [visitFields, PyVal.getKey, found, bind, Except.bind] at loop ⊢
      simp only [loop, gathers.visited, pure, Except.pure]
    · intro key value member
      rw [assemble, regroup, total, List.drop_left] at member
      rcases List.mem_cons.mp member with same | member
      · cases same
        refine ⟨_, found, ?_⟩
        rw [unwrapSingle_of_ne many, unwrapSingle_of_ne many]
        exact .list same
      · exact gathers.agree key value member

/-- A slot that a value fills exactly and is read back from. -/
def Faithful (slot : Slot) (value : PyVal) : Prop :=
  ∃ bytes, writeSlot (slot, value) = .ok bytes ∧ bytes.length = slot.width ∧ readSlot slot bytes = .ok value

/-- Dictionaries whose elements fill their slots and are read back from them
survive the way into bytes and back. -/
theorem round_trip_of_gathers (known : structureDef.TypesIn (· ≠ .unknown)) (distinct : structureDef.DistinctNames)
    (faithful : ∀ slot value, element slot value → Faithful slot value)
    (gathered : List.Forall₂ (Gathers element order structureDef) inners parts)
    (keys : ∀ inner ∈ inners, order.Agree structureDef.names (inner.map Prod.fst)) :
    ∃ size bytes back, sizeOfStructure structureDef = .ok size ∧
      bytesFromDict (.list (inners.map .dict)) structureDef = .ok bytes ∧ bytes.length = inners.length * size ∧
      dictFromBytes (.bytes bytes) structureDef inners.length = .ok (unwrapSingle inners.length back) ∧
      List.Forall₂ (PyVal.Same order) back (inners.map .dict) := by
  have sized := sizeOfStructure_known known
  -- one slot for each leaf, in the order in which the walk visits them
  have visited : concatM (visitFields structureDef) (inners.map .dict) = .ok parts.flatten := by
    rw [concatM_map]
    exact concatM_of_forall₂ (gathered.imp fun _ _ gathers => gathers.visited)
  obtain ⟨length, written⟩ := bytesFromDict_visit visited
  have leaves := elements_flatten gathered
  have each : ∀ item ∈ slotItems structureDef inners.length parts.flatten, Faithful item.1 item.2 :=
    fun item member => faithful _ _ (List.forall₂_zip leaves member)
  obtain ⟨bytes, encoded, filled, decoded⟩ := readAll_concatM each
  rw [List.length_map] at length written
  rw [slotItems, List.map_fst_zip length.ge] at filled decoded
  rw [List.map_snd_zip length.le] at decoded
  refine ⟨_, bytes, parts.map fun part => .dict (structureDef.assemble part), sized,
    written.trans encoded, ?_, ?_, ?_⟩
  · rw [filled, extent_flatten_replicate]
  · have regroup := groups_flatten (length_of_gathered gathered) []
    have read := decoded []
    rw [List.append_nil] at regroup read
    rw [dictFromBytes_layout sized distinct, read, gathered.length_eq]
    simp only [bind, Except.bind, pure, Except.pure, regroup]
  · exact same_elements distinct gathered keys

end Gathers

/-! ## Whole structures -/

/-- Encoding conforming dictionaries yields the bytes of all their slots, and
decoding these bytes yields the dictionaries again. -/
theorem dict_from_bytes_bytes_from_dict (order : KeyOrder) {structureDef : StructureDef}
    (known : structureDef.TypesIn (· ≠ .unknown)) (distinct : structureDef.DistinctNames)
    (plural : structureDef.NoSingleNested) (conforms : ∀ value ∈ vs, Conforms order structureDef value) :
    ∃ size bytes back, sizeOfStructure structureDef = .ok size ∧
      bytesFromDict (.list vs) structureDef = .ok bytes ∧ bytes.length = vs.length * size ∧
      dictFromBytes (.bytes bytes) structureDef vs.length = .ok (unwrapSingle vs.length back) ∧
      List.Forall₂ (PyVal.Same order) back vs := by
  obtain ⟨inners, rfl, shape⟩ := exists_map conforms
  have each : ∀ inner ∈ inners, ∃ leaves, Gathers ConformsElement order structureDef inner leaves :=
    fun inner member => gathers_of_matches plural distinct (shape inner member).2
  obtain ⟨parts, gathered⟩ := exists_forall₂ each
  have trip := round_trip_of_gathers known distinct (fun _ _ held => writeSlot_conforms held) gathered
    fun inner member => (shape inner member).1
  rwa [List.length_map]

/-- A drive with a fault history and two axes. -/
def driveDef : StructureDef :=
  .item "faults" (.simple .int16) 2 none (.item "name" .string 1 (some 5) (.item "unit" .wstring 1 none
    (.nested "axes" (.item "active" (.simple .bool) 1 none .nil) 2 .nil)))

def driveValues : PyVal :=
  .dict [("faults", .list [.int 3, .int (-2)]), ("name", .str (Text.ofChars ['m', '1'])),
    ("unit", .str (Text.ofChars ['µ', 'm'])),
    ("axes", .list [.dict [("active", .bool true)], .dict [("active", .bool false)]])]

theorem drive_round_trip : ∃ size bytes back, sizeOfStructure driveDef = .ok size ∧
    bytesFromDict (.list [driveValues]) driveDef = .ok bytes ∧ bytes.length = 1 * size ∧
    dictFromBytes (.bytes bytes) driveDef 1 = .ok (unwrapSingle 1 back) ∧
    List.Forall₂ (PyVal.Same .ordered) back [driveValues] := by
  refine dict_from_bytes_bytes_from_dict .ordered (by simp [driveDef, TypesIn])
    (by simp [driveDef, DistinctNames, names]) (by simp [driveDef, NoSingleNested]) ?_
  intro value member
  obtain rfl := List.mem_singleton.mp member
  refine ⟨_, rfl, rfl, ⟨_, rfl, ?_⟩, ⟨_, rfl, ?_⟩, ⟨_, rfl, ?_⟩, ⟨_, rfl, ?_⟩, trivial⟩
  · exact ⟨_, rfl, rfl, by simp [ConformsElement, slotOf, Representable, CType.format, IntFits, StructFormat.size]⟩
  · exact ⟨_, rfl, by decide, by simp, by decide⟩
  · exact ⟨_, rfl, by decide, by decide⟩
  · refine ⟨_, rfl, rfl, ?_⟩
    simp [MatchesFields, ConformsArray, ConformsElement, slotOf, Representable, CType.format,
      OrderedDict.lookup, KeyOrder.Agree, names]

end PyAds
