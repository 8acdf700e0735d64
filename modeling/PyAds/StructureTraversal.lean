import PyAds.StructureLayout

/-! The encoding walk visits one value for each slot of the layout and writes
them in order. A dictionary assembled from slot values leads back to exactly
these values, unless some nested item has size 1: its value is a bare
dictionary, which the walk nevertheless subscripts. -/
namespace PyAds
open SlotSequence StructureDef

/-- The dictionaries of an element of a nested item: a list of them is as good
as one. -/
def dictionaries : PyVal → List PyVal
  | .list values => values
  | value => [value]

theorem writeStructures_dictionaries (write : PyVal → Result Bytes) (value : PyVal) :
    writeStructures write value = concatM write (dictionaries value) := by
  cases value with
  | list values => rfl
  | _ => simp only [writeStructures, dictionaries, concatM_singleton]

/-- Every element that the encoding walk reaches, whatever lists it passes,
meets a condition on its slot and its value. -/
def EveryElement (holds : Slot × PyVal → Prop) : StructureDef → PyVal → Prop
  | .nil, _ => True
  | .item var plcDatatype size strLen rest, curDict =>
    (∀ value i element, curDict.getKey var = .ok value → i < size → elementAt size value i = .ok element →
      holds (slotOf plcDatatype strLen, element)) ∧ EveryElement holds rest curDict
  | .nested var plcDatatype size rest, curDict =>
    (∀ value i element, curDict.getKey var = .ok value → i < size → value.getIndex i = .ok element →
      ∀ inner ∈ dictionaries element, EveryElement holds plcDatatype inner) ∧ EveryElement holds rest curDict

/-- An element of a nested item that is a single dictionary. -/
def visitStructure (visit : PyVal → Result (List PyVal)) : PyVal → Result (List PyVal)
  | .list _ => .error .typeError
  | element => visit element

/-- The values the encoding walk reaches, each element of a nested item being
a single dictionary. -/
def visitFields : StructureDef → PyVal → Result (List PyVal)
  | .nil, _ => .ok []
  | .item var _ size _ rest, curDict => do
    let value ← curDict.getKey var
    let here ← concatM (fun i => (elementAt size value i).map ([·])) (List.range size)
    let after ← visitFields rest curDict
    return here ++ after
  | .nested var plcDatatype size rest, curDict => do
    let value ← curDict.getKey var
    let here ← concatM (fun i => do
      let element ← value.getIndex i
      visitStructure (visitFields plcDatatype) element) (List.range size)
    let after ← visitFields rest curDict
    return here ++ after

/-- If each round of a loop visits one block of slots and writes its values,
the loop writes the values of all blocks. -/
theorem concatM_blocks {visit : γ → Result (List PyVal)} (write : γ → Result Bytes) (block : List Slot)
    (step : ∀ round leaves, visit round = .ok leaves →
      leaves.length = block.length ∧ write round = concatM writeSlot (block.zip leaves))
    (visited : concatM visit rounds = .ok leaves) :
    leaves.length = (List.replicate rounds.length block).flatten.length ∧
      concatM write rounds =
        concatM writeSlot ((List.replicate rounds.length block).flatten.zip leaves) := by
  induction rounds generalizing leaves with
  | nil => cases visited; exact ⟨rfl, rfl⟩
  | cons round rounds ih =>
    obtain ⟨head, tail, first, second, rfl⟩ := concatM_cons_eq_ok.mp visited
    obtain ⟨headLength, headWritten⟩ := step round head first
    obtain ⟨tailLength, tailWritten⟩ := ih second
    rw [List.length_cons, List.replicate_succ, List.flatten_cons]
    refine ⟨by rw [List.length_append, List.length_append, headLength, tailLength], ?_⟩
    rw [concatM, headWritten, tailWritten, List.zip_append headLength.symm, concatM_append]

/-- What the walk writes are the visited values in the slots of the layout. -/
theorem writeFields_visit (visited : visitFields structureDef value = .ok leaves) :
    leaves.length = structureDef.layout.length ∧
      writeFields structureDef value = concatM writeSlot (structureDef.layout.zip leaves) := by
  induction structureDef generalizing value leaves with
  | nil => cases visited; exact ⟨rfl, rfl⟩
  | item var plcDatatype size strLen rest ih =>
    simp only [visitFields, bind, Except.bind] at visited
    cases found : value.getKey var with
    | error e => simp [found] at visited
    | ok field =>
      simp only [found] at visited
      split at visited
      · cases visited
      rename_i here hereVisited
      split at visited
      · cases visited
      rename_i after afterVisited
      cases visited
      obtain ⟨hereLength, hereWritten⟩ := concatM_blocks
        (fun i => do
          let element ← elementAt size field i
          writeElement plcDatatype strLen element) [slotOf plcDatatype strLen]
        (fun i leaves visit => by
          cases reached : elementAt size field i with
          | error e => simp [reached, Except.map] at visit
          | ok element =>
            simp only [reached, Except.map, Except.ok.injEq] at visit
            subst visit
            refine ⟨rfl, ?_⟩
            have same : writeElement plcDatatype strLen element =
                writeSlot (slotOf plcDatatype strLen, element) := by
              cases plcDatatype <;> rfl
            simp only [bind, Except.bind, List.zip_cons_cons, List.zip_nil_right, concatM, same]
            cases writeSlot (slotOf plcDatatype strLen, element) <;>
              simp [pure, Except.pure]) hereVisited
      obtain ⟨afterLength, afterWritten⟩ := ih afterVisited
      simp only [List.length_range, flatten_replicate_singleton] at hereLength hereWritten
      refine ⟨by rw [List.length_append, layout, List.length_append, hereLength, afterLength], ?_⟩
      rw [layout, List.zip_append hereLength.symm, concatM_append, ← afterWritten, ← hereWritten,
        writeFields]
      simp only [found, bind, Except.bind]
  | nested var plcDatatype size rest ihNested ih =>
    simp only [visitFields, bind, Except.bind] at visited
    cases found : value.getKey var with
    | error e => simp [found] at visited
    | ok field =>
      simp only [found] at visited
      split at visited
      · cases visited
      rename_i here hereVisited
      split at visited
      · cases visited
      rename_i after afterVisited
      cases visited
      obtain ⟨hereLength, hereWritten⟩ := concatM_blocks
        (fun i => do
          let element ← field.getIndex i
          writeStructures (writeFields plcDatatype) element) plcDatatype.layout
        (fun i leaves visit => by
          cases reached : field.getIndex i with
          | error e => simp [reached] at visit
          | ok element =>
            simp only [reached] at visit
            cases element with
            | list items => cases visit
            | _ => exact ihNested visit) hereVisited
      obtain ⟨afterLength, afterWritten⟩ := ih afterVisited
      simp only [List.length_range] at hereLength hereWritten
      refine ⟨by rw [List.length_append, layout, List.length_append, hereLength, afterLength], ?_⟩
      rw [layout, List.zip_append hereLength.symm, concatM_append, ← afterWritten, ← hereWritten,
        writeFields]
      simp only [found, bind, Except.bind]

/-- The items a list of dictionaries consists of, with their values. -/
def slotItems (structureDef : StructureDef) (count : Nat) (leaves : List PyVal) : List (Slot × PyVal) :=
  (List.replicate count structureDef.layout).flatten.zip leaves

theorem bytesFromDict_visit (visited : concatM (visitFields structureDef) values = .ok leaves) :
    leaves.length = (List.replicate values.length structureDef.layout).flatten.length ∧
      bytesFromDict (.list values) structureDef =
        concatM writeSlot (slotItems structureDef values.length leaves) :=
  concatM_blocks _ _ (fun _ _ visited => writeFields_visit visited) visited

theorem elementAt_unwrapSingle (values : List PyVal) (inside : i < values.length) :
    elementAt values.length (unwrapSingle values.length values) i = .ok values[i] := by
  match values with
  | [] => simp at inside
  | [value] =>
    have first : i = 0 := by simpa using inside
    subst first
    rfl
  | first :: second :: rest =>
    have inside' : i < rest.length + 1 + 1 := inside
    have many : rest.length + 1 + 1 > 1 := by omega
    simp [elementAt, unwrapSingle, many, PyVal.getIndex, inside']

theorem getIndex_unwrapSingle (values : List PyVal) (many : values.length ≠ 1)
    (inside : i < values.length) :
    (unwrapSingle values.length values).getIndex i = .ok values[i] := by
  match values with
  | [] => simp at inside
  | [value] => exact absurd rfl many
  | first :: second :: rest =>
    have inside' : i < rest.length + 1 + 1 := inside
    simp [unwrapSingle, PyVal.getIndex, inside']

theorem visit_elements (values : List PyVal) :
    concatM (fun i => (elementAt values.length (unwrapSingle values.length values) i).map ([·]))
      (List.range values.length) = .ok values := by
  have loop := concatM_range (ε := PyError)
    (fun i => (elementAt values.length (unwrapSingle values.length values) i).map ([·]))
    (values.map ([·])) fun i inside => by
      have inside' : i < values.length := by simpa using inside
      simp [elementAt_unwrapSingle values inside', Except.map]
  rwa [List.length_map, ← List.flatMap_def, List.flatMap_singleton'] at loop

/-- A dictionary that holds the assembled fields leads the walk back to the
values it was assembled from. -/
theorem visitFields_assemble (length : leaves.length = structureDef.layout.length)
    (distinct : structureDef.DistinctNames) (plural : structureDef.NoSingleNested)
    (entries : Entries)
    (holds : ∀ field ∈ structureDef.assemble leaves, OrderedDict.lookup field.1 entries = some field.2) :
    visitFields structureDef (.dict entries) = .ok leaves := by
  induction structureDef generalizing leaves entries with
  | nil =>
    have empty : leaves = [] := by simpa [layout] using length
    simp [visitFields, empty]
  | item var plcDatatype size strLen rest ih =>
    rw [length_layout_item] at length
    have hereLength : (leaves.take size).length = size := by simp only [List.length_take]; omega
    have field := holds (var, unwrapSingle size (leaves.take size)) (by simp [assemble])
    have behind : (leaves.drop size).length = rest.layout.length := by simp only [List.length_drop]; omega
    have after := ih behind distinct.2 plural entries fun other member => holds other (List.mem_cons_of_mem _ member)
    have loop := visit_elements (leaves.take size)
    rw [hereLength] at loop
    simp only [visitFields, PyVal.getKey, field, bind, Except.bind, loop, after, pure, Except.pure,
      List.take_append_drop]
  | nested var plcDatatype size rest ihNested ih =>
    rw [length_layout_nested] at length
    obtain ⟨many, inner, outer⟩ := plural
    have field := holds (var, unwrapSingle size ((groups plcDatatype.layout.length size leaves).map
      fun group => .dict (plcDatatype.assemble group))) (by simp [assemble])
    have behind : (leaves.drop (size * plcDatatype.layout.length)).length = rest.layout.length := by
      simp only [List.length_drop]
      omega
    have after := ih behind distinct.2.2 outer entries
      fun other member => holds other (List.mem_cons_of_mem _ member)
    have loop : concatM (fun i => do
        let element ← (unwrapSingle size ((groups plcDatatype.layout.length size leaves).map
          fun group => .dict (plcDatatype.assemble group))).getIndex i
        visitStructure (visitFields plcDatatype) element) (List.range size) =
          .ok (leaves.take (size * plcDatatype.layout.length)) := by
      have parts := concatM_range (ε := PyError) (fun i => do
        let element ← (unwrapSingle size ((groups plcDatatype.layout.length size leaves).map
          fun group => .dict (plcDatatype.assemble group))).getIndex i
        visitStructure (visitFields plcDatatype) element)
        (groups plcDatatype.layout.length size leaves) fun i inside => by
          have element := getIndex_unwrapSingle (i := i)
            ((groups plcDatatype.layout.length size leaves).map fun group =>
              .dict (plcDatatype.assemble group)) (by simpa using many) (by simpa using inside)
          simp only [List.length_map, length_groups, List.getElem_map] at element
          simp only [element, bind, Except.bind]
          have nonzero : size ≠ 0 := by
            rintro rfl
            simp at inside
          exact ihNested (length_of_mem_groups (by omega) (List.getElem_mem inside)) distinct.1
            (inner.resolve_left nonzero) _ fun other member => OrderedDict.lookup_of_mem
              (by rw [keys_assemble]; exact nodup_names distinct.1) member
      rwa [length_groups, flatten_groups] at parts
    simp only [visitFields, PyVal.getKey, field, bind, Except.bind] at loop ⊢
    simp only [loop, after, pure, Except.pure, List.take_append_drop]

/-- Encoding an assembled dictionary fails if it reaches a nested item of
size 1. -/
theorem noSingleNested_of_writeFields (length : leaves.length = structureDef.layout.length)
    (distinct : structureDef.DistinctNames) (entries : Entries)
    (holds : ∀ field ∈ structureDef.assemble leaves, OrderedDict.lookup field.1 entries = some field.2)
    (written : writeFields structureDef (.dict entries) = .ok bytes) :
    structureDef.NoSingleNested := by
  induction structureDef generalizing leaves entries bytes with
  | nil => trivial
  | item var plcDatatype size strLen rest ih =>
    rw [length_layout_item] at length
    have field := holds (var, unwrapSingle size (leaves.take size)) (by simp [assemble])
    simp only [writeFields, PyVal.getKey, field, bind, Except.bind] at written
    split at written
    · cases written
    split at written
    · cases written
    rename_i after
    have behind : (leaves.drop size).length = rest.layout.length := by simp only [List.length_drop]; omega
    exact ih behind distinct.2 entries
      (fun other member => holds other (List.mem_cons_of_mem _ member)) after
  | nested var plcDatatype size rest ihNested ih =>
    rw [length_layout_nested] at length
    have field := holds (var, unwrapSingle size ((groups plcDatatype.layout.length size leaves).map
      fun group => .dict (plcDatatype.assemble group))) (by simp [assemble])
    simp only [writeFields, PyVal.getKey, field, bind, Except.bind] at written
    split at written
    · cases written
    rename_i here hereWritten
    split at written
    · cases written
    rename_i after
    have behind : (leaves.drop (size * plcDatatype.layout.length)).length = rest.layout.length := by
      simp only [List.length_drop]
      omega
    have outer := ih behind distinct.2.2 entries
      (fun other member => holds other (List.mem_cons_of_mem _ member)) after
    have rounds := concatM_ok_iff.mp ⟨here, hereWritten⟩
    have many : size ≠ 1 := by
      rintro rfl
      obtain ⟨bytes, first⟩ := rounds 0 (by simp)
      simp [groups, unwrapSingle, PyVal.getIndex] at first
    refine ⟨many, ?_, outer⟩
    by_cases empty : size = 0
    · exact Or.inl empty
    · right
      have inside : 0 < (groups plcDatatype.layout.length size leaves).length := by
        rw [length_groups]
        omega
      have element := getIndex_unwrapSingle (i := 0)
        ((groups plcDatatype.layout.length size leaves).map fun group =>
          .dict (plcDatatype.assemble group)) (by simpa using many) (by simpa using inside)
      obtain ⟨bytes, first⟩ := rounds 0 (List.mem_range.mpr (by omega))
      simp only [List.length_map, length_groups, List.getElem_map] at element
      simp only [element] at first
      exact ihNested (length_of_mem_groups (by omega) (List.getElem_mem inside)) distinct.1 _
        (fun other member => OrderedDict.lookup_of_mem
          (by rw [keys_assemble]; exact nodup_names distinct.1) member) first

end PyAds
