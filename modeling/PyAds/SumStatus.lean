import PyAds.SumReadItems

/-! The status words of a sum response. Each item's entry depends on its own
status and its own data, as long as every status is found in the table of
error codes; one that is missing there raises and discards all entries. -/
namespace PyAds
open Fallible

/-- The status word of item `index`. -/
def statusWord (sumResponse : Bytes) (index : Nat) : Nat :=
  LittleEndian.toNat ((sumResponse.drop (index * 4)).take 4)

/-- A status with a text. -/
def Known (status : Nat) : Prop := ∃ text, ERROR_CODES status = some text

theorem unpackUInt32_statusWord (inside : index * 4 + 4 ≤ sumResponse.length) :
    unpackUInt32 sumResponse (index * 4) = .ok (statusWord sumResponse index) :=
  if_pos inside

@[simp] theorem length_responseBuffer (responseSize : Nat) (reply : Bytes) :
    (responseBuffer responseSize reply).length = responseSize := by
  simp [responseBuffer]

theorem errorText_eq_ok : errorText status = .ok value ↔
    ∃ text, ERROR_CODES status = some text ∧ value = .str (Text.ofChars text.toList) := by
  unfold errorText
  cases ERROR_CODES status <;> simp [eq_comm]

/-! ## Reading -/

theorem le_offset_of_mem_placed (member : item ∈ placed items index offset) : offset ≤ item.offset := by
  induction items generalizing index offset with
  | nil => cases member
  | cons head items ih =>
    obtain ⟨dataName, symbol⟩ := head
    rcases List.mem_cons.mp member with rfl | member
    · exact Nat.le_refl _
    · have later := ih member
      omega

theorem PlacedItem.entry_eq (inside : item.index * 4 + 4 ≤ sumResponse.length) :
    PlacedItem.entry structuredDataNames sumResponse item =
      if statusWord sumResponse item.index ≠ 0 then errorText (statusWord sumResponse item.index)
      else readItem (item.dataName ∈ structuredDataNames) item.symbol sumResponse item.offset := by
  rw [PlacedItem.entry, sumReadEntry, unpackUInt32_statusWord inside]
  rfl

/-- What a sum read returns if no status disturbs another item: an entry for
each name and, for its last occurrence, the value in the data of the item or
the text of its status. -/
structure ReadIsolated (structuredDataNames dataNames : List String) (items : List PlacedItem)
    (sumResponse : Bytes) (result : OrderedDict String PyVal) : Prop where
  keys : ∀ name, name ∈ result.keys ↔ name ∈ dataNames
  value : ∀ earlier item later, items = earlier ++ item :: later →
    item.dataName ∉ later.map (·.dataName) → statusWord sumResponse item.index = 0 →
    ∃ value, readItem (item.dataName ∈ structuredDataNames) item.symbol
        (sumResponse.drop (4 * dataNames.length)) (item.offset - 4 * dataNames.length) = .ok value ∧
      result.get? item.dataName = some value
  failed : ∀ earlier item later, items = earlier ++ item :: later →
    item.dataName ∉ later.map (·.dataName) → statusWord sumResponse item.index ≠ 0 →
    ∃ text, ERROR_CODES (statusWord sumResponse item.index) = some text ∧
      result.get? item.dataName = some (.str (Text.ofChars text.toList))

/-- The response to a sum read of these symbols. -/
def readResponse (symbols : List SAdsSymbolEntry) (reply : Bytes) : Bytes :=
  responseBuffer (4 * symbols.length + (symbols.map (·.size.toNat)).sum) reply

theorem adsSumRead_eq_ok {dataNames : List String} (found : dataNames.mapM (symbolOf dataSymbols) = .ok symbols) :
    adsSumRead (fun _ => .ok reply) dataNames dataSymbols structuredDataNames = .ok result ↔
      ∃ values, (placed (dataNames.zip symbols) 0 (4 * dataNames.length)).mapM
          (·.entry structuredDataNames (readResponse symbols reply)) = .ok values ∧
        (OrderedDict.fromKeys dataNames PyVal.none).setAll (dataNames.zip values) = result := by
  have length := (mapM_eq_ok.mp found).length_eq
  have names : (dataNames.zip symbols).map Prod.fst = dataNames := List.map_fst_zip length.le
  have total : (symbols.map (·.request)).map (fun request => request.size.toNat) =
      symbols.map (·.size.toNat) := by
    rw [List.map_map]
    rfl
  simp only [adsSumRead, found, adsSumReadBytes, bind, Except.bind, pure, Except.pure, List.length_map,
    total, sumReadLoop_eq_ok, names]
  rfl

section Reading
variable {dataNames structuredDataNames : List String} {dataSymbols : DataSymbols}
  {symbols : List SAdsSymbolEntry} {reply : Bytes}

private theorem index_lt (member : item ∈ placed (dataNames.zip symbols) 0 offset) : item.index < dataNames.length := by
  have index := List.mem_map_of_mem (f := (·.index)) member
  rw [map_index_placed, List.mem_range'_1, List.length_zip] at index
  omega

private theorem inside_response (symbols : List SAdsSymbolEntry) (reply : Bytes) (index : Nat)
    (before : index < symbols.length) : index * 4 + 4 ≤ (readResponse symbols reply).length := by
  rw [readResponse, length_responseBuffer]
  omega

theorem readIsolated_of_entries (found : dataNames.mapM (symbolOf dataSymbols) = .ok symbols)
    (entries : (placed (dataNames.zip symbols) 0 (4 * dataNames.length)).mapM
      (·.entry structuredDataNames (readResponse symbols reply)) = .ok values) :
    ReadIsolated structuredDataNames dataNames (placed (dataNames.zip symbols) 0 (4 * dataNames.length))
      (readResponse symbols reply)
      ((OrderedDict.fromKeys dataNames PyVal.none).setAll (dataNames.zip values)) := by
  have length := (mapM_eq_ok.mp found).length_eq
  have names := map_dataName_placed (dataNames.zip symbols) 0 (4 * dataNames.length)
  rw [List.map_fst_zip length.le] at names
  -- the last occurrence of a name decides its entry
  have last : ∀ earlier item later, placed (dataNames.zip symbols) 0 (4 * dataNames.length) =
      earlier ++ item :: later → item.dataName ∉ later.map (·.dataName) →
      ∃ value, item.entry structuredDataNames (readResponse symbols reply) = .ok value ∧
        ((OrderedDict.fromKeys dataNames PyVal.none).setAll (dataNames.zip values)).get? item.dataName =
          some value := by
    intro earlier item later split fresh
    rw [split, mapM_eq_ok, forall₂_append_left] at entries
    obtain ⟨head, tail, first, rest, rfl⟩ := entries
    obtain ⟨value, tail, here, others, rfl⟩ := List.forall₂_cons_left_iff.mp rest
    refine ⟨value, here, ?_⟩
    rw [← names, split, List.map_append, List.map_cons, List.zip_append (by simpa using first.length_eq),
      List.zip_cons_cons]
    apply OrderedDict.get?_setAll_of_last
    rwa [List.map_fst_zip (by simpa using others.length_eq.le)]
  have placedInside {earlier item later} (split : placed (dataNames.zip symbols) 0 (4 * dataNames.length) =
      earlier ++ item :: later) : item ∈ placed (dataNames.zip symbols) 0 (4 * dataNames.length) := by
    simp [split]
  refine ⟨fun name => ?_, fun earlier item later split fresh zero => ?_,
    fun earlier item later split fresh nonzero => ?_⟩
  · rw [OrderedDict.mem_keys_setAll, OrderedDict.mem_keys_fromKeys, or_iff_left_iff_imp]
    intro member
    obtain ⟨pair, held, rfl⟩ := List.mem_map.mp member
    exact (List.of_mem_zip held).1
  · obtain ⟨value, entry, held⟩ := last earlier item later split fresh
    have before := index_lt (placedInside split)
    have behind := le_offset_of_mem_placed (placedInside split)
    rw [PlacedItem.entry_eq (inside_response symbols reply _ (length ▸ before)), if_neg (by simpa using zero)]
      at entry
    refine ⟨value, ?_, held⟩
    have shifted := readItem_shift (item.dataName ∈ structuredDataNames) item.symbol
      ((readResponse symbols reply).take (4 * dataNames.length))
      ((readResponse symbols reply).drop (4 * dataNames.length)) (item.offset - 4 * dataNames.length)
    have cut : ((readResponse symbols reply).take (4 * dataNames.length)).length = 4 * dataNames.length := by
      rw [List.length_take, readResponse, length_responseBuffer]
      omega
    rw [List.take_append_drop, cut, Nat.add_sub_cancel' behind] at shifted
    exact shifted.symm.trans entry
  · obtain ⟨value, entry, held⟩ := last earlier item later split fresh
    have before := index_lt (placedInside split)
    rw [PlacedItem.entry_eq (inside_response symbols reply _ (length ▸ before)), if_pos nonzero,
      errorText_eq_ok] at entry
    obtain ⟨text, known, rfl⟩ := entry
    exact ⟨text, known, held⟩

/-- A sum read keeps all items apart exactly when each status that is not
zero is known. -/
theorem adsSumRead_isolated_iff (found : dataNames.mapM (symbolOf dataSymbols) = .ok symbols)
    (decodes : ∀ item ∈ placed (dataNames.zip symbols) 0 (4 * dataNames.length),
      statusWord (readResponse symbols reply) item.index = 0 →
      ∃ value, readItem (item.dataName ∈ structuredDataNames) item.symbol (readResponse symbols reply)
        item.offset = .ok value) :
    (∃ result, adsSumRead (fun _ => .ok reply) dataNames dataSymbols structuredDataNames = .ok result ∧
      ReadIsolated structuredDataNames dataNames (placed (dataNames.zip symbols) 0 (4 * dataNames.length))
        (readResponse symbols reply) result) ↔
      ∀ i < dataNames.length, statusWord (readResponse symbols reply) i ≠ 0 →
        Known (statusWord (readResponse symbols reply) i) := by
  have length := (mapM_eq_ok.mp found).length_eq
  have indices := map_index_placed (dataNames.zip symbols) 0 (4 * dataNames.length)
  rw [List.length_zip, ← length, Nat.min_self] at indices
  have returns : (∃ values, (placed (dataNames.zip symbols) 0 (4 * dataNames.length)).mapM
      (·.entry structuredDataNames (readResponse symbols reply)) = .ok values) ↔
      ∀ i < dataNames.length, statusWord (readResponse symbols reply) i ≠ 0 →
        Known (statusWord (readResponse symbols reply) i) := by
    rw [exists_mapM_eq_ok]
    constructor
    · intro each i before nonzero
      have member : i ∈ (placed (dataNames.zip symbols) 0 (4 * dataNames.length)).map (·.index) := by
        rw [indices, List.mem_range'_1]
        omega
      obtain ⟨item, placedItem, rfl⟩ := List.mem_map.mp member
      obtain ⟨value, entry⟩ := each item placedItem
      rw [PlacedItem.entry_eq (inside_response symbols reply _ (length ▸ before)), if_pos nonzero,
        errorText_eq_ok] at entry
      obtain ⟨text, known, -⟩ := entry
      exact ⟨text, known⟩
    · intro known item member
      have before := index_lt member
      rw [PlacedItem.entry_eq (inside_response symbols reply _ (length ▸ before))]
      by_cases zero : statusWord (readResponse symbols reply) item.index = 0
      · rw [if_neg (by simpa using zero)]
        exact decodes item member zero
      · rw [if_pos zero]
        obtain ⟨text, found⟩ := known item.index before zero
        exact ⟨_, errorText_eq_ok.mpr ⟨text, found, rfl⟩⟩
  rw [← returns]
  simp only [adsSumRead_eq_ok found]
  constructor
  · rintro ⟨result, ⟨values, entries, -⟩, -⟩
    exact ⟨values, entries⟩
  · rintro ⟨values, entries⟩
    exact ⟨_, ⟨values, entries, rfl⟩, readIsolated_of_entries found entries⟩

end Reading

/-! ## Writing -/

/-- What a sum write returns if no status disturbs another item: for each name
the text of its own status. -/
structure WriteIsolated (dataNames : List String) (sumResponse : Bytes) (result : OrderedDict String PyVal) :
    Prop where
  keys : result.keys = dataNames
  entry : ∀ i dataName, dataNames[i]? = some dataName →
    ∃ text, ERROR_CODES (statusWord sumResponse i) = some text ∧
      result.get? dataName = some (.str (Text.ofChars text.toList))

theorem adsSumWriteBytes_eq_ok : adsSumWriteBytes (fun _ _ => .ok reply) n buf = .ok texts ↔
    List.Forall₂ (fun i text => errorText (statusWord (responseBuffer (n * 4) reply) i) = .ok text)
      (List.range n) texts := by
  have words : ∀ i ∈ List.range n, (do
      let code ← unpackUInt32 (responseBuffer (n * 4) reply) (i * 4)
      errorText code) = errorText (statusWord (responseBuffer (n * 4) reply) i) := by
    intro i member
    have before := List.mem_range.mp member
    rw [unpackUInt32_statusWord (by rw [length_responseBuffer]; omega)]
    rfl
  rw [← mapM_eq_ok, ← mapM_congr words]
  rfl

/-- A sum write reports all items exactly when each status is known. -/
theorem adsSumWrite_isolated_iff {values : OrderedDict String PyVal}
    (found : values.entries.mapM (writeItemOf dataSymbols) = .ok items)
    (built : sumWriteBuffer structuredDataNames items = .ok buf) :
    (∃ result, adsSumWrite (fun _ _ => .ok reply) values dataSymbols structuredDataNames = .ok result ∧
      WriteIsolated values.keys (responseBuffer (items.length * 4) reply) result) ↔
      ∀ i < values.keys.length, Known (statusWord (responseBuffer (items.length * 4) reply) i) := by
  have length : values.keys.length = items.length := by
    rw [← (mapM_eq_ok.mp found).length_eq, OrderedDict.keys, List.length_map]
  have runs : ∀ result, adsSumWrite (fun _ _ => .ok reply) values dataSymbols structuredDataNames = .ok result ↔
      ∃ texts, adsSumWriteBytes (fun _ _ => .ok reply) items.length buf = .ok texts ∧
        OrderedDict.empty.setAll (values.keys.zip texts) = result := by
    intro result
    simp only [adsSumWrite, bind_eq_ok, found, Except.ok.injEq, exists_eq_left', built, pure, Except.pure]
  simp only [runs, adsSumWriteBytes_eq_ok]
  constructor
  · rintro ⟨result, ⟨texts, each, -⟩, -⟩ i before
    rw [length] at before
    have inside : i < texts.length := by rwa [← each.length_eq, List.length_range]
    have entry := (List.forall₂_iff_get.mp each).2 i (by simpa using before) inside
    obtain ⟨text, known, -⟩ := errorText_eq_ok.mp (by simpa using entry)
    exact ⟨text, known⟩
  · intro known
    have returns : ∃ texts, (List.range items.length).mapM (fun i =>
        errorText (statusWord (responseBuffer (items.length * 4) reply) i)) = .ok texts :=
      exists_mapM_eq_ok.mpr fun i member => by
        obtain ⟨text, found⟩ := known i (length ▸ List.mem_range.mp member)
        exact ⟨_, errorText_eq_ok.mpr ⟨text, found, rfl⟩⟩
    obtain ⟨texts, each⟩ := returns
    rw [mapM_eq_ok] at each
    have same : values.keys.length = texts.length := by rw [length, ← each.length_eq, List.length_range]
    have entries : (OrderedDict.empty.setAll (values.keys.zip texts)).entries = values.keys.zip texts := by
      rw [OrderedDict.entries_setAll_of_nodup]
      · rfl
      · rw [List.map_fst_zip same.le]
        exact values.nodup
    refine ⟨_, ⟨texts, each, rfl⟩, ⟨?_, ?_⟩⟩
    · rw [OrderedDict.keys, entries, List.map_fst_zip same.le]
    · intro i dataName held
      obtain ⟨before, rfl⟩ := List.getElem?_eq_some_iff.mp held
      have entry := (List.forall₂_iff_get.mp each).2 i (by simpa using length ▸ before) (same ▸ before)
      obtain ⟨text, known, written⟩ := errorText_eq_ok.mp (by simpa using entry)
      refine ⟨text, known, OrderedDict.get?_of_mem ?_⟩
      rw [entries, ← written, List.mem_iff_getElem]
      exact ⟨i, by simpa using ⟨before, same ▸ before⟩, by simp⟩

/-- Sum commands keep the items of a request apart, whatever the device
reports for them, exactly when all statuses are known; a read also accepts
zero, which the table of texts holds for a write. -/
theorem sum_statuses_isolated_iff {dataNames : List String} {values : OrderedDict String PyVal}
    (structuredDataNames : List String) (reply : Bytes)
    (found : dataNames.mapM (symbolOf dataSymbols) = .ok symbols)
    (decodes : ∀ item ∈ placed (dataNames.zip symbols) 0 (4 * dataNames.length),
      statusWord (readResponse symbols reply) item.index = 0 →
      ∃ value, readItem (item.dataName ∈ structuredDataNames) item.symbol (readResponse symbols reply)
        item.offset = .ok value)
    (writable : values.entries.mapM (writeItemOf dataSymbols) = .ok items)
    (built : sumWriteBuffer structuredDataNames items = .ok buf) :
    ((∃ result, adsSumRead (fun _ => .ok reply) dataNames dataSymbols structuredDataNames = .ok result ∧
      ReadIsolated structuredDataNames dataNames (placed (dataNames.zip symbols) 0 (4 * dataNames.length))
        (readResponse symbols reply) result) ↔
      ∀ i < dataNames.length, statusWord (readResponse symbols reply) i ≠ 0 →
        Known (statusWord (readResponse symbols reply) i)) ∧
    ((∃ result, adsSumWrite (fun _ _ => .ok reply) values dataSymbols structuredDataNames = .ok result ∧
      WriteIsolated values.keys (responseBuffer (items.length * 4) reply) result) ↔
      ∀ i < values.keys.length, Known (statusWord (responseBuffer (items.length * 4) reply) i)) :=
  ⟨adsSumRead_isolated_iff found decodes, adsSumWrite_isolated_iff writable built⟩

/-- Two counters of two bytes. -/
def counters : DataSymbols where
  entries := [("first", ⟨16448, 0, 2, 2, ['I', 'N', 'T']⟩), ("second", ⟨16448, 2, 2, 2, ['I', 'N', 'T']⟩)]
  nodup := by decide

def counterValues : OrderedDict String PyVal := ⟨[("first", .int 5), ("second", .int 6)], by decide⟩

/-- The first counter is read, the second reports that it is not supported. -/
theorem counters_isolated :
    (∃ result, adsSumRead (fun _ => .ok [0, 0, 0, 0, 1, 7, 0, 0, 5, 0]) ["first", "second"] counters [] =
        .ok result ∧
      ReadIsolated [] ["first", "second"] (placed (["first", "second"].zip [⟨16448, 0, 2, 2, ['I', 'N', 'T']⟩,
        ⟨16448, 2, 2, 2, ['I', 'N', 'T']⟩]) 0 8)
        (readResponse [⟨16448, 0, 2, 2, ['I', 'N', 'T']⟩, ⟨16448, 2, 2, 2, ['I', 'N', 'T']⟩]
          [0, 0, 0, 0, 1, 7, 0, 0, 5, 0]) result) ∧
    ∃ result, adsSumWrite (fun _ _ => .ok [0, 0, 0, 0, 1, 7, 0, 0, 5, 0]) counterValues counters [] = .ok result ∧
      WriteIsolated ["first", "second"] (responseBuffer 8 [0, 0, 0, 0, 1, 7, 0, 0, 5, 0]) result := by
  have unsupported : ERROR_CODES 1793 = some "Service is not supported by server" := by decide +kernel
  have found : ["first", "second"].mapM (symbolOf counters) = .ok _ := rfl
  have writable : counterValues.entries.mapM (writeItemOf counters) = .ok _ := rfl
  have both := sum_statuses_isolated_iff [] [0, 0, 0, 0, 1, 7, 0, 0, 5, 0] found ?_ writable rfl
  · refine ⟨both.1.mpr ?_, both.2.mpr ?_⟩
    · intro i before nonzero
      match i, before with
      | 0, _ => exact absurd rfl nonzero
      | 1, _ => exact ⟨_, unsupported⟩
    · intro i before
      match i, before with
      | 0, _ => exact ⟨_, errorCode_zero⟩
      | 1, _ => exact ⟨_, unsupported⟩
  · intro item member zero
    rcases List.mem_cons.mp member with rfl | member
    · exact ⟨_, rfl⟩
    · obtain rfl := List.mem_singleton.mp member
      exact absurd zero (by decide)

/-- A status that the table lacks discards the counter that was read. -/
theorem counters_unknown_status :
    ¬ (∃ result, adsSumRead (fun _ => .ok [0, 0, 0, 0, 0x45, 0x23, 1, 0, 5, 0]) ["first", "second"]
      counters [] = .ok result) ∧
    ¬ ∃ result, adsSumWrite (fun _ _ => .ok [0, 0, 0, 0, 0x45, 0x23, 1, 0]) counterValues counters [] =
      .ok result := by
  have read : (adsSumRead (fun _ => .ok [0, 0, 0, 0, 0x45, 0x23, 1, 0, 5, 0]) ["first", "second"]
      counters []).toBool = false := by decide +kernel
  have written : (adsSumWrite (fun _ _ => .ok [0, 0, 0, 0, 0x45, 0x23, 1, 0]) counterValues counters
      []).toBool = false := by decide +kernel
  constructor
  · rintro ⟨result, returned⟩
    simp [returned, Except.toBool] at read
  · rintro ⟨result, returned⟩
    simp [returned, Except.toBool] at written

end PyAds
