import PyAds.Connection
import PyAds.SumReplies

/-! Splitting a list read. Against a fixed memory each item has a result of
its own, which follows from its name; a sum read returns these results under
their names, and merging slices is the same as reading all names at once. -/
namespace PyAds
open Fallible SlotSequence

/-! ## Slices -/

theorem flatten_listSliceGenerator (positive : 0 < size) (list_ : List α) :
    ∃ slices, listSliceGenerator list_ size = .ok slices ∧ slices.flatten = list_ := by
  refine ⟨_, if_neg (by omega), ?_⟩
  have enough : list_.length ≤ (list_.length + size - 1) / size * size := by
    have division := Nat.div_add_mod (list_.length + size - 1) size
    have remainder := Nat.mod_lt (list_.length + size - 1) positive
    rw [Nat.mul_comm] at division
    omega
  rw [flatten_groups, List.take_of_length_le enough]

/-- The slices a list is read or written in. -/
def slicesOf (list_ : List α) (size : Nat) : List (List α) :=
  if list_.length ≤ size then [list_] else groups size ((list_.length + size - 1) / size) list_

theorem slicesOf_map (f : α → β) (list_ : List α) (size : Nat) :
    slicesOf (list_.map f) size = (slicesOf list_ size).map (List.map f) := by
  unfold slicesOf
  rw [List.length_map]
  split
  · rfl
  · exact groups_map ..

theorem flatten_slicesOf (positive : 0 < size) (list_ : List α) : (slicesOf list_ size).flatten = list_ := by
  unfold slicesOf
  split
  · exact List.flatten_singleton
  · obtain ⟨slices, sliced, whole⟩ := flatten_listSliceGenerator positive list_
    rw [listSliceGenerator, if_neg (by omega)] at sliced
    cases sliced
    exact whole

/-! ## The structure stage -/

/-- What becomes of the entry of a name after a sum read. -/
def decodeEntry (structureDefs : List (String × StructureDef)) (dataName : String) (value : PyVal) :
    Result PyVal :=
  match OrderedDict.lookup dataName structureDefs with
  | some structureDef => decodeStructure value structureDef
  | none => .ok value

private theorem decodeEntry_cons_self (structureDef : StructureDef) :
    decodeEntry ((dataName, structureDef) :: structureDefs) dataName value = decodeStructure value structureDef := by
  simp [decodeEntry, OrderedDict.lookup]

private theorem decodeEntry_cons_of_ne {structureDef : StructureDef} (ne : dataName ≠ other) :
    decodeEntry ((dataName, structureDef) :: structureDefs) other value =
      decodeEntry structureDefs other value := by
  simp [decodeEntry, OrderedDict.lookup, ne]

/-- The structure stage keeps the keys and decodes each entry. -/
theorem decodeStructures_eq_ok {structureDefs : List (String × StructureDef)}
    (nodup : (structureDefs.map Prod.fst).Nodup) :
    decodeStructures structureDefs result = .ok final ↔ final.keys = result.keys ∧
      ∀ dataName value, result.get? dataName = some value →
        ∃ decoded, decodeEntry structureDefs dataName value = .ok decoded ∧ final.get? dataName = some decoded := by
  induction structureDefs generalizing result with
  | nil =>
    simp only [decodeStructures, Except.ok.injEq]
    constructor
    · rintro rfl
      exact ⟨rfl, fun _ value found => ⟨value, rfl, found⟩⟩
    · rintro ⟨keys, values⟩
      refine OrderedDict.ext_get? keys.symm fun dataName => ?_
      cases found : result.get? dataName with
      | some value =>
        obtain ⟨decoded, same, held⟩ := values dataName value found
        cases same
        exact held.symm
      | none =>
        rw [OrderedDict.get?_eq_none_iff, ← keys, ← OrderedDict.get?_eq_none_iff] at found
        exact found.symm
  | cons entry structureDefs ih =>
    obtain ⟨here, structureDef⟩ := entry
    obtain ⟨fresh, distinct⟩ := List.nodup_cons.mp nodup
    rw [decodeStructures]
    cases present : result.get? here with
    | none =>
      simp only [ih distinct]
      refine and_congr_right fun _ => forall_congr' fun dataName => forall_congr' fun value => ?_
      apply imp_congr_right
      intro found
      have ne : here ≠ dataName := by
        rintro rfl
        cases present.symm.trans found
      rw [decodeEntry_cons_of_ne ne]
    | some value =>
      have keys (decoded : PyVal) : (result.set here decoded).keys = result.keys := by
        have member : here ∈ result.keys := by
          by_contra absent
          cases present.symm.trans (OrderedDict.get?_eq_none_iff.mpr absent)
        rw [OrderedDict.keys_set, OrderedDict.addKey, if_pos member]
      simp only [bind_eq_ok, ih distinct, keys]
      constructor
      · rintro ⟨decoded, first, sameKeys, rest⟩
        refine ⟨sameKeys, fun dataName other found => ?_⟩
        by_cases same : here = dataName
        · subst same
          cases present.symm.trans found
          obtain ⟨_, again, held⟩ := rest here decoded (by simp)
          have final_ : decodeEntry structureDefs here decoded = .ok decoded := by
            simp only [decodeEntry, OrderedDict.lookup_eq_none_iff.mpr fresh]
          cases final_.symm.trans again
          exact ⟨decoded, (decodeEntry_cons_self structureDef).trans first, held⟩
        · rw [decodeEntry_cons_of_ne same]
          exact rest dataName other (by simp [same, found])
      · rintro ⟨sameKeys, each⟩
        obtain ⟨decoded, first, held⟩ := each here value present
        rw [decodeEntry_cons_self] at first
        refine ⟨decoded, first, sameKeys, fun dataName other found => ?_⟩
        by_cases same : here = dataName
        · subst same
          simp only [OrderedDict.get?_set, ↓reduceIte, Option.some.injEq] at found
          subst found
          refine ⟨decoded, ?_, held⟩
          simp only [decodeEntry, OrderedDict.lookup_eq_none_iff.mpr fresh]
        · simp only [OrderedDict.get?_set, same, ↓reduceIte] at found
          have later := each dataName other found
          rwa [decodeEntry_cons_of_ne same] at later

/-! ## Dictionaries of results -/

/-- Each name has its own result, however often it is listed. -/
theorem dictOf_eq_ok {f : String → Result β} {dataNames : List String} : dictOf f dataNames = .ok result ↔
    result.keys = dataNames.foldl OrderedDict.addKey [] ∧
      ∀ dataName ∈ dataNames, ∃ value, f dataName = .ok value ∧ result.get? dataName = some value := by
  have known {values : List β} (mapped : dataNames.mapM f = .ok values) {dataName : String} {value : β}
      (found : OrderedDict.lookup dataName (dataNames.zip values).reverse = some value) : f dataName = .ok value :=
    List.forall₂_zip (mapM_eq_ok.mp mapped) (List.mem_reverse.mp (OrderedDict.mem_of_lookup found))
  constructor
  · intro built
    obtain ⟨values, mapped, same⟩ := bind_eq_ok.mp built
    cases same
    have names : (dataNames.zip values).map Prod.fst = dataNames :=
      List.map_fst_zip (mapM_eq_ok.mp mapped).length_eq.le
    refine ⟨by rw [OrderedDict.keys_setAll, names, OrderedDict.keys_empty], fun dataName member => ?_⟩
    rw [OrderedDict.get?_setAll]
    cases found : OrderedDict.lookup dataName (dataNames.zip values).reverse with
    | none =>
      rw [OrderedDict.lookup_eq_none_iff, List.map_reverse, names, List.mem_reverse] at found
      exact absurd member found
    | some value => exact ⟨value, known mapped found, rfl⟩
  · rintro ⟨keys, each⟩
    obtain ⟨values, mapped⟩ := exists_mapM_eq_ok.mpr fun dataName member =>
      (each dataName member).imp fun _ here => here.1
    have names : (dataNames.zip values).map Prod.fst = dataNames :=
      List.map_fst_zip (mapM_eq_ok.mp mapped).length_eq.le
    refine bind_eq_ok.mpr ⟨values, mapped, congrArg Except.ok (OrderedDict.ext_get? ?_ fun dataName => ?_)⟩
    · rw [OrderedDict.keys_setAll, names, OrderedDict.keys_empty, keys]
    · rw [OrderedDict.get?_setAll]
      cases found : OrderedDict.lookup dataName (dataNames.zip values).reverse with
      | none =>
        rw [OrderedDict.lookup_eq_none_iff, List.map_reverse, names, List.mem_reverse] at found
        have absent : dataName ∉ result.keys := by
          rw [keys, OrderedDict.mem_foldl_addKey]
          simpa using found
        exact (OrderedDict.get?_eq_none_iff.mpr absent).symm
      | some value =>
        have member := (List.of_mem_zip (List.mem_reverse.mp (OrderedDict.mem_of_lookup found))).1
        obtain ⟨other, here, held⟩ := each dataName member
        cases (known mapped found).symm.trans here
        exact held.symm

/-! ## A fixed memory -/

/-- A memory answers each request with the requested number of bytes. -/
structure DeviceMemory where
  read : SumRequest → ItemReply
  whole : ∀ request, (read request).data.length = request.size.toNat

namespace DeviceMemory

def reply (memory : DeviceMemory) (requests : List SumRequest) : Result Bytes :=
  .ok (sumReply (requests.map memory.read))

/-- What a sum read stores for a name. -/
def entryOf (memory : DeviceMemory) (dataSymbols : DataSymbols) (structuredDataNames : List String)
    (dataName : String) : Result PyVal := do
  let symbol ← symbolOf dataSymbols dataName
  itemResult (dataName ∈ structuredDataNames) symbol (memory.read symbol.request)

/-- The result of a name in a list read. -/
def resultOf (memory : DeviceMemory) (dataSymbols : DataSymbols) (structureDefs : StructureDefs)
    (dataName : String) : Result PyVal := do
  let value ← memory.entryOf dataSymbols structureDefs.keys dataName
  decodeEntry structureDefs.entries dataName value

private theorem entries_of_replies {memory : DeviceMemory} {dataNames structuredDataNames : List String}
    (found : List.Forall₂ (fun dataName symbol => symbolOf dataSymbols dataName = .ok symbol) dataNames symbols) :
    ((dataNames.zip symbols).zip ((symbols.map (·.request)).map memory.read)).mapM (fun item =>
      itemResult (item.1.1 ∈ structuredDataNames) item.1.2 item.2) =
      dataNames.mapM (memory.entryOf dataSymbols structuredDataNames) := by
  induction found with
  | nil => rfl
  | @cons dataName symbol dataNames symbols here _ ih =>
    have first : memory.entryOf dataSymbols structuredDataNames dataName =
        itemResult (dataName ∈ structuredDataNames) symbol (memory.read symbol.request) := by
      rw [entryOf, here]
      rfl
    rw [List.map_cons, List.map_cons, List.zip_cons_cons, List.zip_cons_cons, List.mapM_cons, List.mapM_cons,
      ih, first]

/-- A sum read stores the result of each name. -/
theorem adsSumRead_eq_ok {memory : DeviceMemory} {dataNames structuredDataNames : List String}
    (holds : ∀ dataName symbol, dataSymbols.get? dataName = some symbol →
      HoldsElement (dataName ∈ structuredDataNames) symbol) :
    adsSumRead memory.reply dataNames dataSymbols structuredDataNames = .ok result ↔
      dictOf (memory.entryOf dataSymbols structuredDataNames) dataNames = .ok result := by
  cases found : dataNames.mapM (symbolOf dataSymbols) with
  | error e =>
    have unread : ¬ ∃ values, dataNames.mapM (memory.entryOf dataSymbols structuredDataNames) = .ok values := by
      rintro ⟨values, mapped⟩
      have each : ∀ dataName ∈ dataNames, ∃ symbol, symbolOf dataSymbols dataName = .ok symbol := by
        intro dataName member
        obtain ⟨value, entry⟩ := exists_mapM_eq_ok.mp ⟨values, mapped⟩ dataName member
        obtain ⟨symbol, known, -⟩ := bind_eq_ok.mp entry
        exact ⟨symbol, known⟩
      obtain ⟨symbols, all⟩ := exists_mapM_eq_ok.mpr each
      cases found.symm.trans all
    constructor
    · intro returned
      simp [adsSumRead, found, bind, Except.bind] at returned
    · intro returned
      obtain ⟨values, mapped, -⟩ := bind_eq_ok.mp returned
      exact absurd ⟨values, mapped⟩ unread
  | ok symbols =>
    have length := (mapM_eq_ok.mp found).length_eq
    have answered : adsSumRead memory.reply dataNames dataSymbols structuredDataNames =
        adsSumRead (fun _ => .ok (sumReply ((symbols.map (·.request)).map memory.read))) dataNames dataSymbols
          structuredDataNames := by
      simp only [adsSumRead, found, adsSumReadBytes, reply, bind, Except.bind]
    have whole : List.Forall₂ (fun (symbol : SAdsSymbolEntry) (reply : ItemReply) =>
        reply.data.length = symbol.size.toNat) symbols ((symbols.map (·.request)).map memory.read) := by
      rw [List.map_map, List.forall₂_map_right_iff, List.forall₂_same]
      exact fun symbol _ => memory.whole symbol.request
    have held : ∀ item ∈ dataNames.zip symbols, HoldsElement (item.1 ∈ structuredDataNames) item.2 :=
      fun item member => holds item.1 item.2
        (symbolOf_eq_ok.mp (List.forall₂_zip (mapM_eq_ok.mp found) member))
    rw [answered, adsSumRead_replies found whole held, entries_of_replies (mapM_eq_ok.mp found), dictOf, bind_eq_ok]
    refine exists_congr fun values => and_congr_right fun mapped => ?_
    rw [OrderedDict.fromKeys_setAll (mapM_eq_ok.mp mapped).length_eq]
    simp only [pure, Except.pure, Except.ok.injEq]

/-- So does the inner `sum_read`. -/
theorem sumRead_eq_ok {memory : DeviceMemory} {dataNames : List String} {structureDefs : StructureDefs}
    (holds : ∀ dataName symbol, dataSymbols.get? dataName = some symbol →
      HoldsElement (dataName ∈ structureDefs.keys) symbol) :
    sumRead memory.reply dataSymbols structureDefs dataNames = .ok result ↔
      dictOf (memory.resultOf dataSymbols structureDefs) dataNames = .ok result := by
  rw [sumRead, bind_eq_ok]
  simp only [adsSumRead_eq_ok holds, decodeStructures_eq_ok structureDefs.nodup, dictOf_eq_ok]
  constructor
  · rintro ⟨first, ⟨keys, entries⟩, sameKeys, decoded⟩
    refine ⟨sameKeys.trans keys, fun dataName member => ?_⟩
    obtain ⟨value, entry, held⟩ := entries dataName member
    obtain ⟨final, stage, found⟩ := decoded dataName value held
    exact ⟨final, bind_eq_ok.mpr ⟨value, entry, stage⟩, found⟩
  · rintro ⟨keys, results⟩
    have read : ∀ dataName ∈ dataNames, ∃ value,
        memory.entryOf dataSymbols structureDefs.keys dataName = .ok value := by
      intro dataName member
      obtain ⟨final, result_, -⟩ := results dataName member
      obtain ⟨value, entry, -⟩ := bind_eq_ok.mp result_
      exact ⟨value, entry⟩
    obtain ⟨values, mapped⟩ := exists_mapM_eq_ok.mpr read
    obtain ⟨sameKeys, entries⟩ := dictOf_eq_ok.mp (bind_eq_ok.mpr ⟨values, mapped, rfl⟩)
    refine ⟨_, ⟨sameKeys, entries⟩, keys.trans sameKeys.symm, fun dataName value held => ?_⟩
    have member : dataName ∈ dataNames := by
      by_contra absent
      have unknown := OrderedDict.get?_eq_none_iff.mpr (show dataName ∉ _ by
        rw [sameKeys, OrderedDict.mem_foldl_addKey]
        simpa using absent)
      cases unknown.symm.trans held
    obtain ⟨final, result_, found⟩ := results dataName member
    obtain ⟨other, entry, stage⟩ := bind_eq_ok.mp result_
    obtain ⟨other', entry', held'⟩ := entries dataName member
    cases held.symm.trans held'
    cases entry.symm.trans entry'
    exact ⟨final, stage, found⟩

end DeviceMemory

/-! ## Splitting -/

/-- Reading slices and merging their dictionaries is reading all names. -/
theorem readSlices_eq_ok {read : Nat → List String → Result (OrderedDict String PyVal)} {f : String → Result PyVal}
    (each : ∀ call dataNames result, read call dataNames = .ok result ↔ dictOf f dataNames = .ok result) :
    readSlices read slices call returnData = .ok final ↔ ∃ values,
      slices.flatten.mapM f = .ok values ∧ returnData.setAll (slices.flatten.zip values) = final := by
  induction slices generalizing call returnData with
  | nil => simp [readSlices, pure, Except.pure, OrderedDict.setAll]
  | cons slice slices ih =>
    rw [readSlices, bind_eq_ok]
    simp only [each, ih, List.flatten_cons]
    constructor
    · rintro ⟨part, built, tail, rest, rfl⟩
      obtain ⟨head, first, same⟩ := bind_eq_ok.mp built
      cases same
      refine ⟨head ++ tail, mapM_eq_ok.mpr (forall₂_append_left.mpr
        ⟨head, tail, mapM_eq_ok.mp first, mapM_eq_ok.mp rest, rfl⟩), ?_⟩
      rw [List.zip_append (mapM_eq_ok.mp first).length_eq, OrderedDict.setAll_append, OrderedDict.update_setAll]
    · rintro ⟨values, mapped, rfl⟩
      obtain ⟨head, tail, first, rest, rfl⟩ := forall₂_append_left.mp (mapM_eq_ok.mp mapped)
      refine ⟨_, bind_eq_ok.mpr ⟨head, mapM_eq_ok.mpr first, rfl⟩, tail, mapM_eq_ok.mpr rest, ?_⟩
      rw [List.zip_append first.length_eq, OrderedDict.setAll_append, OrderedDict.update_setAll]

theorem readList_eq_ok {read : Nat → List String → Result (OrderedDict String PyVal)} {f : String → Result PyVal}
    (each : ∀ call dataNames result, read call dataNames = .ok result ↔ dictOf f dataNames = .ok result)
    (positive : 0 < adsSubCommands) :
    readList read dataNames adsSubCommands = .ok result ↔ dictOf f dataNames = .ok result := by
  unfold readList
  split
  · exact each 0 dataNames result
  · obtain ⟨slices, sliced, whole⟩ := flatten_listSliceGenerator positive dataNames
    rw [sliced]
    exact (readSlices_eq_ok each).trans (by
      rw [whole, dictOf, bind_eq_ok]
      simp only [pure, Except.pure, Except.ok.injEq])

/-- A list read returns the same dictionary, or raises, whatever the number
of sub-commands. -/
theorem read_list_split (memory : DeviceMemory) (adsGetSymbolInfo : String → Result SAdsSymbolEntry)
    (symbolInfoCache : DataSymbols) (dataNames : List String) (cacheSymbolInfo : Bool)
    (structureDefs : StructureDefs) (positive : 0 < adsSubCommands)
    (holds : ∀ dataSymbols cache,
      resolveSymbols adsGetSymbolInfo cacheSymbolInfo symbolInfoCache dataNames = .ok (dataSymbols, cache) →
      ∀ dataName symbol, dataSymbols.get? dataName = some symbol →
        HoldsElement (dataName ∈ structureDefs.keys) symbol) :
    (readListByName ⟨adsGetSymbolInfo, fun _ => memory.reply⟩ symbolInfoCache dataNames cacheSymbolInfo
        adsSubCommands structureDefs).1.toOption =
      (readListByName ⟨adsGetSymbolInfo, fun _ => memory.reply⟩ symbolInfoCache dataNames cacheSymbolInfo
        dataNames.length structureDefs).1.toOption := by
  unfold readListByName
  cases resolved : resolveSymbols adsGetSymbolInfo cacheSymbolInfo symbolInfoCache dataNames with
  | error e => rfl
  | ok both =>
    obtain ⟨dataSymbols, cache⟩ := both
    apply toOption_congr
    intro result
    have whole : readList (fun _ => sumRead memory.reply dataSymbols structureDefs) dataNames dataNames.length =
        sumRead memory.reply dataSymbols structureDefs dataNames := if_pos (Nat.le_refl _)
    exact (readList_eq_ok (fun _ _ _ => DeviceMemory.sumRead_eq_ok (holds dataSymbols cache resolved)) positive).trans
      (whole ▸ DeviceMemory.sumRead_eq_ok (holds dataSymbols cache resolved)).symm

/-- A level, a structure of the same size, and a memory of ones. -/
def gaugeSymbols : DataSymbols where
  entries := [("level", ⟨0x4040, 0, 2, 2, "INT".toList⟩), ("tank", ⟨0x4040, 2, 2, 65, "ST_Tank".toList⟩)]
  nodup := by decide

def onesMemory : DeviceMemory := ⟨fun request => ⟨0, List.replicate request.size.toNat 1⟩, by simp⟩

def tankDefs : StructureDefs := ⟨[("tank", .item "full" (.simple .bool) 2 none .nil)], by decide⟩

theorem gauges_split :
    (readListByName ⟨symbolOf gaugeSymbols, fun _ => onesMemory.reply⟩ OrderedDict.empty ["tank", "level", "tank"]
        true 2 tankDefs).1.toOption =
      (readListByName ⟨symbolOf gaugeSymbols, fun _ => onesMemory.reply⟩ OrderedDict.empty
        ["tank", "level", "tank"] true 3 tankDefs).1.toOption := by
  refine read_list_split onesMemory (symbolOf gaugeSymbols) OrderedDict.empty ["tank", "level", "tank"] true tankDefs
    (by decide) ?_
  intro dataSymbols cache resolved dataName symbol found
  have entries : resolveSymbols (symbolOf gaugeSymbols) true OrderedDict.empty ["tank", "level", "tank"] =
      .ok (⟨[("tank", ⟨0x4040, 2, 2, 65, "ST_Tank".toList⟩), ("level", ⟨0x4040, 0, 2, 2, "INT".toList⟩)],
        by decide⟩, _) := rfl
  cases resolved.symm.trans entries
  have all : ∀ entry ∈ [("tank", (⟨0x4040, 2, 2, 65, "ST_Tank".toList⟩ : SAdsSymbolEntry)),
      ("level", ⟨0x4040, 0, 2, 2, "INT".toList⟩)], HoldsElement (entry.1 ∈ tankDefs.keys) entry.2 := by decide
  exact all (dataName, symbol) (OrderedDict.mem_of_get? found)

end PyAds
