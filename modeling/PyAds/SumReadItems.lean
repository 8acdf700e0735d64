import PyAds.SumCommands

/-! What the loop of a sum read does with one item. The value of an item
depends on its symbol and on the bytes of its own slot; neither the position
of the slot nor what surrounds it matters. -/
namespace PyAds
open Fallible

namespace TextCoding

theorem nullIdx_le (found : nullIdx coding data = .ok index) : index ≤ data.length := by
  cases coding with
  | utf8 =>
    simp only [nullIdx] at found
    split at found
    · rename_i position first
      cases found
      exact (List.findIdx?_eq_some_iff_getElem.mp first).1.le
    · cases found
  | utf16 =>
    simp only [nullIdx] at found
    split at found
    · rename_i position first
      cases found
      obtain ⟨seq, rest, rfl, rfl, -, -⟩ := before_terminator first
      simp only [List.length_append, Text.Utf16.length_flatMap_unitBytes]
      omega
    · cases found

end TextCoding

/-! ## Position -/

theorem readText_shift (coding : TextCoding) (before data : Bytes) (start stop : Nat) :
    readText coding (before ++ data) (before.length + start) (before.length + stop) =
      readText coding data start stop := by
  simp only [readText, List.take_length_add_append, List.drop_length_add_append]

theorem structUnpackFrom_shift (fmt : StructFormat) (before data : Bytes) (offset : Nat) :
    structUnpackFrom fmt (before ++ data) (before.length + offset) = structUnpackFrom fmt data offset := by
  simp only [structUnpackFrom, List.length_append, Nat.add_assoc, Nat.add_le_add_iff_left,
    List.drop_length_add_append]

private theorem elementOffset_nonneg {size : Nat} {elementSize : Int} {j : Nat}
    (inside : j < (Int.tdiv size elementSize).toNat) : 0 ≤ elementSize * j := by
  by_cases positive : 0 ≤ elementSize
  · exact Int.mul_nonneg positive (Int.natCast_nonneg j)
  · have negative : Int.tdiv size elementSize ≤ 0 :=
      Int.tdiv_nonpos_of_nonneg_of_nonpos (Int.natCast_nonneg size) (by omega)
    omega

/-- What precedes the data of an item makes no difference. -/
theorem readItem_shift (structured : Bool) (symbol : SAdsSymbolEntry) (before data : Bytes) (offset : Nat) :
    readItem structured symbol (before ++ data) (before.length + offset) =
      readItem structured symbol data offset := by
  unfold readItem
  cases itemKind structured symbol with
  | error e => rfl
  | ok kind =>
    simp only [bind, Except.bind]
    cases kind with
    | structured => simp only [List.drop_length_add_append]
    | texts coding elementSize =>
      have same : (List.range (Int.tdiv symbol.size.toNat elementSize).toNat).mapM (fun (j : Nat) =>
          readText coding (before ++ data) ((before.length + offset : Nat) + elementSize * j).toNat
            (before.length + offset + symbol.size.toNat)) =
          (List.range (Int.tdiv symbol.size.toNat elementSize).toNat).mapM fun (j : Nat) =>
            readText coding data (offset + elementSize * j).toNat (offset + symbol.size.toNat) :=
        mapM_congr fun j member => by
          have forward := elementOffset_nonneg (List.mem_range.mp member)
          have start : ((before.length + offset : Nat) + elementSize * j).toNat =
              before.length + (offset + elementSize * j).toNat := by omega
          rw [start, Nat.add_assoc, readText_shift]
      simp only [same]
    | text coding => simp only [Nat.add_assoc, readText_shift]
    | array ctype count =>
      simp only [List.length_append, Nat.add_assoc, Nat.add_le_add_iff_left, structUnpackFrom_shift]
    | scalar ctype => simp only [structUnpackFrom_shift]

/-! ## Extent -/

/-- The size of a number is at least that of its type. -/
def HoldsElement (structured : Bool) (symbol : SAdsSymbolEntry) : Prop :=
  ∀ ctype, itemKind structured symbol = .ok (.scalar ctype) → ctype.sizeof ≤ symbol.size.toNat

instance : Decidable (HoldsElement structured symbol) :=
  decidable_of_iff ((match itemKind structured symbol with
      | .ok (.scalar ctype) => decide (ctype.sizeof ≤ symbol.size.toNat)
      | _ => true) = true) <| by
    unfold HoldsElement
    cases itemKind structured symbol with
    | error e => simp
    | ok kind => cases kind <;> simp

theorem readText_window (coding : TextCoding) (data after : Bytes) (start : Nat) :
    readText coding (data ++ after) start data.length = readText coding data start data.length := by
  simp only [readText, List.take_left, List.take_length, bind, Except.bind]
  cases found : coding.nullIdx (data.drop start) with
  | error e => rfl
  | ok index =>
    have inside := TextCoding.nullIdx_le found
    rw [List.length_drop] at inside
    by_cases early : start ≤ data.length
    · have same : (data.drop start ++ after).take index = (data.drop start).take index :=
        List.take_append_of_le_length (by simp only [List.length_drop]; omega)
      simp only [List.drop_append_of_le_length early, same]
    · have none_ : index = 0 := by omega
      simp [none_]

theorem structUnpackFrom_window (fmt : StructFormat) (data after : Bytes)
    (inside : offset + fmt.size ≤ data.length) :
    structUnpackFrom fmt (data ++ after) offset = structUnpackFrom fmt data offset := by
  have within : offset + fmt.size ≤ (data ++ after).length := by
    rw [List.length_append]
    omega
  rw [structUnpackFrom, structUnpackFrom, if_pos inside, if_pos within,
    List.drop_append_of_le_length (by omega),
    List.take_append_of_le_length (by simp only [List.length_drop]; omega)]

/-- What follows the data of an item makes no difference. -/
theorem readItem_window (holds : HoldsElement structured symbol) (whole : data.length = symbol.size.toNat)
    (after : Bytes) : readItem structured symbol (data ++ after) 0 = readItem structured symbol data 0 := by
  unfold readItem
  cases kind : itemKind structured symbol with
  | error e => rfl
  | ok item =>
    simp only [bind, Except.bind, Nat.zero_add, List.drop_zero, Nat.cast_zero, Int.zero_add, ← whole]
    cases item with
    | structured => simp
    | texts coding elementSize => simp only [readText_window]
    | text coding => simp only [readText_window]
    | array ctype count =>
      have inside : count * ctype.sizeof ≤ data.length := by
        rw [(itemKind_array kind).1, whole]
        exact Nat.div_mul_le_self ..
      have within : count * ctype.sizeof ≤ (data ++ after).length := by
        rw [List.length_append]
        omega
      have same : (List.range count).mapM (fun i =>
          structUnpackFrom ctype.format (data ++ after) (i * ctype.sizeof)) =
          (List.range count).mapM fun i => structUnpackFrom ctype.format data (i * ctype.sizeof) :=
        mapM_congr fun i member => by
          have before := List.mem_range.mp member
          have step : i * ctype.sizeof + ctype.sizeof ≤ count * ctype.sizeof := by
            rw [← Nat.succ_mul]
            exact Nat.mul_le_mul_right _ before
          exact structUnpackFrom_window _ _ _ (by rw [CType.size_format]; omega)
      simp only [inside, within, same]
    | scalar ctype =>
      have fits := holds ctype kind
      exact structUnpackFrom_window _ _ _ (by rw [CType.size_format]; omega)

/-! ## The loop -/

/-- An item with its number and the offset of its data. -/
structure PlacedItem where
  dataName : String
  symbol : SAdsSymbolEntry
  index : Nat
  offset : Nat

def placed : List (String × SAdsSymbolEntry) → Nat → Nat → List PlacedItem
  | [], _, _ => []
  | (dataName, symbol) :: items, index, offset =>
    ⟨dataName, symbol, index, offset⟩ :: placed items (index + 1) (offset + symbol.size.toNat)

theorem map_dataName_placed (items : List (String × SAdsSymbolEntry)) (index offset : Nat) :
    (placed items index offset).map (·.dataName) = items.map Prod.fst := by
  induction items generalizing index offset with
  | nil => rfl
  | cons item items ih => simp [placed, ih]

theorem map_index_placed (items : List (String × SAdsSymbolEntry)) (index offset : Nat) :
    (placed items index offset).map (·.index) = List.range' index items.length := by
  induction items generalizing index offset with
  | nil => rfl
  | cons item items ih => simp [placed, ih, List.range'_succ]

def PlacedItem.entry (structuredDataNames : List String) (sumResponse : Bytes) (item : PlacedItem) :
    Result PyVal :=
  sumReadEntry structuredDataNames item.dataName item.symbol sumResponse item.index item.offset

/-- The loop assigns the entries of all items, in order, or fails with the
first entry that fails. -/
theorem sumReadLoop_eq_ok : sumReadLoop structuredDataNames sumResponse items index offset result = .ok final ↔
    ∃ values, (placed items index offset).mapM (·.entry structuredDataNames sumResponse) = .ok values ∧
      result.setAll ((items.map Prod.fst).zip values) = final := by
  induction items generalizing index offset result with
  | nil => simp [sumReadLoop, placed, pure, Except.pure, OrderedDict.setAll]
  | cons item items ih =>
    obtain ⟨dataName, symbol⟩ := item
    simp only [sumReadLoop, placed, bind_eq_ok, ih, List.mapM_cons, pure, Except.pure, Except.ok.injEq]
    constructor
    · rintro ⟨value, entry, values, rest, same⟩
      exact ⟨_, ⟨value, entry, values, rest, rfl⟩, same⟩
    · rintro ⟨_, ⟨value, entry, values, rest, rfl⟩, same⟩
      exact ⟨value, entry, values, rest, same⟩

end PyAds
