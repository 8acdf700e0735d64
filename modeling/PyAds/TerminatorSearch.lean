import PyAds.PlainRead

/-! The two copies of the loop that looks for the terminator of a WSTRING. Both
go over the odd indices of the buffer and compare two bytes at a time; they
differ in what they do when no index is left. -/
namespace PyAds

/-- `range(1, len(data), 2)` -/
def pairIndices (data : Bytes) : List Nat := List.range' 1 (data.length / 2) 2

/-- `(data[ix - 1], data[ix]) == (0, 0)` -/
def zeroPairAt (data : Bytes) (ix : Nat) : Bool := data[ix - 1]? == some 0 && data[ix]? == some 0

/-- The loop of `find_wstring_null_terminator` over the indices that are left. -/
def findWstringNullTerminatorLoop (data : Bytes) : List Nat → Option Nat
  | [] => none
  | ix :: indices => if zeroPairAt data ix then some (ix - 1) else findWstringNullTerminatorLoop data indices

/-- The loop of `get_value_from_ctype_data` over the indices that are left. -/
def nullIdxLoop (readData : Bytes) : List Nat → Result Nat
  | [] => .error (.valueError "No null-terminator found in buffer")
  | ix :: indices => if zeroPairAt readData ix then .ok (ix - 1) else nullIdxLoop readData indices

/-- A unit of two zero bytes at an even index. -/
def AlignedZeros (data : Bytes) (ix : Nat) : Prop := ix % 2 = 0 ∧ data[ix]? = some 0 ∧ data[ix + 1]? = some 0

/-! ## Both loops are the search on pairs -/

/-- Two bytes in front move every index by two. -/
theorem findWstringNullTerminatorLoop_behind (low high : UInt8) (data : Bytes) {indices : List Nat}
    (odd : ∀ ix ∈ indices, 0 < ix) :
    findWstringNullTerminatorLoop (low :: high :: data) (indices.map (2 + ·)) =
      (findWstringNullTerminatorLoop data indices).map (· + 2) := by
  induction indices with
  | nil => rfl
  | cons ix indices ih =>
    have tail := ih fun other member => odd other (List.mem_cons_of_mem _ member)
    obtain ⟨before, rfl⟩ := Nat.exists_eq_add_of_le' (odd ix (by simp))
    have index : 2 + (before + 1) = before + 1 + 1 + 1 := by omega
    have same : zeroPairAt (low :: high :: data) (2 + (before + 1)) = zeroPairAt data (before + 1) := by
      rw [index]
      rfl
    rw [List.map_cons, findWstringNullTerminatorLoop, findWstringNullTerminatorLoop, same, tail]
    split
    · rw [index]
      rfl
    · rfl

theorem pairIndices_cons (low high : UInt8) (data : Bytes) :
    pairIndices (low :: high :: data) = 1 :: (pairIndices data).map (2 + ·) := by
  have half : (low :: high :: data).length / 2 = data.length / 2 + 1 := by
    simp only [List.length_cons]
    omega
  rw [pairIndices, pairIndices, half, List.range'_succ, List.map_add_range']

theorem pairIndices_pos (data : Bytes) : ∀ ix ∈ pairIndices data, 0 < ix := by
  intro ix member
  obtain ⟨step, -, rfl⟩ := List.mem_range'.mp member
  omega

theorem findWstringNullTerminatorLoop_eq (data : Bytes) :
    findWstringNullTerminatorLoop data (pairIndices data) = findWstringNullTerminator data := by
  induction data using findWstringNullTerminator.induct with
  | case1 low high rest zero =>
    obtain ⟨rfl, rfl⟩ := zero
    rw [pairIndices_cons]
    rfl
  | case2 low high rest nonzero ih =>
    have first : zeroPairAt (low :: high :: rest) 1 = false := by simpa [zeroPairAt] using nonzero
    rw [pairIndices_cons, findWstringNullTerminatorLoop, first, findWstringNullTerminator, if_neg nonzero, ← ih]
    exact findWstringNullTerminatorLoop_behind low high rest (pairIndices_pos rest)
  | case3 data short =>
    rcases data with _ | ⟨low, _ | ⟨high, rest⟩⟩
    · rfl
    · simp [pairIndices, findWstringNullTerminatorLoop, findWstringNullTerminator]
    · exact absurd rfl (short low high rest)

/-- The second copy stops where the first does, and raises where the first
finds nothing. -/
theorem nullIdxLoop_eq (readData : Bytes) (indices : List Nat) :
    nullIdxLoop readData indices =
      match findWstringNullTerminatorLoop readData indices with
      | some index => .ok index
      | none => .error (.valueError "No null-terminator found in buffer") := by
  induction indices with
  | nil => rfl
  | cons ix indices ih =>
    rw [nullIdxLoop, findWstringNullTerminatorLoop, ih]
    split <;> rfl

theorem nullIdxLoop_eq_nullIdx (readData : Bytes) :
    nullIdxLoop readData (pairIndices readData) = TextCoding.utf16.nullIdx readData := by
  rw [nullIdxLoop_eq, findWstringNullTerminatorLoop_eq]
  rfl

theorem getValueFromCtypeData_loop (readData : Bytes) :
    getValueFromCtypeData readData .wstring = (do
      let nullIdx ← nullIdxLoop readData (pairIndices readData)
      let text ← decodeUtf16 (readData.take nullIdx)
      return .value (.str text)) := by
  rw [nullIdxLoop_eq_nullIdx]
  rfl

/-! ## Where the search stops -/

theorem alignedZeros_zero (low high : UInt8) (data : Bytes) :
    AlignedZeros (low :: high :: data) 0 ↔ low = 0 ∧ high = 0 := by
  simp [AlignedZeros]

theorem alignedZeros_behind (low high : UInt8) (data : Bytes) (ix : Nat) :
    AlignedZeros (low :: high :: data) (ix + 2) ↔ AlignedZeros data ix := by
  simp [AlignedZeros]

theorem not_alignedZeros_one (data : Bytes) : ¬ AlignedZeros data 1 := by
  rintro ⟨even, -⟩
  cases even

/-- The search finds the first aligned pair of zeros. -/
theorem findWstringNullTerminator_eq_some_iff :
    findWstringNullTerminator data = some index ↔
      AlignedZeros data index ∧ ∀ before < index, ¬ AlignedZeros data before := by
  induction data using findWstringNullTerminator.induct generalizing index with
  | case1 low high rest zero =>
    have first := (alignedZeros_zero low high rest).mpr zero
    rw [findWstringNullTerminator, if_pos zero, Option.some.injEq]
    constructor
    · rintro rfl
      exact ⟨first, by simp⟩
    · rintro ⟨-, least⟩
      by_contra later
      exact least 0 (by omega) first
  | case2 low high rest nonzero ih =>
    have first : ¬ AlignedZeros (low :: high :: rest) 0 := fun zero => nonzero ((alignedZeros_zero ..).mp zero)
    rw [findWstringNullTerminator, if_neg nonzero, Option.map_eq_some_iff]
    constructor
    · rintro ⟨position, found, rfl⟩
      obtain ⟨zeros, least⟩ := ih.mp found
      refine ⟨(alignedZeros_behind ..).mpr zeros, ?_⟩
      intro before earlier
      rcases before with _ | _ | before
      · exact first
      · exact not_alignedZeros_one _
      · rw [alignedZeros_behind]
        exact least before (by omega)
    · rintro ⟨zeros, least⟩
      rcases index with _ | _ | position
      · exact absurd zeros first
      · exact absurd zeros (not_alignedZeros_one _)
      · refine ⟨position, ih.mpr ⟨(alignedZeros_behind ..).mp zeros, ?_⟩, rfl⟩
        intro before earlier aligned
        exact least (before + 2) (by omega) ((alignedZeros_behind ..).mpr aligned)
  | case3 data short =>
    rcases data with _ | ⟨low, _ | ⟨high, rest⟩⟩
    · simp [findWstringNullTerminator, AlignedZeros]
    · simp [findWstringNullTerminator, AlignedZeros]
    · exact absurd rfl (short low high rest)

theorem findWstringNullTerminator_eq_none (clear : ∀ ix, ¬ AlignedZeros data ix) :
    findWstringNullTerminator data = none := by
  apply Option.eq_none_iff_forall_ne_some.mpr
  intro index found
  exact clear index (findWstringNullTerminator_eq_some_iff.mp found).1

/-- Behind a NUL-free text, whatever follows its terminator, both loops stop at
the terminator and what is before it is the text; without an aligned pair of
zeros the one returns None and the other raises. -/
theorem wstring_terminator_exact :
    (∀ (chars : List Char) (rest : Bytes), '\x00' ∉ chars →
      ∀ data, data = Text.Utf16.encode chars ++ 0 :: 0 :: rest →
        findWstringNullTerminatorLoop data (pairIndices data) = some (Text.Utf16.encode chars).length ∧
        nullIdxLoop data (pairIndices data) = .ok (Text.Utf16.encode chars).length ∧
        decodeUtf16 (data.take (Text.Utf16.encode chars).length) = .ok (Text.ofChars chars) ∧
        decodeUtf16 (beforeTerminator data) = .ok (Text.ofChars chars) ∧
        getValueFromCtypeData data .wstring = .ok (.value (.str (Text.ofChars chars)))) ∧
    (∀ data : Bytes, (∀ ix, ¬ AlignedZeros data ix) →
      findWstringNullTerminatorLoop data (pairIndices data) = none ∧
      nullIdxLoop data (pairIndices data) = .error (.valueError "No null-terminator found in buffer") ∧
      getValueFromCtypeData data .wstring = .error (.valueError "No null-terminator found in buffer")) := by
  constructor
  · intro chars rest nulFree data layout
    have found : findWstringNullTerminatorLoop data (pairIndices data) =
        some (Text.Utf16.encode chars).length := by
      rw [findWstringNullTerminatorLoop_eq, layout, find_encode nulFree]
    have second : nullIdxLoop data (pairIndices data) = .ok (Text.Utf16.encode chars).length := by
      rw [nullIdxLoop_eq, found]
    have front : data.take (Text.Utf16.encode chars).length = Text.Utf16.encode chars := by
      rw [layout, List.take_left]
    have decoded : decodeUtf16 (data.take (Text.Utf16.encode chars).length) = .ok (Text.ofChars chars) := by
      rw [front, decodeUtf16_encode]
    refine ⟨found, second, decoded, ?_, ?_⟩
    · rw [layout, beforeTerminator_encode nulFree, decodeUtf16_encode]
    · rw [getValueFromCtypeData_loop, second]
      simp only [bind, Except.bind, decoded]
      rfl
  · intro data clear
    have missing : findWstringNullTerminatorLoop data (pairIndices data) = none := by
      rw [findWstringNullTerminatorLoop_eq, findWstringNullTerminator_eq_none clear]
    have raised : nullIdxLoop data (pairIndices data) =
        .error (.valueError "No null-terminator found in buffer") := by
      rw [nullIdxLoop_eq, missing]
    refine ⟨missing, raised, ?_⟩
    rw [getValueFromCtypeData_loop, raised]
    rfl

/-- Zero bytes inside the units of a text, a pair of surrogates, and two zeros
across the border of two units. -/
theorem wstring_terminator_exact_example :
    nullIdxLoop [0x41, 0, 0, 0x4e, 0x3d, 0xd8, 0, 0xde, 0, 0, 0, 0] (pairIndices
      [0x41, 0, 0, 0x4e, 0x3d, 0xd8, 0, 0xde, 0, 0, 0, 0]) = .ok 8 ∧
    findWstringNullTerminatorLoop [0x41, 0, 0, 0x4e, 0x42] (pairIndices [0x41, 0, 0, 0x4e, 0x42]) = none := by
  constructor
  · exact (wstring_terminator_exact.1 ['A', '一', '😀'] [0, 0] (by simp) _ rfl).2.1
  · refine (wstring_terminator_exact.2 [0x41, 0, 0, 0x4e, 0x42] ?_).1
    rintro ix ⟨even, low, high⟩
    rcases ix with _ | _ | _ | _ | _ | ix
    · cases low
    · cases even
    · cases high
    · cases even
    · cases high
    · cases low

end PyAds
