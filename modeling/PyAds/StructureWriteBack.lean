import PyAds.StructureTraversal

/-! Writing back what a read returned. Each element the decoder returns is
encoded so that its own slot reads the same again; only a STRING beyond ASCII
leaves surplus zero bytes behind, which push all later elements back. Pushed
elements read the same exactly when they are blank. A nested structure of
size 1 is not written back at all. -/
namespace PyAds
open SlotSequence StructureDef

/-- The types whose values the decoder returns without loss. -/
def WritesBack (plcDatatype : PlcType) : Prop :=
  plcDatatype = .string ∨ plcDatatype = .wstring ∨
    ∃ ctype : CType, plcDatatype = .simple ctype ∧ ctype ≠ .float ∧ ctype ≠ .double

/-- The bytes of a STRING with a character beyond ASCII before its end. -/
def NonAscii (piece : Slot × Bytes) : Prop :=
  piece.1.plcDatatype = .string ∧ ∃ byte ∈ beforeZero piece.2, 128 ≤ byte.toNat

/-- The bytes of an empty text or of a zero value. -/
def Blank (piece : Slot × Bytes) : Prop :=
  match piece.1.plcDatatype with
  | .string => beforeZero piece.2 = []
  | .wstring => beforeTerminator piece.2 = []
  | .simple _ => ∀ byte ∈ piece.2, byte = 0
  | .unknown => True

theorem Blank.not_nonAscii (blank : Blank piece) : ¬ NonAscii piece := by
  rintro ⟨string, byte, member, -⟩
  simp only [Blank, string] at blank
  simp [blank] at member

/-! ## One element -/

/-- How the element at `slot` comes back: the bytes that fill its slot, and
the surplus zeros behind them. -/
structure WrittenBack (slot : Slot) (data : Bytes) (value : PyVal) (filling : Bytes) (surplus : Nat) :
    Prop where
  written : writeSlot (slot, value) = .ok (filling ++ List.replicate surplus 0)
  length : filling.length = slot.width
  read : readSlot slot filling = .ok value
  spills : 0 < surplus ↔ NonAscii (slot, data)
  blank : Blank (slot, data) → filling = List.replicate slot.width 0
  /-- Behind zeros, only a blank element still reads the same. -/
  shifted : ∀ count more, 0 < count →
    readSlot slot ((List.replicate count 0 ++ (filling ++ more)).take slot.width) = .ok value →
    Blank (slot, data)

private theorem string_written_back (length : data.length = strLen + 1)
    (read : readSlot ⟨.string, strLen⟩ data = .ok value) :
    ∃ filling surplus, WrittenBack ⟨.string, strLen⟩ data value filling surplus := by
  obtain ⟨chars, rfl, bytes⟩ := readSlot_string.mp read
  have nonzero := zero_not_mem_beforeZero data
  have short : (beforeZero data).length ≤ data.length := (List.takeWhile_prefix _).length_le
  rw [bytes] at nonzero short
  have least := Text.Utf8.length_le_encode chars
  have spills := Text.Utf8.length_encode_eq_iff chars
  rw [← Text.Utf8.ascii_bytes_iff] at spills
  have zeros : strLen + 1 - chars.length =
      (strLen + 1 - (Text.Utf8.encode chars).length) + ((Text.Utf8.encode chars).length - chars.length) := by
    omega
  refine ⟨Text.Utf8.encode chars ++ List.replicate (strLen + 1 - (Text.Utf8.encode chars).length) 0,
    (Text.Utf8.encode chars).length - chars.length, ?_, ?_, ?_, ?_, ?_, ?_⟩
  · simp only [writeSlot, writeElement, encodeUtf8_ofChars, bind, Except.bind, pure, Except.pure,
      Option.getD_some, Text.length_ofChars]
    rw [zeros, List.replicate_add, List.append_assoc]
  · simp only [List.length_append, List.length_replicate, Slot.width]
    omega
  · exact readSlot_string.mpr ⟨chars, rfl, beforeZero_padded nonzero _⟩
  · simp only [NonAscii, bytes, true_and]
    rw [Nat.sub_pos_iff_lt, ← not_iff_not]
    push Not
    rw [← spills]
    omega
  · intro blank
    have empty : Text.Utf8.encode chars = [] := bytes.symm.trans blank
    simp [empty, Slot.width]
  · intro count more behind again
    obtain ⟨fewer, rfl⟩ := Nat.exists_eq_add_one_of_ne_zero behind.ne'
    obtain ⟨others, same, cut⟩ := readSlot_string.mp again
    rw [← Text.ofChars_injective (PyVal.str.inj same)] at cut
    exact bytes.trans cut.symm

private theorem wstring_written_back (length : data.length = 2 * (strLen + 1))
    (read : readSlot ⟨.wstring, strLen⟩ data = .ok value) :
    ∃ filling surplus, WrittenBack ⟨.wstring, strLen⟩ data value filling surplus := by
  obtain ⟨chars, rfl, bytes⟩ := readSlot_wstring.mp read
  have even := Text.Utf16.length_encode chars
  have padded := beforeTerminator_padded data
  have short : (beforeTerminator data).length ≤ data.length := (List.take_prefix ..).length_le
  rw [bytes, length] at padded short
  refine ⟨Text.Utf16.encode chars ++ List.replicate (2 * (strLen + 1) - (Text.Utf16.encode chars).length) 0,
    0, ?_, ?_, ?_, ?_, ?_, ?_⟩
  · simp only [writeSlot, writeElement, encodeUtf16_ofChars, bind, Except.bind, pure, Except.pure,
      Option.getD_some, List.replicate_zero, List.append_nil]
  · simp only [List.length_append, List.length_replicate, Slot.width]
    omega
  · exact readSlot_wstring.mpr ⟨chars, rfl, padded⟩
  · simp [NonAscii]
  · intro blank
    have empty : Text.Utf16.encode chars = [] := bytes.symm.trans blank
    simp [empty, Slot.width]
  · intro count more behind again
    obtain ⟨others, same, cut⟩ := readSlot_wstring.mp again
    rw [← Text.ofChars_injective (PyVal.str.inj same), List.append_assoc] at cut
    exact bytes.trans (beforeTerminator_shifted behind (by simp only [Slot.width]; omega) even cut)

private theorem integer_written_back {ctype : CType} (integer : ctype.format.IsInteger)
    (length : data.length = ctype.sizeof) (read : readSlot ⟨.simple ctype, strLen⟩ data = .ok value) :
    ∃ filling surplus, WrittenBack ⟨.simple ctype, strLen⟩ data value filling surplus := by
  have fits : data.length = ctype.format.size := length.trans ctype.size_format.symm
  cases read.symm.trans (structUnpack_of_length fits)
  have packed := structPack_unpackValue integer fits
  refine ⟨data, 0, by rwa [List.replicate_zero, List.append_nil], length, read, by simp [NonAscii], ?_, ?_⟩
  · intro blank
    exact List.eq_replicate_iff.mpr ⟨length, blank⟩
  · intro count more behind again
    have shiftedFits : ((List.replicate count 0 ++ (data ++ more)).take ctype.sizeof).length =
        ctype.format.size := by
      simp only [List.length_take, List.length_append, List.length_replicate, CType.size_format]
      omega
    have values := Except.ok.inj ((structUnpack_of_length shiftedFits).symm.trans again)
    have repacked := structPack_unpackValue integer shiftedFits
    rw [values, packed, ← length] at repacked
    have zeros := eq_replicate_of_shift behind (Except.ok.inj repacked)
    intro byte member
    rw [zeros] at member
    exact List.eq_of_mem_replicate member

private theorem bool_written_back (length : data.length = 1)
    (read : readSlot ⟨.simple .bool, strLen⟩ data = .ok value) :
    ∃ filling surplus, WrittenBack ⟨.simple .bool, strLen⟩ data value filling surplus := by
  obtain ⟨byte, rfl⟩ := List.length_eq_one_iff.mp length
  cases read.symm.trans (structUnpack_of_length (show [byte].length = StructFormat.bool.size from length))
  refine ⟨[if byte = 0 then 0 else 1], 0, ?_, rfl, ?_, by simp [NonAscii], ?_, ?_⟩
  · by_cases zero : byte = 0 <;>
      simp [writeSlot, writeElement, CType.format, structPack, unpackValue, PyVal.truthy, zero]
  · by_cases zero : byte = 0 <;>
      simp [readSlot, CType.format, structUnpack, StructFormat.size, unpackValue, zero]
  · intro blank
    have zero : byte = 0 := blank byte (by simp)
    simp [zero, Slot.width, CType.sizeof]
  · intro count more behind again
    obtain ⟨fewer, rfl⟩ := Nat.exists_eq_add_one_of_ne_zero behind.ne'
    have zero : byte = 0 := by
      simpa [readSlot, Slot.width, CType.sizeof, CType.format, structUnpack, StructFormat.size, unpackValue,
        List.replicate_succ] using again
    simp [Blank, zero]

/-- Every element the decoder returns is written back. -/
theorem exists_writtenBack (kind : WritesBack slot.plcDatatype) (length : data.length = slot.width)
    (read : readSlot slot data = .ok value) :
    ∃ filling surplus, WrittenBack slot data value filling surplus := by
  obtain ⟨plcDatatype, strLen⟩ := slot
  rcases kind with rfl | rfl | ⟨ctype, rfl, notFloat, notDouble⟩
  · exact string_written_back length read
  · exact wstring_written_back length read
  · cases ctype with
    | bool => exact bool_written_back length read
    | float => exact absurd rfl notFloat
    | double => exact absurd rfl notDouble
    | _ => exact integer_written_back (by decide) length read

/-! ## All elements -/

/-- The elements of a structure, each with the value read from it. -/
abbrev AllWrittenBack (pieces : List (Slot × Bytes)) (values : List PyVal) : Prop :=
  List.Forall₂ (fun piece value => ∃ filling surplus, WrittenBack piece.1 piece.2 value filling surplus)
    pieces values

theorem AllWrittenBack.exists_bytes (each : AllWrittenBack pieces values) :
    ∃ bytes, concatM writeSlot ((pieces.map Prod.fst).zip values) = .ok bytes := by
  induction each with
  | nil => exact ⟨[], rfl⟩
  | cons here _ ih =>
    obtain ⟨filling, surplus, back⟩ := here
    obtain ⟨bytes, written⟩ := ih
    exact ⟨_, concatM_cons_eq_ok.mpr ⟨_, _, back.written, written, rfl⟩⟩

/-- Pushed back by zeros, the elements read the same if all are blank. -/
theorem readAll_shifted (each : AllWrittenBack pieces values)
    (written : concatM writeSlot ((pieces.map Prod.fst).zip values) = .ok bytes) (behind : 0 < count) :
    readAll readSlot Slot.width (pieces.map Prod.fst) (List.replicate count 0 ++ bytes) = .ok values ↔
      ∀ piece ∈ pieces, Blank piece := by
  induction each generalizing bytes with
  | nil => simp
  | @cons piece value pieces values here later ih =>
    obtain ⟨filling, surplus, back⟩ := here
    obtain ⟨part, rest, first, second, rfl⟩ := concatM_cons_eq_ok.mp written
    cases back.written.symm.trans first
    have pushed (blank : Blank piece) : List.replicate count 0 ++ (filling ++ List.replicate surplus 0 ++ rest) =
        filling ++ (List.replicate count 0 ++ rest) := by
      have none_ : surplus = 0 := Nat.eq_zero_of_not_pos (mt back.spills.mp blank.not_nonAscii)
      rw [none_, back.blank blank, List.replicate_zero, List.append_nil, ← List.append_assoc,
        List.replicate_append_replicate, Nat.add_comm, ← List.replicate_append_replicate, List.append_assoc]
    rw [List.map_cons, readAll_cons_eq_ok, List.forall_mem_cons, ← ih second]
    constructor
    · rintro ⟨head, tail, firstRead, restRead, same⟩
      cases same
      rw [List.append_assoc] at firstRead
      have blank := back.shifted _ _ behind firstRead
      rw [pushed blank, ← back.length, List.drop_left] at restRead
      exact ⟨blank, restRead⟩
    · rintro ⟨blank, restRead⟩
      rw [pushed blank, ← back.length, List.take_left, List.drop_left]
      exact ⟨value, values, back.read, restRead, rfl⟩

/-- The elements read the same if only blank ones follow a text beyond ASCII. -/
theorem readAll_written (each : AllWrittenBack pieces values)
    (written : concatM writeSlot ((pieces.map Prod.fst).zip values) = .ok bytes) :
    readAll readSlot Slot.width (pieces.map Prod.fst) bytes = .ok values ↔
      pieces.Pairwise fun piece later => NonAscii piece → Blank later := by
  induction each generalizing bytes with
  | nil => simp
  | @cons piece value pieces values here later ih =>
    obtain ⟨filling, surplus, back⟩ := here
    obtain ⟨part, rest, first, second, rfl⟩ := concatM_cons_eq_ok.mp written
    cases back.written.symm.trans first
    have head : readAll readSlot Slot.width (piece.1 :: pieces.map Prod.fst)
        (filling ++ List.replicate surplus 0 ++ rest) = .ok (value :: values) ↔
          readAll readSlot Slot.width (pieces.map Prod.fst) (List.replicate surplus 0 ++ rest) =
            .ok values := by
      rw [readAll_cons_eq_ok, List.append_assoc, ← back.length, List.take_left, List.drop_left]
      simp [back.read]
    rw [List.map_cons, head, List.pairwise_cons]
    by_cases spills : 0 < surplus
    · rw [readAll_shifted later second spills]
      constructor
      · intro blank
        refine ⟨fun other member _ => blank other member, ?_⟩
        exact List.pairwise_of_forall_mem_list fun first firstMember other otherMember _ =>
          blank other otherMember
      · rintro ⟨blank, -⟩ other member
        exact blank other member (back.spills.mp spills)
    · have ascii : ¬ NonAscii piece := mt back.spills.mpr spills
      rw [Nat.eq_zero_of_not_pos spills, List.replicate_zero, List.nil_append, ih second]
      simp [ascii]

/-- A dictionary read from a structure is written back to bytes that read the
same exactly when no nested structure has size 1 and only blank elements
follow a text beyond ASCII. -/
theorem write_back_iff (kinds : structureDef.TypesIn WritesBack) (distinct : structureDef.DistinctNames)
    (sized : sizeOfStructure structureDef = .ok data.length)
    (read : dictFromBytes (.bytes data) structureDef 1 = .ok value) :
    (∃ bytes, bytesFromDict value structureDef = .ok bytes ∧
      dictFromBytes (.bytes bytes) structureDef 1 = .ok value) ↔
      structureDef.NoSingleNested ∧
        (cut Slot.width structureDef.layout data).Pairwise fun piece later => NonAscii piece → Blank later := by
  have total := sizeOfStructure_eq sized
  obtain ⟨leaves, leavesRead, rfl⟩ := (dictFromBytes_single sized distinct).mp read
  have length := length_readAll leavesRead
  have holds : ∀ field ∈ structureDef.assemble leaves,
      OrderedDict.lookup field.1 (structureDef.assemble leaves) = some field.2 := fun field =>
    OrderedDict.lookup_of_mem (by rw [keys_assemble]; exact nodup_names distinct)
  have each : AllWrittenBack (cut Slot.width structureDef.layout data) leaves := by
    refine List.forall₂_iff_zip.mpr ⟨(readAll_eq_ok_iff_cut.mp leavesRead).length_eq, fun member => ?_⟩
    have inside := (List.of_mem_zip member).1
    refine exists_writtenBack (typesIn_layout kinds _ ?_) (length_of_mem_cut total.ge inside)
      (List.forall₂_zip (readAll_eq_ok_iff_cut.mp leavesRead) member)
    exact map_fst_cut Slot.width structureDef.layout data ▸ List.mem_map_of_mem inside
  obtain ⟨bytes, written⟩ := each.exists_bytes
  have again := readAll_written each written
  rw [map_fst_cut] at written again
  -- the encoder reaches all elements unless a nested structure has size 1
  have encoded (plural : structureDef.NoSingleNested) :
      bytesFromDict (.dict (structureDef.assemble leaves)) structureDef = .ok bytes :=
    (writeFields_visit (visitFields_assemble length distinct plural _ holds)).2.trans written
  constructor
  · rintro ⟨other, otherWritten, otherRead⟩
    have plural := noSingleNested_of_writeFields length distinct _ holds otherWritten
    cases otherWritten.symm.trans (encoded plural)
    obtain ⟨others, othersRead, same⟩ := (dictFromBytes_single sized distinct).mp otherRead
    have otherLength := length_readAll othersRead
    have visited := visitFields_assemble otherLength distinct plural (structureDef.assemble others)
      fun field => OrderedDict.lookup_of_mem (by rw [keys_assemble]; exact nodup_names distinct)
    rw [same, visitFields_assemble length distinct plural _ holds] at visited
    cases visited
    exact ⟨plural, again.mp othersRead⟩
  · rintro ⟨plural, blank⟩
    exact ⟨bytes, encoded plural, (dictFromBytes_single sized distinct).mpr ⟨leaves, again.mpr blank, rfl⟩⟩

/-- A label and a counter. -/
def labelDef : StructureDef := .item "label" .string 1 (some 3) (.item "count" (.simple .int16) 1 none .nil)

theorem label_written_back : ∃ bytes,
    bytesFromDict (.dict [("label", .str (Text.ofChars ['A'])), ("count", .int 5)]) labelDef = .ok bytes ∧
    dictFromBytes (.bytes bytes) labelDef 1 =
      .ok (.dict [("label", .str (Text.ofChars ['A'])), ("count", .int 5)]) := by
  have sized : sizeOfStructure labelDef = .ok ([65, 0, 9, 9, 5, 0] : Bytes).length := rfl
  refine (write_back_iff ?_ ?_ sized rfl).mpr ⟨?_, ?_⟩
  · exact ⟨Or.inl rfl, Or.inr (Or.inr ⟨.int16, rfl, by decide, by decide⟩), trivial⟩
  · simp [labelDef, DistinctNames, names]
  · trivial
  · simp [cut, labelDef, layout, slotOf, Slot.width, NonAscii, beforeZero]

/-- A motor with one nested drive. -/
def motorDef : StructureDef := .nested "drive" (.item "speed" (.simple .int16) 1 none .nil) 1 .nil

/-- The decoder unwraps the single drive, the encoder subscripts it. -/
theorem motor_not_written_back : sizeOfStructure motorDef = .ok 2 ∧
    dictFromBytes (.bytes [7, 0]) motorDef 1 = .ok (.dict [("drive", .dict [("speed", .int 7)])]) ∧
    ¬ ∃ bytes, bytesFromDict (.dict [("drive", .dict [("speed", .int 7)])]) motorDef = .ok bytes := by
  refine ⟨rfl, rfl, ?_⟩
  rintro ⟨bytes, written⟩
  have raised : bytesFromDict (.dict [("drive", .dict [("speed", .int 7)])]) motorDef =
      .error (.codeKeyError 0) := rfl
  cases raised.symm.trans written

/-- Of two items with one name the dictionary keeps the last value, which does not
go into the first one. -/
example :
    let twice : StructureDef := .item "a" (.simple .int16) 1 none (.item "a" .string 1 (some 3) .nil)
    dictFromBytes (.bytes [1, 0, 65, 66, 67, 0]) twice 1 =
        .ok (.dict [("a", .str (Text.ofChars ['A', 'B', 'C']))]) ∧
      bytesFromDict (.dict [("a", .str (Text.ofChars ['A', 'B', 'C']))]) twice = .error .structError :=
  ⟨rfl, rfl⟩

end PyAds
