import PyAds.SumRoundTrip
import PyAds.SumSlots

/-! Single texts in the sum commands. Whether a string variable is one text or
an array of them is guessed from the number of characters that its type name
tells, and from its size. -/
namespace PyAds
open Buffer Fallible

/-! ## One text -/

/-- In any surroundings, the slot of the variable is read as the text before its
first NUL, and a text that fits is placed at its start. -/
structure SingleTextItem (symbol : SAdsSymbolEntry) : Prop where
  read : ∀ (chars : List Char) (rest before after : Bytes), '\x00' ∉ chars →
    (Text.Utf8.encode chars ++ 0 :: rest).length = symbol.size.toNat →
    readItem false symbol (before ++ (Text.Utf8.encode chars ++ 0 :: rest ++ after)) before.length =
      .ok (.str (Text.ofChars chars))
  write : ∀ (chars : List Char) (before slot after : Bytes), (Text.Utf8.encode chars).length < symbol.size.toNat →
    slot.length = symbol.size.toNat →
    writeItem false symbol (before ++ slot ++ after) before.length (.str (Text.ofChars chars)) =
      .ok (before ++ (Text.Utf8.encode chars ++ slot.drop chars.length) ++ after)

/-- The sum commands take the variable for one text. -/
structure SingleText (symbol : SAdsSymbolEntry) : Prop extends SingleTextItem symbol where
  sumRead : ∀ (dataName : String) (chars : List Char) (rest : Bytes), '\x00' ∉ chars →
    (Text.Utf8.encode chars ++ 0 :: rest).length = symbol.size.toNat →
    adsSumRead (fun _ => .ok (sumReply [⟨0, Text.Utf8.encode chars ++ 0 :: rest⟩])) [dataName]
      (OrderedDict.empty.set dataName symbol) [] =
        .ok (OrderedDict.empty.set dataName (.str (Text.ofChars chars)))
  sumWrite : ∀ (dataName : String) (chars : List Char) (device : Nat → Bytes → Result Bytes),
    (Text.Utf8.encode chars).length < symbol.size.toNat →
    adsSumWrite device (OrderedDict.empty.set dataName (.str (Text.ofChars chars)))
      (OrderedDict.empty.set dataName symbol) [] = do
        let errorDescriptions ← adsSumWriteBytes device 1 (headerBytes symbol ++
          (Text.Utf8.encode chars ++ List.replicate (symbol.size.toNat - chars.length) 0))
        return OrderedDict.empty.setAll ([dataName].zip errorDescriptions)

/-- The name does not have the word `STRING` in it, or the number behind the word
is this one, where 80 stands for no number, or it is -1. -/
def TellsCapacity (typeName : List Char) (capacity : Nat) : Prop :=
  match findText PLC_STRING_TYPE_NAME (upper typeName) with
  | none => True
  | some start =>
    match parseInt ((typeName.take (typeName.length - 1)).drop (start + 7)) with
    | some count => count = capacity ∨ count = -1
    | none => capacity = 80

theorem tellsCapacity_iff (typeName : List Char) (capacity : Nat) :
    TellsCapacity typeName capacity ↔ getNumOfChars typeName = -1 ∨ getNumOfChars typeName = capacity := by
  have behind (start : Nat) : start + PLC_STRING_TYPE_NAME.length + 1 = start + 7 := rfl
  simp only [TellsCapacity, getNumOfChars, behind]
  cases findText PLC_STRING_TYPE_NAME (upper typeName) with
  | none => simp
  | some start =>
    dsimp only
    cases parseInt ((typeName.take (typeName.length - 1)).drop (start + 7)) with
    | some count => exact or_comm
    | none =>
      have default_ : PLC_DEFAULT_STRING_SIZE = 80 := rfl
      dsimp only
      omega

section Text
variable {symbol : SAdsSymbolEntry} (text : symbol.dataType.toNat = ADST_STRING)
  (size : symbol.size.toNat = capacity + 1)
include text size

omit text in
theorem stringKind_text_iff : stringKind .utf8 symbol = .text .utf8 ↔ TellsCapacity symbol.symbolType capacity := by
  rw [tellsCapacity_iff, stringKind]
  split
  · rename_i several
    obtain ⟨told, other⟩ := several
    simp only [TextCoding.unit] at other
    exact iff_of_false (by rintro ⟨⟩) (by omega)
  · rename_i single
    simp only [TextCoding.unit] at single
    exact iff_of_true rfl (by omega)

omit size in
theorem itemKind_string : itemKind false symbol = .ok (stringKind .utf8 symbol) := by
  simp [itemKind, text]

end Text

section Item
variable {symbol : SAdsSymbolEntry} (kind : itemKind false symbol = .ok (.text .utf8))
include kind

theorem singleTextItem_of_kind : SingleTextItem symbol where
  read := by
    intro chars rest before after nulFree whole
    have encoding : TextCoding.utf8.encode (Text.ofChars chars) = .ok (Text.Utf8.encode chars) :=
      encodeUtf8_ofChars chars
    have clear : .scalar '\x00' ∉ Text.ofChars chars := by
      simpa [Text.ofChars] using nulFree
    have holds : HoldsElement false symbol := by
      intro ctype scalar
      cases kind.symm.trans scalar
    have found := TextCoding.nullIdx_encoded encoding clear rest
    simp only [TextCoding.unit, List.replicate_one, List.singleton_append] at found
    have shifted := readItem_shift false symbol before (Text.Utf8.encode chars ++ 0 :: rest ++ after) 0
    rw [Nat.add_zero, readItem_window holds whole] at shifted
    rw [shifted]
    simp only [readItem, kind, bind, Except.bind, readText, Nat.zero_add, ← whole, List.take_length,
      List.drop_zero, found, List.take_left, (TextCoding.encode_spec encoding).2, pure, Except.pure]
  write := by
    intro chars before slot after fits room
    have encoding : TextCoding.utf8.encode (Text.ofChars chars) = .ok (Text.Utf8.encode chars) :=
      encodeUtf8_ofChars chars
    have least := Text.Utf8.length_le_encode chars
    have inside : 0 + TextCoding.utf8.unit * (Text.ofChars chars).length ≤ slot.length := by
      simp only [TextCoding.unit, Text.length_ofChars]
      omega
    have framed := writeText_frame encoding inside before after
    simp only [TextCoding.unit, Text.length_ofChars, Nat.add_zero, Nat.one_mul] at framed
    simp only [writeItem, kind, bind, Except.bind, framed, replace, List.take_zero, List.nil_append,
      Nat.zero_add]

omit kind in
private theorem symbolOf_alone (dataName : String) (symbol : SAdsSymbolEntry) :
    symbolOf (OrderedDict.empty.set dataName symbol) dataName = .ok symbol :=
  symbolOf_eq_ok.mpr (by rw [OrderedDict.get?_set, if_pos rfl])

theorem sumRead_text (dataName : String) (nulFree : '\x00' ∉ chars)
    (whole : (Text.Utf8.encode chars ++ 0 :: rest).length = symbol.size.toNat) :
    adsSumRead (fun _ => .ok (sumReply [⟨0, Text.Utf8.encode chars ++ 0 :: rest⟩])) [dataName]
      (OrderedDict.empty.set dataName symbol) [] =
        .ok (OrderedDict.empty.set dataName (.str (Text.ofChars chars))) := by
  have read := (singleTextItem_of_kind kind).read chars rest [] [] nulFree whole
  simp only [List.nil_append, List.append_nil, List.length_nil] at read
  have holds : HoldsElement false symbol := by
    intro ctype scalar
    cases kind.symm.trans scalar
  have value : itemResult false symbol ⟨0, Text.Utf8.encode chars ++ 0 :: rest⟩ =
      .ok (.str (Text.ofChars chars)) := read
  refine (adsSumRead_replies (mapM_eq_ok.mpr (.cons (symbolOf_alone dataName symbol) .nil))
    (.cons whole .nil) (by simpa using holds)).mpr
    ⟨[.str (Text.ofChars chars)], mapM_eq_ok.mpr (.cons (by simpa using value) .nil), ?_⟩
  exact OrderedDict.ext (by simp [OrderedDict.fromKeys, OrderedDict.setAll, OrderedDict.set, OrderedDict.empty,
    OrderedDict.setItem])

theorem transmittedBuffer_text (dataName : String) (fits : (Text.Utf8.encode chars).length < symbol.size.toNat) :
    transmittedBuffer (OrderedDict.empty.set dataName (.str (Text.ofChars chars)))
      (OrderedDict.empty.set dataName symbol) [] = .ok (headerBytes symbol ++
        (Text.Utf8.encode chars ++ List.replicate (symbol.size.toNat - chars.length) 0)) := by
  have item : headers [(dataName, symbol, PyVal.str (Text.ofChars chars))] = headerBytes symbol := by
    simp [headers]
  have size : payloadSize [(dataName, symbol, PyVal.str (Text.ofChars chars))] = symbol.size.toNat := by
    simp [payloadSize]
  have found : writeItemOf (OrderedDict.empty.set dataName symbol) (dataName, PyVal.str (Text.ofChars chars)) =
      .ok (dataName, symbol, .str (Text.ofChars chars)) := by
    simp only [writeItemOf, symbolOf_alone, bind, Except.bind, pure, Except.pure]
  have items : (OrderedDict.empty.set dataName (PyVal.str (Text.ofChars chars))).entries.mapM
      (writeItemOf (OrderedDict.empty.set dataName symbol)) = .ok [(dataName, symbol, .str (Text.ofChars chars))] :=
    mapM_eq_ok.mpr (.cons found .nil)
  have written := (singleTextItem_of_kind kind).write chars (headerBytes symbol)
    (List.replicate symbol.size.toNat 0) [] fits (by simp)
  rw [List.append_nil, List.append_nil, List.drop_replicate] at written
  rw [transmittedBuffer, items]
  simp only [bind, Except.bind, sumWriteBuffer_eq, item, size, writeItems, List.not_mem_nil, decide_false, written]

theorem singleText_of_kind : SingleText symbol where
  toSingleTextItem := singleTextItem_of_kind kind
  sumRead := fun dataName _ _ nulFree whole => sumRead_text kind dataName nulFree whole
  sumWrite := by
    intro dataName chars device fits
    rw [adsSumWrite_eq, transmittedBuffer_text kind dataName fits]
    rfl

end Item

/-- Several texts are never read as one. -/
theorem not_singleText_of_texts {elementSize : Int} (kind : itemKind false symbol = .ok (.texts .utf8 elementSize))
    (size : symbol.size.toNat = capacity + 1) : ¬SingleText symbol := by
  intro single
  have read := single.read [] (List.replicate capacity 0) [] [] (by simp) (by simp [size])
  simp only [readItem, kind, bind, Except.bind] at read
  split at read <;> cases read

section Text
variable {symbol : SAdsSymbolEntry} (text : symbol.dataType.toNat = ADST_STRING)
  (size : symbol.size.toNat = capacity + 1)
include text size

/-- A variable for a text is read and written as one text exactly if its type
name tells no number of characters, or its capacity. -/
theorem singleText_iff : SingleText symbol ↔ TellsCapacity symbol.symbolType capacity := by
  rw [← stringKind_text_iff size]
  constructor
  · intro single
    rcases stringKind_cases .utf8 symbol with ⟨elementSize, several⟩ | one
    · have kind := (itemKind_string text).trans (congrArg _ several)
      exact absurd single (not_singleText_of_texts kind size)
    · exact one
  · intro one
    exact singleText_of_kind ((itemKind_string text).trans (congrArg _ one))

end Text

/-- `STRING(80)` in 81 bytes. -/
theorem string80_single : SingleText ⟨0x4020, 0, 81, 30, "STRING(80)".toList⟩ :=
  (singleText_iff rfl rfl).mpr ((tellsCapacity_iff "STRING(80)".toList 80).mpr (by decide))

/-- The alias `T_MaxString` stands for 255 characters, but its name is taken to
tell 80. -/
def maxString : SAdsSymbolEntry := ⟨0x4020, 0, 256, 30, "T_MaxString".toList⟩

theorem maxString_not_single : maxString.dataType.toNat = ADST_STRING ∧ maxString.size.toNat = 255 + 1 ∧
    ¬SingleText maxString ∧
    readItem false maxString (Text.Utf8.encode "text".toList ++ List.replicate 252 0) 0 =
      .ok (.list [.str (Text.ofChars "text".toList), .str [], .str []]) := by
  have kind : itemKind false maxString = .ok (.texts .utf8 81) := by decide
  have size : maxString.size.toNat = 255 + 1 := rfl
  exact ⟨rfl, size, not_singleText_of_texts kind size, rfl⟩

end PyAds
