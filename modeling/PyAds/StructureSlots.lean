import PyAds.StructureTraversal

/-! Where the encoder puts the fields of a structure. A field that takes its own
bytes leaves all later ones where the definition places them. The padding of a
STRING is counted in characters, so a text beyond ASCII makes its element longer
than its slot and shifts everything behind it; a WSTRING that fits never does.
An element of a nested field may be a list of dictionaries, which takes the
bytes of all of them. -/
namespace PyAds
open SlotSequence Fallible StructureDef

namespace StructureDef

/-- The items of one definition followed by those of another. -/
def append : StructureDef → StructureDef → StructureDef
  | .nil, second => second
  | .item var plcDatatype size strLen rest, second =>
    .item var plcDatatype size strLen (append rest second)
  | .nested var plcDatatype size rest, second => .nested var plcDatatype size (append rest second)

theorem append_assoc (first second third : StructureDef) :
    (first.append second).append third = first.append (second.append third) := by
  induction first with
  | nil => rfl
  | item var plcDatatype size strLen rest ih => simp [append, ih]
  | nested var plcDatatype size rest _ ih => simp [append, ih]

end StructureDef

/-! A walk over two definitions in a row is one walk after the other. -/

theorem sizeOfStructure_append : sizeOfStructure (first.append second) = .ok size ↔
    ∃ head tail, sizeOfStructure first = .ok head ∧ sizeOfStructure second = .ok tail ∧
      size = head + tail := by
  have walks : sizeOfStructure (first.append second) = (do
      let head ← sizeOfStructure first
      let tail ← sizeOfStructure second
      return head + tail) := by
    induction first with
    | nil =>
      simp only [append, sizeOfStructure, bind, Except.bind, pure, Except.pure]
      cases sizeOfStructure second <;> simp
    | item var plcDatatype count strLen rest ih =>
      simp only [append, sizeOfStructure, ih, bind_assoc, pure_bind, Nat.add_assoc]
    | nested var plcDatatype count rest _ ih =>
      simp only [append, sizeOfStructure, ih, bind_assoc, pure_bind, Nat.add_assoc]
  rw [walks, both_eq_ok]

theorem writeFields_append : writeFields (first.append second) value = .ok bytes ↔
    ∃ head tail, writeFields first value = .ok head ∧ writeFields second value = .ok tail ∧
      bytes = head ++ tail := by
  have walks : writeFields (first.append second) value = (do
      let head ← writeFields first value
      let tail ← writeFields second value
      return head ++ tail) := by
    induction first with
    | nil =>
      simp only [append, writeFields, bind, Except.bind, pure, Except.pure]
      cases writeFields second value <;> simp
    | item var plcDatatype count strLen rest ih =>
      simp only [append, writeFields, ih, bind_assoc, pure_bind, List.append_assoc]
    | nested var plcDatatype count rest _ ih =>
      simp only [append, writeFields, ih, bind_assoc, pure_bind, List.append_assoc]
  rw [walks, both_eq_ok]

/-- The encoder looks up the names of the definition and nothing else. -/
theorem writeFields_congr (same : ∀ var ∈ structureDef.names, first.getKey var = second.getKey var) :
    writeFields structureDef first = writeFields structureDef second := by
  induction structureDef with
  | nil => rfl
  | item var plcDatatype size strLen rest ih =>
    simp only [writeFields, same var (by simp [names]),
      ih fun other member => same other (by simp [names, member])]
  | nested var plcDatatype size rest _ ih =>
    simp only [writeFields, same var (by simp [names]),
      ih fun other member => same other (by simp [names, member])]

/-! ## The bytes of a value -/

/-- The length of an encoded text. -/
def textLength (encode : List Char → Bytes) (text : Text.Str) : Nat :=
  ((Text.chars? text).map fun chars => (encode chars).length).getD 0

/-- The bytes that a value takes as one element. A STRING is padded by the
number of characters that its slot has more than the text. -/
def elementRoom (plcDatatype : PlcType) (strLen : Option Nat) (value : PyVal) : Nat :=
  match plcDatatype, value with
  | .string, .str text => textLength Text.Utf8.encode text + (strLen.getD PLC_DEFAULT_STRING_SIZE + 1 - text.length)
  | .wstring, .str text =>
    max (textLength Text.Utf16.encode text) (2 * (strLen.getD PLC_DEFAULT_STRING_SIZE + 1))
  | .simple ctype, _ => ctype.sizeof
  | _, _ => 0

/-- The bytes of one dictionary or of a list of them. -/
def structuresRoom (room : PyVal → Nat) : PyVal → Nat
  | .list values => (values.map room).sum
  | value => room value

/-- The bytes that a dictionary takes, field by field. -/
def fieldsRoom : StructureDef → PyVal → Nat
  | .nil, _ => 0
  | .item var plcDatatype size strLen rest, curDict =>
    ((List.range size).map fun i =>
      ((curDict.getKey var >>= fun value => elementAt size value i).toOption.elim 0 (elementRoom plcDatatype strLen))).sum +
      fieldsRoom rest curDict
  | .nested var plcDatatype size rest, curDict =>
    ((List.range size).map fun i =>
      ((curDict.getKey var >>= fun value => value.getIndex i).toOption.elim 0
        (structuresRoom (fieldsRoom plcDatatype)))).sum + fieldsRoom rest curDict

theorem length_writeElement (written : writeElement plcDatatype strLen value = .ok bytes) :
    bytes.length = elementRoom plcDatatype strLen value := by
  cases plcDatatype with
  | string =>
    cases value with
    | str text =>
      obtain ⟨encoded, utf8, same⟩ := bind_eq_ok.mp written
      cases same
      obtain ⟨chars, rfl, rfl⟩ := encodeUtf8_eq_ok_iff.mp utf8
      simp [elementRoom, textLength]
    | _ => cases written
  | wstring =>
    cases value with
    | str text =>
      obtain ⟨encoded, utf16, same⟩ := bind_eq_ok.mp written
      cases same
      obtain ⟨chars, rfl, rfl⟩ := encodeUtf16_eq_ok_iff.mp utf16
      simp only [List.length_append, List.length_replicate, elementRoom, textLength, Text.chars?_ofChars,
        Option.map_some, Option.getD_some]
      omega
    | _ => cases written
  | simple ctype =>
    have packed : structPack ctype.format value = .ok bytes := written
    exact (length_structPack packed).trans ctype.size_format
  | unknown => cases written

theorem length_writeStructures {write : PyVal → Result Bytes} {room : PyVal → Nat}
    (each : ∀ value bytes, write value = .ok bytes → bytes.length = room value)
    (written : writeStructures write value = .ok bytes) : bytes.length = structuresRoom room value := by
  cases value with
  | list values => exact length_concatM room written fun value _ bytes here => each value bytes here
  | _ => exact each _ _ written

/-- An encoded dictionary is as long as its values take. -/
theorem length_writeFields (written : writeFields structureDef value = .ok bytes) :
    bytes.length = fieldsRoom structureDef value := by
  induction structureDef generalizing value bytes with
  | nil =>
    cases written
    rfl
  | item var plcDatatype size strLen rest ih =>
    obtain ⟨field, found, walked⟩ := bind_eq_ok.mp written
    obtain ⟨here, after, elements, tail, rfl⟩ := both_eq_ok.mp walked
    have length := length_concatM (fun i => (elementAt size field i).toOption.elim 0 (elementRoom plcDatatype strLen))
      elements (by
        intro i _ part written
        obtain ⟨element, reached, written⟩ := bind_eq_ok.mp written
        rw [length_writeElement written, reached]
        rfl)
    rw [List.length_append, length, ih tail, fieldsRoom, found]
    rfl
  | nested var plcDatatype size rest ihNested ih =>
    obtain ⟨field, found, walked⟩ := bind_eq_ok.mp written
    obtain ⟨here, after, elements, tail, rfl⟩ := both_eq_ok.mp walked
    have length := length_concatM
      (fun i => (field.getIndex i).toOption.elim 0 (structuresRoom (fieldsRoom plcDatatype))) elements (by
        intro i _ part written
        obtain ⟨element, reached, written⟩ := bind_eq_ok.mp written
        rw [length_writeStructures (fun _ _ inner => ihNested inner) written, reached]
        rfl)
    rw [List.length_append, length, ih tail, fieldsRoom, found]
    rfl

theorem length_bytesFromDict (written : bytesFromDict value structureDef = .ok bytes) :
    bytes.length = structuresRoom (fieldsRoom structureDef) value :=
  length_writeStructures (fun _ _ written => length_writeFields written) written

/-! ## One element -/

/-- A text that fits its slot once it is encoded. -/
def FitsEncoded (item : Slot × PyVal) : Prop :=
  ∀ text encoded, item.2 = .str text →
    (item.1.plcDatatype = .string → encodeUtf8 text = .ok encoded → encoded.length ≤ item.1.strLen) ∧
    (item.1.plcDatatype = .wstring → encodeUtf16 text = .ok encoded → encoded.length ≤ 2 * item.1.strLen)

/-- A text for a STRING that consists of ASCII characters. -/
def AsciiString (item : Slot × PyVal) : Prop :=
  ∀ text, item.1.plcDatatype = .string → item.2 = .str text → Text.Ascii text

/-- An encoded element is never shorter than its slot, and longer exactly for
a STRING beyond ASCII. -/
theorem length_writeSlot {item : Slot × PyVal} (fits : FitsEncoded item) (written : writeSlot item = .ok bytes) :
    item.1.width ≤ bytes.length ∧ (bytes.length = item.1.width ↔ AsciiString item) := by
  obtain ⟨⟨plcDatatype, strLen⟩, value⟩ := item
  cases plcDatatype with
  | string =>
    cases value with
    | str text =>
      obtain ⟨encoded, utf8, same⟩ := bind_eq_ok.mp written
      cases same
      have room := (fits text encoded rfl).1 rfl utf8
      obtain ⟨chars, rfl, rfl⟩ := encodeUtf8_eq_ok_iff.mp utf8
      have least := Text.Utf8.length_le_encode chars
      have ascii : AsciiString (⟨.string, strLen⟩, .str (Text.ofChars chars)) ↔
          (Text.Utf8.encode chars).length = chars.length := by
        rw [Text.Utf8.length_encode_eq_iff, ← Text.ascii_ofChars]
        simp [AsciiString]
      simp only at room
      rw [ascii]
      simp only [Slot.width, Option.getD_some, List.length_append, List.length_replicate,
        Text.length_ofChars]
      omega
    | _ => cases written
  | wstring =>
    have free : AsciiString (⟨.wstring, strLen⟩, value) := by simp [AsciiString]
    cases value with
    | str text =>
      obtain ⟨encoded, utf16, same⟩ := bind_eq_ok.mp written
      cases same
      have room := (fits text encoded rfl).2 rfl utf16
      simp only at room
      simp only [Slot.width, Option.getD_some, List.length_append, List.length_replicate, free, iff_true]
      omega
    | _ => cases written
  | simple ctype =>
    have free : AsciiString (⟨.simple ctype, strLen⟩, value) := by simp [AsciiString]
    have length : bytes.length = ctype.sizeof :=
      (length_structPack (show structPack ctype.format value = .ok bytes from written)).trans ctype.size_format
    simp [Slot.width, length, free]
  | unknown => cases written

/-! ## Fields -/

/-- An element of an item, in its slot. -/
theorem writeElement_slotOf (plcDatatype : PlcType) (strLen : Option Nat) (element : PyVal) :
    writeElement plcDatatype strLen element = writeSlot (slotOf plcDatatype strLen, element) := by
  cases plcDatatype <;> rfl

/-- Each field of a dictionary takes its own bytes: the texts of a STRING field
are ASCII, and the dictionaries of a nested field together take what the
definition has for it. -/
def FieldsFill : StructureDef → PyVal → Prop
  | .nil, _ => True
  | .item var plcDatatype size strLen rest, curDict =>
    (∀ value i element, curDict.getKey var = .ok value → i < size → elementAt size value i = .ok element →
      AsciiString (slotOf plcDatatype strLen, element)) ∧ FieldsFill rest curDict
  | .nested var plcDatatype size rest, curDict =>
    (∀ nBytes, sizeOfStructure plcDatatype = .ok nBytes →
      fieldsRoom (.nested var plcDatatype size .nil) curDict = size * nBytes) ∧ FieldsFill rest curDict

/-- A dictionary whose texts fit and whose fields take their own bytes. -/
structure Fills (structureDef : StructureDef) (value : PyVal) : Prop where
  fits : EveryElement FitsEncoded structureDef value
  fills : FieldsFill structureDef value

theorem everyElement_append {holds : Slot × PyVal → Prop} : EveryElement holds (first.append second) value ↔
    EveryElement holds first value ∧ EveryElement holds second value := by
  induction first with
  | nil => simp [append, EveryElement]
  | item var plcDatatype size strLen rest ih => simp only [append, EveryElement, ih, and_assoc]
  | nested var plcDatatype size rest _ ih => simp only [append, EveryElement, ih, and_assoc]

theorem fieldsFill_append : FieldsFill (first.append second) value ↔
    FieldsFill first value ∧ FieldsFill second value := by
  induction first with
  | nil => simp [append, FieldsFill]
  | item var plcDatatype size strLen rest ih => simp only [append, FieldsFill, ih, and_assoc]
  | nested var plcDatatype size rest _ ih => simp only [append, FieldsFill, ih, and_assoc]

theorem fills_append : Fills (first.append second) value ↔ Fills first value ∧ Fills second value := by
  constructor
  · rintro ⟨fits, fills⟩
    obtain ⟨headFits, tailFits⟩ := everyElement_append.mp fits
    obtain ⟨headFills, tailFills⟩ := fieldsFill_append.mp fills
    exact ⟨⟨headFits, headFills⟩, tailFits, tailFills⟩
  · rintro ⟨head, tail⟩
    exact ⟨everyElement_append.mpr ⟨head.fits, tail.fits⟩, fieldsFill_append.mpr ⟨head.fills, tail.fills⟩⟩

/-- The elements of one item are never shorter than their slots, and as long
exactly if no STRING among them is beyond ASCII. -/
theorem length_elements {curDict value : PyVal} {var : String} (found : curDict.getKey var = .ok value)
    (fits : ∀ value i element, curDict.getKey var = .ok value → i < size → elementAt size value i = .ok element →
      FitsEncoded (slotOf plcDatatype strLen, element))
    (written : concatM (fun i => do
      let element ← elementAt size value i
      writeElement plcDatatype strLen element) (List.range size) = .ok bytes) :
    size * (slotOf plcDatatype strLen).width ≤ bytes.length ∧
      (bytes.length = size * (slotOf plcDatatype strLen).width ↔
        ∀ value i element, curDict.getKey var = .ok value → i < size → elementAt size value i = .ok element →
          AsciiString (slotOf plcDatatype strLen, element)) := by
  have reached {i : Nat} {part : Bytes} (here : (do
      let element ← elementAt size value i
      writeElement plcDatatype strLen element : Result Bytes) = .ok part) :
      ∃ element, elementAt size value i = .ok element ∧ writeSlot (slotOf plcDatatype strLen, element) = .ok part := by
    obtain ⟨element, reached, here⟩ := bind_eq_ok.mp here
    exact ⟨element, reached, (writeElement_slotOf ..).symm.trans here⟩
  have total := length_concatM_of_ge (fun _ => (slotOf plcDatatype strLen).width) written (by
    intro i member part here
    obtain ⟨element, reached, here⟩ := reached here
    exact (length_writeSlot (fits value i element found (List.mem_range.mp member) reached) here).1)
  rw [extent_const, List.length_range] at total
  refine ⟨total.1, total.2.trans ⟨?_, ?_⟩⟩
  · intro filled value' i element found' inside at_
    cases found.symm.trans found'
    obtain ⟨part, here⟩ := concatM_ok_iff.mp ⟨bytes, written⟩ i (List.mem_range.mpr inside)
    have length := filled i (List.mem_range.mpr inside) part here
    obtain ⟨other, again, here⟩ := reached here
    cases at_.symm.trans again
    exact (length_writeSlot (fits value i element found inside at_) here).2.mp length
  · intro ascii i member part here
    obtain ⟨element, at_, here⟩ := reached here
    have inside := List.mem_range.mp member
    exact (length_writeSlot (fits value i element found inside at_) here).2.mpr (ascii value i element found inside at_)

/-- Fields that take their own bytes end where the structure ends. -/
theorem Fills.length_eq (filled : Fills structureDef value) (sized : sizeOfStructure structureDef = .ok size)
    (written : writeFields structureDef value = .ok bytes) : bytes.length = size := by
  obtain ⟨fits, fills⟩ := filled
  induction structureDef generalizing size bytes with
  | nil =>
    cases sized
    cases written
    rfl
  | item var plcDatatype count strLen rest ih =>
    obtain ⟨width, after, element, tail, rfl⟩ := both_eq_ok.mp sized
    obtain ⟨field, found, walked⟩ := bind_eq_ok.mp written
    obtain ⟨here, others, elements, later, rfl⟩ := both_eq_ok.mp walked
    rw [List.length_append, ih tail later fits.2 fills.2, (length_elements found fits.1 elements).2.mpr fills.1,
      ← elementSize_eq element, Nat.mul_comm]
  | nested var plcDatatype count rest _ ih =>
    obtain ⟨width, after, inner, tail, rfl⟩ := both_eq_ok.mp sized
    obtain ⟨here, others, alone, later, rfl⟩ := writeFields_append.mp
      (show writeFields ((StructureDef.nested var plcDatatype count .nil).append rest) value = .ok bytes from written)
    rw [List.length_append, ih tail later fits.2 fills.2, length_writeFields alone, fills.1 width inner, Nat.mul_comm]

/-- Single dictionaries in the place of every nested element. -/
def SingleElements : StructureDef → PyVal → Prop
  | .nil, _ => True
  | .item _ _ _ _ rest, curDict => SingleElements rest curDict
  | .nested var plcDatatype size rest, curDict =>
    (∀ value i element, curDict.getKey var = .ok value → i < size → value.getIndex i = .ok element →
      ∃ inner, dictionaries element = [inner] ∧ SingleElements plcDatatype inner) ∧ SingleElements rest curDict

/-- Single dictionaries are never shorter than their structure, and as long
exactly if every STRING is ASCII. -/
theorem length_singleElements (single : SingleElements structureDef value)
    (fits : EveryElement FitsEncoded structureDef value) (sized : sizeOfStructure structureDef = .ok size)
    (written : writeFields structureDef value = .ok bytes) :
    size ≤ bytes.length ∧ (bytes.length = size ↔ EveryElement AsciiString structureDef value) := by
  induction structureDef generalizing value size bytes with
  | nil =>
    cases sized
    cases written
    simp [EveryElement]
  | item var plcDatatype count strLen rest ih =>
    obtain ⟨width, after, element, tail, rfl⟩ := both_eq_ok.mp sized
    obtain ⟨field, found, walked⟩ := bind_eq_ok.mp written
    obtain ⟨here, others, elements, later, rfl⟩ := both_eq_ok.mp walked
    obtain ⟨least, whole⟩ := length_elements found fits.1 elements
    obtain ⟨leastAfter, wholeAfter⟩ := ih single fits.2 tail later
    rw [EveryElement, ← whole, ← wholeAfter, List.length_append, elementSize_eq element, Nat.mul_comm]
    omega
  | nested var plcDatatype count rest ihNested ih =>
    obtain ⟨width, after, inner, tail, rfl⟩ := both_eq_ok.mp sized
    obtain ⟨field, found, walked⟩ := bind_eq_ok.mp written
    obtain ⟨here, others, elements, later, rfl⟩ := both_eq_ok.mp walked
    obtain ⟨leastAfter, wholeAfter⟩ := ih single.2 fits.2 tail later
    have round {i : Nat} {part : Bytes} (inside : i < count) (here : (do
        let element ← field.getIndex i
        writeStructures (writeFields plcDatatype) element : Result Bytes) = .ok part) :
        width ≤ part.length ∧ (part.length = width ↔
          ∀ element, field.getIndex i = .ok element →
            ∀ inner ∈ dictionaries element, EveryElement AsciiString plcDatatype inner) := by
      obtain ⟨element, reached, here⟩ := bind_eq_ok.mp here
      obtain ⟨dict, only, one⟩ := single.1 field i element found inside reached
      have fitting := fits.1 field i element found inside reached dict (by simp [only])
      rw [writeStructures_dictionaries, only, concatM_singleton] at here
      simpa [reached, only] using ihNested one fitting inner here
    obtain ⟨least, whole⟩ := length_concatM_of_ge (fun _ => width) elements fun i member part here =>
      (round (List.mem_range.mp member) here).1
    rw [extent_const, List.length_range] at least whole
    have ascii : here.length = count * width ↔ ∀ array i element, value.getKey var = .ok array → i < count →
        array.getIndex i = .ok element → ∀ inner ∈ dictionaries element, EveryElement AsciiString plcDatatype inner := by
      rw [whole]
      constructor
      · intro filled array i element found' inside reached
        cases found.symm.trans found'
        obtain ⟨part, here⟩ := concatM_ok_iff.mp ⟨_, elements⟩ i (List.mem_range.mpr inside)
        exact (round inside here).2.mp (filled i (List.mem_range.mpr inside) part here) element reached
      · intro each i member part here
        have inside := List.mem_range.mp member
        exact (round inside here).2.mpr fun element reached => each field i element found inside reached
    rw [EveryElement, ← ascii, ← wholeAfter, List.length_append, Nat.mul_comm]
    omega

/-- Where every nested element is a single dictionary, the fields take their own
bytes exactly if every STRING is ASCII. -/
theorem fieldsFill_iff_ascii (single : SingleElements structureDef value)
    (fits : EveryElement FitsEncoded structureDef value) (sized : sizeOfStructure structureDef = .ok size)
    (written : writeFields structureDef value = .ok bytes) :
    FieldsFill structureDef value ↔ EveryElement AsciiString structureDef value := by
  constructor
  · intro fills
    exact (length_singleElements single fits sized written).2.mp (Fills.length_eq ⟨fits, fills⟩ sized written)
  · intro ascii
    induction structureDef generalizing size bytes with
    | nil => trivial
    | item var plcDatatype count strLen rest ih =>
      obtain ⟨width, after, element, tail, rfl⟩ := both_eq_ok.mp sized
      obtain ⟨here, others, -, later, rfl⟩ := writeFields_append.mp
        (show writeFields ((StructureDef.item var plcDatatype count strLen .nil).append rest) value = .ok bytes
          from written)
      exact ⟨ascii.1, ih single fits.2 tail later ascii.2⟩
    | nested var plcDatatype count rest _ ih =>
      obtain ⟨width, after, inner, tail, rfl⟩ := both_eq_ok.mp sized
      obtain ⟨here, others, alone, later, rfl⟩ := writeFields_append.mp
        (show writeFields ((StructureDef.nested var plcDatatype count .nil).append rest) value = .ok bytes from written)
      refine ⟨fun nBytes known => ?_, ih single.2 fits.2 tail later ascii.2⟩
      have one : sizeOfStructure (.nested var plcDatatype count .nil) = .ok (nBytes * count) :=
        both_eq_ok.mpr ⟨nBytes, 0, known, rfl, rfl⟩
      rw [← length_writeFields alone, Nat.mul_comm]
      have only : SingleElements (.nested var plcDatatype count .nil) value := ⟨single.1, trivial⟩
      have fitting : EveryElement FitsEncoded (.nested var plcDatatype count .nil) value := ⟨fits.1, trivial⟩
      exact (length_singleElements only fitting one alone).2.mpr ⟨ascii.1, trivial⟩

/-! ## The bytes around a field -/

theorem bytesFromDict_singleton (structureDef : StructureDef) (value : PyVal) :
    bytesFromDict (.list [value]) structureDef = writeFields structureDef value :=
  concatM_singleton ..

theorem length_bytesFromDict_of_fills (fills : ∀ value ∈ values, Fills structureDef value)
    (sized : sizeOfStructure structureDef = .ok size)
    (written : bytesFromDict (.list values) structureDef = .ok bytes) : bytes.length = values.length * size := by
  rw [length_concatM (fun _ => size) written fun value member _ here => (fills value member).length_eq sized here,
    extent_const]

/-- The bytes around the field of one element. -/
theorem cut_at_field {front back : List PyVal}
    (fills : ∀ item ∈ front ++ value :: back, Fills (before.append (field.append after)) item)
    (sized : sizeOfStructure (before.append (field.append after)) = .ok size)
    (written : bytesFromDict (.list (front ++ value :: back)) (before.append (field.append after)) = .ok bytes) :
    ∃ offset width earlier head part tail later,
      sizeOfStructure before = .ok offset ∧ sizeOfStructure field = .ok width ∧
      bytesFromDict (.list front) (before.append (field.append after)) = .ok earlier ∧
      writeFields before value = .ok head ∧ writeFields field value = .ok part ∧
      writeFields after value = .ok tail ∧
      bytesFromDict (.list back) (before.append (field.append after)) = .ok later ∧
      bytes = (earlier ++ head) ++ part ++ (tail ++ later) ∧
      (earlier ++ head).length = front.length * size + offset ∧ part.length = width := by
  obtain ⟨beforeFills, rest⟩ := fills_append.mp (fills value (by simp))
  obtain ⟨fieldFills, -⟩ := fills_append.mp rest
  obtain ⟨offset, remaining, beforeSized, restSized, rfl⟩ := sizeOfStructure_append.mp sized
  obtain ⟨width, trailing, fieldSized, -, rfl⟩ := sizeOfStructure_append.mp restSized
  obtain ⟨earlier, others, frontWritten, othersWritten, rfl⟩ := concatM_append_eq_ok.mp written
  obtain ⟨element, later, elementWritten, backWritten, rfl⟩ := concatM_cons_eq_ok.mp othersWritten
  obtain ⟨head, inner, headWritten, innerWritten, rfl⟩ := writeFields_append.mp elementWritten
  obtain ⟨part, tail, partWritten, tailWritten, rfl⟩ := writeFields_append.mp innerWritten
  refine ⟨offset, width, earlier, head, part, tail, later, beforeSized, fieldSized, frontWritten,
    headWritten, partWritten, tailWritten, backWritten, by simp, ?_, fieldFills.length_eq fieldSized partWritten⟩
  have earlierLength := length_bytesFromDict_of_fills
    (fun item member => fills item (List.mem_append_left _ member)) sized frontWritten
  rw [List.length_append, earlierLength, beforeFills.length_eq beforeSized headWritten]

/-- The encoding has the length of all elements, and in each of them every
run of items occupies the bytes from where the items before it end. -/
def InSlots (structureDef : StructureDef) (values : List PyVal) (size : Nat) (bytes : Bytes) : Prop :=
  bytes.length = values.length * size ∧
  ∀ front value back before field after, values = front ++ value :: back →
    structureDef = before.append (field.append after) →
    ∃ offset width part, sizeOfStructure before = .ok offset ∧ sizeOfStructure field = .ok width ∧
      bytesFromDict (.list [value]) field = .ok part ∧ part.length = width ∧
      (bytes.drop (front.length * size + offset)).take width = part

/-- Another value for one field of one element leaves all bytes outside the
slot of this field as they are. -/
def ChangesOwnSlot (structureDef : StructureDef) (values : List PyVal) (size : Nat) (bytes : Bytes) : Prop :=
  ∀ front value back before field after other otherBytes, values = front ++ value :: back →
    structureDef = before.append (field.append after) →
    (∀ var ∈ before.names ++ after.names, value.getKey var = other.getKey var) →
    Fills structureDef other →
    bytesFromDict (.list (front ++ other :: back)) structureDef = .ok otherBytes →
    ∃ offset width head tail part otherPart,
      sizeOfStructure before = .ok offset ∧ sizeOfStructure field = .ok width ∧
      bytes = head ++ part ++ tail ∧ otherBytes = head ++ otherPart ++ tail ∧
      head.length = front.length * size + offset ∧ part.length = width ∧ otherPart.length = width

section Filled
variable {values : List PyVal}

theorem inSlots_of_fills (fills : ∀ value ∈ values, Fills structureDef value)
    (sized : sizeOfStructure structureDef = .ok size)
    (written : bytesFromDict (.list values) structureDef = .ok bytes) :
    InSlots structureDef values size bytes := by
  refine ⟨length_bytesFromDict_of_fills fills sized written, ?_⟩
  rintro front value back before field after rfl rfl
  obtain ⟨offset, width, earlier, head, part, tail, later, beforeSized, fieldSized, -, -, partWritten,
    -, -, rfl, start, length⟩ := cut_at_field fills sized written
  refine ⟨offset, width, part, beforeSized, fieldSized, (bytesFromDict_singleton ..).trans partWritten,
    length, ?_⟩
  rw [← start, ← length, List.append_assoc, List.drop_left, List.take_left]

theorem changesOwnSlot_of_fills (fills : ∀ value ∈ values, Fills structureDef value)
    (sized : sizeOfStructure structureDef = .ok size)
    (written : bytesFromDict (.list values) structureDef = .ok bytes) :
    ChangesOwnSlot structureDef values size bytes := by
  rintro front value back before field after other otherBytes rfl rfl same otherFills otherWritten
  obtain ⟨offset, width, earlier, head, part, tail, later, beforeSized, fieldSized, frontWritten,
    headWritten, -, tailWritten, backWritten, rfl, start, length⟩ := cut_at_field fills sized written
  have replaced : ∀ item ∈ front ++ other :: back, Fills (before.append (field.append after)) item := by
    intro item member
    rcases List.mem_append.mp member with earlier | later
    · exact fills item (List.mem_append_left _ earlier)
    · rcases List.mem_cons.mp later with rfl | later
      · exact otherFills
      · exact fills item (List.mem_append_right _ (List.mem_cons_of_mem _ later))
  obtain ⟨offset', width', earlier', head', part', tail', later', beforeSized', fieldSized', frontWritten',
    headWritten', -, tailWritten', backWritten', rfl, -, length'⟩ := cut_at_field replaced sized otherWritten
  rw [← writeFields_congr fun var member => same var (List.mem_append_left _ member)] at headWritten'
  rw [← writeFields_congr fun var member => same var (List.mem_append_right _ member)] at tailWritten'
  cases beforeSized.symm.trans beforeSized'
  cases fieldSized.symm.trans fieldSized'
  cases frontWritten.symm.trans frontWritten'
  cases headWritten.symm.trans headWritten'
  cases tailWritten.symm.trans tailWritten'
  cases backWritten.symm.trans backWritten'
  exact ⟨offset, width, _, _, part, part', beforeSized, fieldSized, rfl, rfl, start, length, length'⟩

/-- Fields that are found in their slots take their own bytes: each item is a
field, with what stands before it. -/
theorem fieldsFill_of_inSlots (inSlots : InSlots structureDef values size bytes) (member : value ∈ values)
    (before rest : StructureDef) (same : structureDef = before.append rest)
    (fits : EveryElement FitsEncoded rest value) : FieldsFill rest value := by
  obtain ⟨front, back, split⟩ := List.append_of_mem member
  induction rest generalizing before with
  | nil => trivial
  | item var plcDatatype count strLen rest ih =>
    obtain ⟨offset, width, part, -, sized, written, length, -⟩ :=
      inSlots.2 front value back before (.item var plcDatatype count strLen .nil) rest split same
    refine ⟨?_, ih (before.append (.item var plcDatatype count strLen .nil)) (by rw [append_assoc]; exact same) fits.2⟩
    obtain ⟨element, after, known, nothing, rfl⟩ := both_eq_ok.mp sized
    obtain ⟨field, found, walked⟩ := bind_eq_ok.mp ((bytesFromDict_singleton ..).symm.trans written)
    obtain ⟨here, others, elements, none_, rfl⟩ := both_eq_ok.mp walked
    cases nothing
    cases none_
    rw [List.append_nil, Nat.add_zero, elementSize_eq known, Nat.mul_comm] at length
    exact (length_elements found fits.1 elements).2.mp length
  | nested var plcDatatype count rest _ ih =>
    obtain ⟨offset, width, part, -, sized, written, length, -⟩ :=
      inSlots.2 front value back before (.nested var plcDatatype count .nil) rest split same
    refine ⟨fun nBytes known => ?_, ih (before.append (.nested var plcDatatype count .nil))
      (by rw [append_assoc]; exact same) fits.2⟩
    obtain ⟨inner, after, sizedInner, nothing, rfl⟩ := both_eq_ok.mp sized
    cases nothing
    cases known.symm.trans sizedInner
    rw [← length_writeFields ((bytesFromDict_singleton ..).symm.trans written), length, Nat.add_zero, Nat.mul_comm]

end Filled

/-- Dictionaries whose texts fit once encoded are kept to their slots exactly
when each of their fields takes its own bytes, and then a change of one field
stays in the field's slot. -/
theorem bytes_from_dict_in_slots_iff (sized : sizeOfStructure structureDef = .ok size)
    (fits : ∀ value ∈ values, EveryElement FitsEncoded structureDef value)
    (written : bytesFromDict (.list values) structureDef = .ok bytes) :
    (InSlots structureDef values size bytes ∧ ChangesOwnSlot structureDef values size bytes) ↔
      ∀ value ∈ values, FieldsFill structureDef value := by
  constructor
  · rintro ⟨inSlots, -⟩ value member
    exact fieldsFill_of_inSlots inSlots member .nil structureDef rfl (fits value member)
  · intro filled
    have fills : ∀ value ∈ values, Fills structureDef value :=
      fun value member => ⟨fits value member, filled value member⟩
    exact ⟨inSlots_of_fills fills sized written, changesOwnSlot_of_fills fills sized written⟩

/-- A STRING of five characters and the byte behind it. -/
def noteDef : StructureDef :=
  .item "note" .string 1 (some 5) (.item "code" (.simple .ubyte) 1 none .nil)

def noteValues (note : List Char) : PyVal := .dict [("note", .str (Text.ofChars note)), ("code", .int 1)]

private theorem note_fits (room : (Text.Utf8.encode note).length ≤ 5) :
    EveryElement FitsEncoded noteDef (noteValues note) := by
  refine ⟨?_, ?_, trivial⟩
  · rintro value i element ⟨⟩ - ⟨⟩ text encoded ⟨⟩
    refine ⟨fun _ written => ?_, nofun⟩
    cases (encodeUtf8_ofChars note).symm.trans written
    exact room
  · rintro value i element ⟨⟩ - ⟨⟩ text encoded ⟨⟩

theorem note_ascii_in_slots : InSlots noteDef [noteValues ['e']] 7 [101, 0, 0, 0, 0, 0, 1] ∧
    ChangesOwnSlot noteDef [noteValues ['e']] 7 [101, 0, 0, 0, 0, 0, 1] := by
  refine (bytes_from_dict_in_slots_iff rfl ?_ rfl).mpr ?_
  · intro value member
    obtain rfl := List.mem_singleton.mp member
    exact note_fits (by decide)
  · intro value member
    obtain rfl := List.mem_singleton.mp member
    refine ⟨?_, ?_, trivial⟩
    · rintro value i element ⟨⟩ - ⟨⟩ text - ⟨⟩
      simp [Text.ascii_ofChars]
    · rintro value i element ⟨⟩ - ⟨⟩ text ⟨⟩

/-- An accented letter takes two bytes, but the padding counts one. -/
theorem note_accented_leaves_slot :
    EveryElement FitsEncoded noteDef (noteValues ['é']) ∧ sizeOfStructure noteDef = .ok 7 ∧
    bytesFromDict (.list [noteValues ['é']]) noteDef = .ok [195, 169, 0, 0, 0, 0, 0, 1] ∧
    ¬ InSlots noteDef [noteValues ['é']] 7 [195, 169, 0, 0, 0, 0, 0, 1] := by
  refine ⟨note_fits (by decide), rfl, rfl, ?_⟩
  rintro ⟨length, -⟩
  exact absurd length (by decide)

/-- Two dictionaries in the place of one push the next field back. -/
example : bytesFromDict (.dict [("n", .list [.list [.dict [("b", .int 1)], .dict [("b", .int 2)]],
    .dict [("b", .int 3)]])]) (.nested "n" (.item "b" (.simple .ubyte) 1 none .nil) 2 .nil) = .ok [1, 2, 3] := rfl

end PyAds
