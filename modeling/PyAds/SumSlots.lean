import PyAds.SumWriteItems

/-! Slots in the buffer of a sum write. A variable keeps to its slot if, in
whatever surroundings its value is written, the slot receives the same bytes
and nothing else changes. Text slices are measured in characters and may leave
their slots; the other branches write as many bytes as they replace. -/
namespace PyAds
open Buffer Fallible SlotSequence

/-! ## Texts -/

/-- Each character takes one unit once the text is encoded. -/
def TextCoding.Narrow : TextCoding → Text.Str → Prop
  | .utf8, text => Text.Ascii text
  | .utf16, text => Text.Basic text

namespace TextCoding

theorem length_encode_iff (encoding : encode coding text = .ok encoded) :
    coding.unit * text.length ≤ encoded.length ∧
      (encoded.length = coding.unit * text.length ↔ Narrow coding text) := by
  cases coding with
  | utf8 =>
    obtain ⟨chars, rfl, rfl⟩ := encodeUtf8_eq_ok_iff.mp encoding
    have least := Text.Utf8.length_le_encode chars
    simp only [unit, Nat.one_mul, Text.length_ofChars, Narrow, Text.ascii_ofChars]
    exact ⟨least, Text.Utf8.length_encode_eq_iff chars⟩
  | utf16 =>
    obtain ⟨chars, rfl, rfl⟩ := encodeUtf16_eq_ok_iff.mp encoding
    simp only [unit, Text.length_ofChars, Narrow, Text.basic_ofChars]
    exact ⟨Text.Utf16.length_le_encode chars, Text.Utf16.length_encode_eq_iff chars⟩

theorem encode_nil (encoding : encode coding [] = .ok encoded) : encoded = [] := by
  have narrow : Narrow coding [] := by cases coding <;> simp [Narrow, Text.Ascii, Text.Basic]
  exact List.eq_nil_of_length_eq_zero ((length_encode_iff encoding).2.mpr narrow)

end TextCoding

theorem writeText_eq_ok : writeText coding buf start value = .ok result ↔
    ∃ text encoded, value = .str text ∧ coding.encode text = .ok encoded ∧
      assignSlice buf start (start + coding.unit * text.length) encoded = result := by
  unfold writeText
  split
  · simp [bind_eq_ok, pure, Except.pure]
  · rename_i notText
    simp only [reduceCtorEq, false_iff]
    rintro ⟨text, _, rfl, -⟩
    exact notText text rfl

/-- The texts that are not empty lie within a region of this size, one unit
for each character. The first listed element is the one of index `i`, and
`first` is the position of the element of index 0. -/
def TextsWithin (coding : TextCoding) (elementSize first : Int) (size : Nat) (elements : List PyVal)
    (i : Nat) : Prop :=
  ∀ k text, elements[k]? = some (.str text) → text ≠ [] → coding.Narrow text ∧
    0 ≤ first + elementSize * (i + k : Nat) ∧
    first + elementSize * (i + k : Nat) + coding.unit * text.length ≤ size

theorem textsWithin_cons {elementSize : Int} : TextsWithin coding elementSize first size (element :: elements) i ↔
    (∀ text, element = .str text → text ≠ [] → coding.Narrow text ∧ 0 ≤ first + elementSize * i ∧
      first + elementSize * i + coding.unit * text.length ≤ size) ∧
    TextsWithin coding elementSize first size elements (i + 1) := by
  constructor
  · intro within
    refine ⟨fun text same => within 0 text (by rw [same]; rfl), fun k text found nonempty => ?_⟩
    have shifted := within (k + 1) text found nonempty
    rwa [← Nat.add_assoc, Nat.add_right_comm] at shifted
  · rintro ⟨here, later⟩ k text found nonempty
    cases k with
    | zero => exact here text (Option.some.inj found) nonempty
    | succ k =>
      have shifted := later k text found nonempty
      rwa [Nat.add_right_comm, Nat.add_assoc] at shifted

/-- A value that is written within its slot. -/
def InSlot (structured : Bool) (symbol : SAdsSymbolEntry) (value : PyVal) : Prop :=
  match itemKind structured symbol with
  | .ok .structured => ∃ bytes, assignable value = .ok bytes ∧ bytes.length = symbol.size.toNat
  | .ok (.texts coding elementSize) => ∀ elements, value.iterate = .ok elements →
      TextsWithin coding elementSize 0 symbol.size.toNat elements 0
  | .ok (.text coding) => ∀ text, value = .str text →
      coding.Narrow text ∧ coding.unit * text.length ≤ symbol.size.toNat
  | .ok (.array _ _) => True
  | .ok (.scalar ctype) => ctype.sizeof ≤ symbol.size.toNat
  | .error _ => True

/-- Whatever surrounds the slot, it receives the same bytes and nothing else
changes. -/
structure KeepsToSlot (structured : Bool) (symbol : SAdsSymbolEntry) (value : PyVal) (slot : Bytes) : Prop where
  length : slot.length = symbol.size.toNat
  written : ∀ before after,
    writeItem structured symbol (before ++ List.replicate symbol.size.toNat 0 ++ after) before.length value =
      .ok (before ++ slot ++ after)

/-! ## Values in their slots -/

theorem writeText_frame (encoding : coding.encode text = .ok encoded) {data : Bytes} {start : Nat}
    (inside : start + coding.unit * text.length ≤ data.length)
    (before after : Bytes) :
    writeText coding (before ++ data ++ after) (before.length + start : Nat) (.str text) =
      .ok (before ++ replace data start (coding.unit * text.length) encoded ++ after) := by
  have assigned := assignSlice_eq_replace (before ++ data ++ after) (before.length + start)
    (coding.unit * text.length) encoded
  rw [replace_frame before after inside encoded] at assigned
  refine writeText_eq_ok.mpr ⟨text, encoded, rfl, encoding, ?_⟩
  rw [← assigned]
  push_cast
  rfl

/-- Texts that lie within a region are written into it, whatever surrounds
the region. -/
theorem writeTexts_frame {elementSize : Int} (data : Bytes)
    (within : TextsWithin coding elementSize 0 data.length elements i)
    (written : writeTexts coding elementSize offset elements i buf = .ok result) :
    ∃ data' : Bytes, data'.length = data.length ∧ ∀ before after,
      writeTexts coding elementSize before.length elements i (before ++ data ++ after) =
        .ok (before ++ data' ++ after) := by
  induction elements generalizing data i buf with
  | nil => exact ⟨data, rfl, fun _ _ => rfl⟩
  | cons element elements ih =>
    obtain ⟨here, later⟩ := textsWithin_cons.mp within
    obtain ⟨middle, first, rest⟩ := bind_eq_ok.mp written
    obtain ⟨text, encoded, rfl, encoding, -⟩ := writeText_eq_ok.mp first
    by_cases empty : text = []
    · subst empty
      obtain rfl := TextCoding.encode_nil encoding
      obtain ⟨data', length, frame⟩ := ih data later rest
      refine ⟨data', length, fun before after => bind_eq_ok.mpr ⟨_, ?_, frame before after⟩⟩
      exact writeText_eq_ok.mpr ⟨[], [], rfl, encoding, by simp [assignSlice_nil]⟩
    · obtain ⟨narrow, forward, inside⟩ := here text rfl empty
      obtain ⟨start, position⟩ := Int.eq_ofNat_of_zero_le forward
      rw [Int.zero_add] at position
      rw [Int.zero_add, position] at inside
      have width := (TextCoding.length_encode_iff encoding).2.mpr narrow
      have same : (replace data start (coding.unit * text.length) encoded).length = data.length :=
        (length_replace _ _ width.ge).2.mpr ⟨width, Or.inr (by exact_mod_cast inside)⟩
      obtain ⟨data', length, frame⟩ := ih _ (same ▸ later) rest
      refine ⟨data', length.trans same, fun before after => bind_eq_ok.mpr ⟨_, ?_, frame before after⟩⟩
      have room : start + coding.unit * text.length ≤ data.length := by exact_mod_cast inside
      have written := writeText_frame encoding room before after
      rw [position]
      exact_mod_cast written

/-- What could be packed once is packed into every slot that is large enough. -/
theorem packInto_frame (written : packInto fmt count buf offset values = .ok result)
    (enough : count * fmt.size ≤ size) :
    ∃ slot : Bytes, slot.length = size ∧ ∀ before after,
      packInto fmt count (before ++ List.replicate size 0 ++ after) before.length values =
        .ok (before ++ slot ++ after) := by
  obtain ⟨number, -, packed, each, -⟩ := packInto_eq_ok.mp written
  have width : packed.length = count * fmt.size := by
    rw [length_concatM (fun _ => fmt.size) each fun _ _ _ here => length_structPack here, extent_const, number]
  refine ⟨packed ++ List.replicate (size - packed.length) 0, ?_, fun before after => packInto_eq_ok.mpr
    ⟨number, ?_, packed, each, ?_⟩⟩
  · rw [List.length_append, List.length_replicate]
    omega
  · rw [List.length_append, List.length_append, List.length_replicate]
    omega
  · have room : 0 + packed.length ≤ (List.replicate size (0 : UInt8)).length := by
      rw [List.length_replicate]
      omega
    have framed := replace_frame before after room packed
    rwa [Nat.add_zero, replace_replicate, ← overwrite_eq_replace] at framed

/-- A value that is written within its slot keeps to it. -/
theorem keepsToSlot_of_inSlot (inSlot : InSlot structured symbol value)
    (written : writeItem structured symbol buf offset value = .ok result) :
    ∃ slot, KeepsToSlot structured symbol value slot := by
  obtain ⟨kind, known, branch⟩ := bind_eq_ok.mp written
  simp only [InSlot, known] at inSlot
  cases kind with
  | structured =>
    obtain ⟨bytes, assigned, length⟩ := inSlot
    refine ⟨bytes, length, fun before after => ?_⟩
    have room : 0 + symbol.size.toNat ≤ (List.replicate symbol.size.toNat (0 : UInt8)).length := by simp
    have framed := replace_frame before after room bytes
    rw [Nat.add_zero, replace_replicate, Nat.sub_self, List.replicate_zero, List.append_nil,
      ← assignSlice_eq_replace] at framed
    simp only [writeItem, known, assigned, bind, Except.bind, pure, Except.pure, framed]
  | texts coding elementSize =>
    obtain ⟨elements, iterated, texts⟩ := bind_eq_ok.mp branch
    have within := inSlot elements iterated
    rw [← List.length_replicate (n := symbol.size.toNat) (a := (0 : UInt8))] at within
    obtain ⟨slot, length, frame⟩ := writeTexts_frame _ within texts
    refine ⟨slot, by rw [length, List.length_replicate], fun before after => ?_⟩
    simp only [writeItem, known, iterated, bind, Except.bind, frame]
  | text coding =>
    obtain ⟨text, encoded, rfl, encoding, -⟩ := writeText_eq_ok.mp branch
    obtain ⟨narrow, fits⟩ := inSlot text rfl
    have width := (TextCoding.length_encode_iff encoding).2.mpr narrow
    have room : 0 + coding.unit * text.length ≤ (List.replicate symbol.size.toNat (0 : UInt8)).length := by
      rw [List.length_replicate]
      omega
    refine ⟨encoded ++ List.replicate (symbol.size.toNat - coding.unit * text.length) 0, ?_,
      fun before after => ?_⟩
    · rw [List.length_append, List.length_replicate]
      omega
    · have framed := writeText_frame encoding room before after
      rw [Nat.add_zero, replace_replicate] at framed
      simp only [writeItem, known, bind, Except.bind, framed]
  | array ctype count =>
    obtain ⟨elements, iterated, packed⟩ := bind_eq_ok.mp branch
    have enough : count * ctype.format.size ≤ symbol.size.toNat := by
      rw [CType.size_format, (itemKind_array known).1]
      exact Nat.div_mul_le_self ..
    obtain ⟨slot, length, frame⟩ := packInto_frame packed enough
    refine ⟨slot, length, fun before after => ?_⟩
    simp only [writeItem, known, iterated, bind, Except.bind, frame]
  | scalar ctype =>
    have enough : 1 * ctype.format.size ≤ symbol.size.toNat := by
      rw [CType.size_format, Nat.one_mul]
      exact inSlot
    obtain ⟨slot, length, frame⟩ := packInto_frame branch enough
    refine ⟨slot, length, fun before after => ?_⟩
    simp only [writeItem, known, bind, Except.bind, frame]

/-! ## Values outside their slots -/

/-- A text written at a position within reach replaces a slice. -/
private theorem writeText_replace (written : writeText coding buf position (.str text) = .ok result)
    (forward : 0 ≤ position) : ∃ start encoded, position = (start : Nat) ∧ coding.encode text = .ok encoded ∧
      replace buf start (coding.unit * text.length) encoded = result := by
  obtain ⟨_, encoded, same, encoding, assigned⟩ := writeText_eq_ok.mp written
  cases same
  obtain ⟨start, rfl⟩ := Int.eq_ofNat_of_zero_le forward
  refine ⟨start, encoded, rfl, encoding, ?_⟩
  rw [← assigned, ← assignSlice_eq_replace]
  push_cast
  rfl

private theorem writeText_nil (written : writeText coding buf position (.str []) = .ok result) : result = buf := by
  obtain ⟨_, encoded, same, encoding, assigned⟩ := writeText_eq_ok.mp written
  cases same
  rw [TextCoding.encode_nil encoding] at assigned
  rw [← assigned]
  simp [assignSlice_nil]

/-- Writing texts never shrinks the buffer. If they start within it and its
length stays, each lies within it. -/
theorem textsWithin_of_length {elementSize : Int} {offset : Nat}
    (written : writeTexts coding elementSize offset elements i buf = .ok result)
    (forward : ∀ k < elements.length, 0 ≤ (offset : Int) + elementSize * (i + k : Nat)) :
    buf.length ≤ result.length ∧ (result.length = buf.length →
      TextsWithin coding elementSize offset buf.length elements i) := by
  induction elements generalizing i buf with
  | nil =>
    cases written
    exact ⟨Nat.le_refl _, fun _ k text found => by simp at found⟩
  | cons element elements ih =>
    obtain ⟨middle, first, rest⟩ := bind_eq_ok.mp written
    have isText : ∃ text, element = .str text := by
      obtain ⟨text, _, same, -⟩ := writeText_eq_ok.mp first
      exact ⟨text, same⟩
    obtain ⟨text, rfl⟩ := isText
    have here := forward 0 (by simp)
    obtain ⟨start, encoded, position, encoding, rfl⟩ := writeText_replace first here
    obtain ⟨least, narrow⟩ := TextCoding.length_encode_iff encoding
    obtain ⟨grown, exact_⟩ := length_replace buf start least
    obtain ⟨more, within⟩ := ih rest fun k inside => by
      have later := forward (k + 1) (by rw [List.length_cons]; omega)
      rwa [← Nat.add_assoc, Nat.add_right_comm] at later
    refine ⟨by omega, fun total => textsWithin_cons.mpr ⟨fun _ same nonempty => ?_, ?_⟩⟩
    · cases same
      obtain ⟨width, nothing | inside⟩ := exact_.mp (by omega)
      · have empty : text = [] := by
          have positive : 0 < coding.unit := by cases coding <;> decide
          exact List.eq_nil_of_length_eq_zero ((Nat.mul_eq_zero.mp nothing).resolve_left positive.ne')
        exact absurd empty nonempty
      · refine ⟨narrow.mp width, here, ?_⟩
        rw [position]
        exact_mod_cast inside
    · have kept : (replace buf start (coding.unit * text.length) encoded).length = buf.length := by omega
      exact kept ▸ within (by omega)

/-- Two buffers receive the same bytes where a text is written, and agree
afterwards where they agreed before. -/
theorem writeTexts_agree {elementSize : Int} {offset : Nat}
    (within : TextsWithin coding elementSize offset first.length elements i)
    (same : second.length = first.length)
    (written : writeTexts coding elementSize offset elements i first = .ok result)
    (written' : writeTexts coding elementSize offset elements i second = .ok result')
    (p : Nat) (reached : first[p]? = second[p]? ∨ ∃ k text, elements[k]? = some (.str text) ∧ text ≠ [] ∧
      (p : Int) = offset + elementSize * (i + k : Nat)) : result[p]? = result'[p]? := by
  induction elements generalizing i first second with
  | nil =>
    cases written
    cases written'
    rcases reached with equal | ⟨k, text, found, -⟩
    · exact equal
    · simp at found
  | cons element elements ih =>
    obtain ⟨here, later⟩ := textsWithin_cons.mp within
    obtain ⟨middle, head, rest⟩ := bind_eq_ok.mp written
    obtain ⟨middle', head', rest'⟩ := bind_eq_ok.mp written'
    obtain ⟨text, encoded, rfl, encoding, -⟩ := writeText_eq_ok.mp head
    have behind {k : Nat} : (offset : Int) + elementSize * (i + (k + 1) : Nat) =
        offset + elementSize * (i + 1 + k : Nat) := by rw [← Nat.add_assoc, Nat.add_right_comm]
    by_cases empty : text = []
    · subst empty
      obtain rfl := writeText_nil head
      obtain rfl := writeText_nil head'
      refine ih later same rest rest' (reached.imp_right ?_)
      rintro ⟨_ | k, text, found, nonempty, position⟩
      · cases found
        exact absurd rfl nonempty
      · exact ⟨k, text, found, nonempty, position.trans behind⟩
    · obtain ⟨narrow, forward, inside⟩ := here text rfl empty
      have width := (TextCoding.length_encode_iff encoding).2.mpr narrow
      obtain ⟨start, _, position, encoding', rfl⟩ := writeText_replace head forward
      cases encoding.symm.trans encoding'
      obtain ⟨start', _, position', encoding'', rfl⟩ := writeText_replace head' forward
      cases encoding.symm.trans encoding''
      obtain rfl : start = start' := by omega
      have room : start + coding.unit * text.length ≤ first.length := by
        rw [position] at inside
        exact_mod_cast inside
      have kept : (replace first start (coding.unit * text.length) encoded).length = first.length :=
        (length_replace _ _ width.ge).2.mpr ⟨width, Or.inr room⟩
      have kept' : (replace second start (coding.unit * text.length) encoded).length = second.length :=
        (length_replace _ _ width.ge).2.mpr ⟨width, Or.inr (same ▸ room)⟩
      apply ih (kept ▸ later) (by rw [kept, kept', same]) rest rest'
      rw [getElem?_replace width room, getElem?_replace width (same ▸ room)]
      rcases reached with equal | ⟨_ | k, other, found, nonempty, place⟩
      · exact Or.inl (by rw [equal])
      · have positive : 0 < coding.unit * text.length :=
          Nat.mul_pos (by cases coding <;> decide) (List.length_pos_of_ne_nil empty)
        have first_ : p = start := by
          rw [Nat.add_zero, position] at place
          exact_mod_cast place
        exact Or.inl (by rw [if_pos (by omega), if_pos (by omega)])
      · exact Or.inr ⟨k, other, found, nonempty, place.trans behind⟩

private theorem reach_back (elementSize : Int) (inside : k < count) :
    0 ≤ ((elementSize.natAbs * count : Nat) : Int) + elementSize * (0 + k : Nat) := by
  have least : elementSize.natAbs * k ≤ elementSize.natAbs * count := Nat.mul_le_mul_left _ inside.le
  have product := Int.natAbs_mul elementSize k
  rw [Int.natAbs_natCast] at product
  rw [Nat.zero_add]
  omega

/-- A variable that keeps to its slot has a value that is written within it. -/
theorem inSlot_of_keepsToSlot (keeps : KeepsToSlot structured symbol value slot) :
    InSlot structured symbol value := by
  have alone := keeps.written [] []
  have length := keeps.length
  simp only [List.nil_append, List.append_nil, List.length_nil] at alone
  obtain ⟨kind, known, branch⟩ := bind_eq_ok.mp alone
  simp only [InSlot, known]
  cases kind with
  | structured =>
    obtain ⟨bytes, assigned, replaced⟩ := bind_eq_ok.mp branch
    have same := assignSlice_eq_replace (List.replicate symbol.size.toNat (0 : UInt8)) 0 symbol.size.toNat bytes
    rw [replace_replicate, Nat.sub_self, List.replicate_zero, List.append_nil] at same
    rw [same] at replaced
    cases replaced
    exact ⟨_, assigned, length⟩
  | texts coding elementSize =>
    intro elements iterated
    -- room for texts that start in front of the slot
    have run (fill : UInt8) := keeps.written (List.replicate (elementSize.natAbs * elements.length) fill) []
    simp only [writeItem, known, iterated, bind, Except.bind, List.append_nil, List.length_replicate] at run
    have total (fill : UInt8) : (List.replicate (elementSize.natAbs * elements.length) fill ++ slot).length =
        (List.replicate (elementSize.natAbs * elements.length) fill ++
          List.replicate symbol.size.toNat 0).length := by
      simp only [List.length_append, List.length_replicate, length]
    have within := (textsWithin_of_length (run 0) fun k inside => reach_back elementSize inside).2 (total 0)
    intro k text found nonempty
    obtain ⟨narrow, forward, inside⟩ := within k text found nonempty
    rw [List.length_append, List.length_replicate, List.length_replicate] at inside
    rw [Int.zero_add]
    refine ⟨narrow, ?_, by omega⟩
    by_contra backward
    -- a text there overwrites whatever the surroundings hold
    have agree := writeTexts_agree within (by simp) (run 0) (run 1) _
      (Or.inr ⟨k, text, found, nonempty, Int.toNat_of_nonneg forward⟩)
    rw [List.getElem?_append_left (by rw [List.length_replicate]; omega),
      List.getElem?_append_left (by rw [List.length_replicate]; omega),
      List.getElem?_replicate_of_lt (by omega), List.getElem?_replicate_of_lt (by omega)] at agree
    cases agree
  | text coding =>
    rintro text rfl
    obtain ⟨start, encoded, position, encoding, replaced⟩ := writeText_replace branch (Int.le_refl 0)
    obtain rfl : start = 0 := by omega
    rw [replace_replicate] at replaced
    obtain ⟨least, narrow⟩ := TextCoding.length_encode_iff encoding
    have width := congrArg List.length replaced
    rw [List.length_append, List.length_replicate, length] at width
    exact ⟨narrow.mp (by omega), by omega⟩
  | array ctype count => trivial
  | scalar ctype =>
    have room := (packInto_eq_ok.mp branch).2.1
    rwa [List.length_replicate, CType.size_format, Nat.zero_add, Nat.one_mul] at room

/-! ## The buffer -/

theorem writeItem_of_writeItems (written : writeItems structuredDataNames items offset buf = .ok result) :
    ∀ item ∈ items, ∃ buf offset result,
      writeItem (item.1 ∈ structuredDataNames) item.2.1 buf offset item.2.2 = .ok result := by
  induction items generalizing offset buf with
  | nil => simp
  | cons item items ih =>
    obtain ⟨dataName, symbol, value⟩ := item
    obtain ⟨middle, first, rest⟩ := bind_eq_ok.mp written
    exact List.forall_mem_cons.mpr ⟨⟨buf, offset, middle, first⟩, ih rest⟩

/-- Variables that keep to their slots leave the slots one after the other. -/
theorem writeItems_slots {slots : List Bytes} (each : List.Forall₂ (fun item slot =>
      KeepsToSlot (item.1 ∈ structuredDataNames) item.2.1 item.2.2 slot) items slots) (before : Bytes) :
    writeItems structuredDataNames items before.length (before ++ List.replicate (payloadSize items) 0) =
      .ok (before ++ slots.flatten) := by
  induction each generalizing before with
  | nil => simp [writeItems, payloadSize]
  | @cons item slot items slots here _ ih =>
    obtain ⟨dataName, symbol, value⟩ := item
    have first := here.written before (List.replicate (payloadSize items) 0)
    have rest := ih (before ++ slot)
    rw [List.length_append, here.length] at rest
    rw [payloadSize_cons, List.replicate_add, ← List.append_assoc, writeItems, bind_eq_ok]
    exact ⟨_, first, by rw [rest, List.flatten_cons, List.append_assoc]⟩

theorem length_filled {items : List WriteItem} {slots : List Bytes}
    (fill : List.Forall₂ (fun item slot => slot.length = item.2.1.size.toNat) items slots) :
    slots.flatten.length = payloadSize items := by
  induction fill with
  | nil => rfl
  | cons here _ ih => rw [List.flatten_cons, List.length_append, here, ih, payloadSize_cons]

/-- The buffer of a sum write as it should be: of the announced size, with
the headers in front, and each slot independent of all other variables. -/
structure KeptApart (structuredDataNames : List String) (items : List WriteItem) (buf : Bytes) : Prop where
  length : buf.length = 12 * items.length + payloadSize items
  headers : buf.take (12 * items.length) = headers items
  slots : List.Forall₂ (fun item slot => KeepsToSlot (item.1 ∈ structuredDataNames) item.2.1 item.2.2 slot)
    items (slotsOf (items.map (·.2.1)) buf)

section Transmitted
variable {values : OrderedDict String PyVal} {items items' : List WriteItem} {buf buf' : Bytes}

theorem keptApart_of_inSlot (found : values.entries.mapM (writeItemOf dataSymbols) = .ok items)
    (built : transmittedBuffer values dataSymbols structuredDataNames = .ok buf)
    (inSlot : ∀ item ∈ items, InSlot (item.1 ∈ structuredDataNames) item.2.1 item.2.2) :
    KeptApart structuredDataNames items buf := by
  rw [transmittedBuffer, found] at built
  have run : sumWriteBuffer structuredDataNames items = .ok buf := built
  rw [sumWriteBuffer_eq] at run
  have slotted : ∀ item ∈ items, ∃ slot,
      KeepsToSlot (item.1 ∈ structuredDataNames) item.2.1 item.2.2 slot := fun item member => by
    obtain ⟨_, _, _, written⟩ := writeItem_of_writeItems run item member
    exact keepsToSlot_of_inSlot (inSlot item member) written
  obtain ⟨slots, each⟩ := exists_forall₂ slotted
  rw [writeItems_slots each] at run
  cases run
  have fill := each.imp fun _ _ here => here.length
  refine ⟨?_, ?_, ?_⟩
  · rw [List.length_append, length_headers, length_filled fill]
  · rw [← length_headers items, List.take_left]
  · have cutAgain := slotsOf_headers fill []
    rw [List.append_nil] at cutAgain
    rwa [cutAgain]

theorem KeepsToSlot.eq (keeps : KeepsToSlot structured symbol value slot)
    (keeps' : KeepsToSlot structured symbol value slot') : slot = slot' := by
  have once := (keeps.written [] []).symm.trans (keeps'.written [] [])
  simpa using once

/-- The same variable with the same value has the same slot in both buffers. -/
theorem KeptApart.slot_eq (kept : KeptApart structuredDataNames items buf)
    (kept' : KeptApart structuredDataNames items' buf') {i : Nat} (same : items[i]? = items'[i]?) :
    (slotsOf (items.map (·.2.1)) buf)[i]? = (slotsOf (items'.map (·.2.1)) buf')[i]? := by
  have length := kept.slots.length_eq
  have length' := kept'.slots.length_eq
  by_cases inside : i < items.length
  · rw [List.getElem?_eq_getElem inside] at same
    obtain ⟨inside', equal⟩ := List.getElem?_eq_some_iff.mp same.symm
    have first := (List.forall₂_iff_get.mp kept.slots).2 i inside (length ▸ inside)
    have second := (List.forall₂_iff_get.mp kept'.slots).2 i inside' (length' ▸ inside')
    simp only [List.get_eq_getElem, equal] at first second
    rw [List.getElem?_eq_getElem (length ▸ inside), List.getElem?_eq_getElem (length' ▸ inside'),
      first.eq second]
  · have outside := (List.getElem?_eq_none (Nat.le_of_not_lt inside)).symm.trans same
    rw [List.getElem?_eq_none (by omega), List.getElem?_eq_none]
    have beyond := List.getElem?_eq_none_iff.mp outside.symm
    omega

/-- A sum write keeps its variables apart exactly if each value is written
within its slot, and the slots of two such writes that share a variable and
its value agree there. -/
theorem sum_write_kept_apart_iff (found : values.entries.mapM (writeItemOf dataSymbols) = .ok items)
    (built : transmittedBuffer values dataSymbols structuredDataNames = .ok buf) :
    (KeptApart structuredDataNames items buf ↔
      ∀ item ∈ items, InSlot (item.1 ∈ structuredDataNames) item.2.1 item.2.2) ∧
    ∀ (other : OrderedDict String PyVal) items' buf', other.entries.mapM (writeItemOf dataSymbols) = .ok items' →
      transmittedBuffer other dataSymbols structuredDataNames = .ok buf' →
      (∀ item ∈ items, InSlot (item.1 ∈ structuredDataNames) item.2.1 item.2.2) →
      (∀ item ∈ items', InSlot (item.1 ∈ structuredDataNames) item.2.1 item.2.2) →
      ∀ i : Nat, items[i]? = items'[i]? →
        (slotsOf (items.map (·.2.1)) buf)[i]? = (slotsOf (items'.map (·.2.1)) buf')[i]? := by
  refine ⟨⟨fun kept item member => ?_, keptApart_of_inSlot found built⟩, ?_⟩
  · obtain ⟨slot, -, keeps⟩ := exists_of_mem_right kept.slots.flip member
    exact inSlot_of_keepsToSlot keeps
  · intro other items' buf' found' built' inSlot inSlot' i same
    exact (keptApart_of_inSlot found built inSlot).slot_eq (keptApart_of_inSlot found' built' inSlot') same

end Transmitted

/-- A label and a note of three characters. -/
def labelSymbols : DataSymbols where
  entries := [("label", ⟨0x4040, 0, 4, 30, "STRING(3)".toList⟩), ("note", ⟨0x4040, 4, 4, 30, "STRING(3)".toList⟩)]
  nodup := by decide

def labelValues (label : List Char) : OrderedDict String PyVal where
  entries := [("label", .str (Text.ofChars label)), ("note", .str [])]
  nodup := by simp

def labelItems (label : List Char) : List WriteItem :=
  [("label", ⟨0x4040, 0, 4, 30, "STRING(3)".toList⟩, .str (Text.ofChars label)),
    ("note", ⟨0x4040, 4, 4, 30, "STRING(3)".toList⟩, .str [])]

theorem label_kept_apart : KeptApart [] (labelItems ['a', 'b'])
    [0x40, 0x40, 0, 0, 0, 0, 0, 0, 4, 0, 0, 0, 0x40, 0x40, 0, 0, 4, 0, 0, 0, 4, 0, 0, 0, 97, 98, 0,
      0, 0, 0, 0, 0] := by
  have found : (labelValues ['a', 'b']).entries.mapM (writeItemOf labelSymbols) = .ok (labelItems ['a', 'b']) := rfl
  have kind : itemKind false ⟨0x4040, 0, 4, 30, "STRING(3)".toList⟩ = .ok (.text .utf8) := by decide
  have kind' : itemKind false ⟨0x4040, 4, 4, 30, "STRING(3)".toList⟩ = .ok (.text .utf8) := by decide
  have built : transmittedBuffer (labelValues ['a', 'b']) labelSymbols [] = .ok _ := rfl
  apply (sum_write_kept_apart_iff found built).1.mpr
  simp only [labelItems, List.forall_mem_cons]
  refine ⟨?_, ?_, by simp⟩
  · simp only [InSlot, List.not_mem_nil, decide_false, kind]
    rintro text same
    cases same
    exact ⟨Text.ascii_ofChars.mpr (by simp), by decide⟩
  · simp only [InSlot, List.not_mem_nil, decide_false, kind']
    rintro text same
    cases same
    exact ⟨by simp [TextCoding.Narrow, Text.Ascii], by decide⟩

/-- A label that is too long reaches into the note, and one of an accented
letter makes the buffer longer than announced. -/
theorem label_reaches_note : ∃ buf buf' buf'',
    transmittedBuffer (labelValues ['a', 'b', 'c']) labelSymbols [] = .ok buf ∧
    transmittedBuffer (labelValues ['a', 'b', 'c', 'd', 'e', 'f']) labelSymbols [] = .ok buf' ∧
    transmittedBuffer (labelValues ['é']) labelSymbols [] = .ok buf'' ∧
    slotsOf ((labelItems []).map (·.2.1)) buf = [[97, 98, 99, 0], [0, 0, 0, 0]] ∧
    slotsOf ((labelItems []).map (·.2.1)) buf' = [[97, 98, 99, 100], [101, 102, 0, 0]] ∧
    buf''.length = 33 ∧ 12 * 2 + payloadSize (labelItems []) = 32 :=
  ⟨_, _, _, rfl, rfl, rfl, rfl, rfl, rfl, rfl⟩

end PyAds
