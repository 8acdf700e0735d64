import PyAds.SumCommands

/-! The buffer of a sum write: the headers of all items, then a region that
the loop over the values fills. -/
namespace PyAds
open Buffer Fallible SlotSequence

/-- The header of one item. -/
def headerBytes (symbol : SAdsSymbolEntry) : Bytes :=
  LittleEndian.ofNat 4 symbol.iGroup.toNat ++ LittleEndian.ofNat 4 symbol.iOffs.toNat ++
    LittleEndian.ofNat 4 symbol.size.toNat

@[simp] theorem length_headerBytes (symbol : SAdsSymbolEntry) : (headerBytes symbol).length = 12 := by
  simp [headerBytes]

theorem structPack_uint32 (n : UInt32) :
    structPack .I (.int n.toNat) = .ok (LittleEndian.ofNat 4 n.toNat) := by
  have bound : n.toNat < 256 ^ 4 := Nat.lt_of_lt_of_eq n.toNat_lt (by norm_num)
  have packed : packInt 4 false (.int n.toNat) = .ok (LittleEndian.ofNat 4 n.toNat) := packInt_natCast bound
  exact packed

/-- Packing needs as many values as the format has characters, and room. -/
theorem packInto_eq_ok : packInto fmt count buf offset values = .ok result ↔
    values.length = count ∧ offset + count * fmt.size ≤ buf.length ∧
      ∃ packed, concatM (structPack fmt) values = .ok packed ∧ overwrite buf offset packed = result := by
  unfold packInto
  split
  · rename_i wrong
    simp only [reduceCtorEq, false_iff]
    omega
  · rename_i right
    simp only [bind_eq_ok, pure, Except.pure, Except.ok.injEq]
    constructor
    · intro packed
      exact ⟨by omega, by omega, packed⟩
    · rintro ⟨-, -, packed⟩
      exact packed

/-- A word packed at the front of a region. -/
theorem packInto_uint32 (n : UInt32) (done rest : Bytes) (room : 4 ≤ rest.length) :
    packInto .I 1 (done ++ rest) done.length [.int n.toNat] =
      .ok (done ++ LittleEndian.ofNat 4 n.toNat ++ rest.drop 4) := by
  have packed : concatM (structPack .I) [.int n.toNat] = .ok (LittleEndian.ofNat 4 n.toNat ++ []) :=
    concatM_cons_eq_ok.mpr ⟨_, [], structPack_uint32 n, rfl, rfl⟩
  refine packInto_eq_ok.mpr ⟨rfl, ?_, _, packed, ?_⟩
  · simp only [StructFormat.size, List.length_append]
    omega
  · rw [List.append_nil, overwrite_eq_replace, LittleEndian.length_ofNat]
    simp [replace]

theorem writeHeader_eq (symbol : SAdsSymbolEntry) (done rest : Bytes) (room : 12 ≤ rest.length) :
    writeHeader symbol (done ++ rest) done.length = .ok (done ++ headerBytes symbol ++ rest.drop 12) := by
  have second : done.length + 4 = (done ++ LittleEndian.ofNat 4 symbol.iGroup.toNat).length := by simp
  have third : done.length + 8 = (done ++ LittleEndian.ofNat 4 symbol.iGroup.toNat ++
      LittleEndian.ofNat 4 symbol.iOffs.toNat).length := by simp
  rw [writeHeader, packInto_uint32 _ _ _ (by omega), bind_eq_ok]
  refine ⟨_, rfl, ?_⟩
  rw [second, packInto_uint32 _ _ _ (by simp only [List.length_drop]; omega), bind_eq_ok]
  refine ⟨_, rfl, ?_⟩
  rw [third, packInto_uint32 _ _ _ (by simp only [List.length_drop]; omega)]
  simp [headerBytes, List.drop_drop]

/-- The headers of all items at the front of a blank region. -/
theorem writeHeaders_eq (symbols : List SAdsSymbolEntry) (done : Bytes) (m : Nat) :
    writeHeaders symbols done.length (done ++ List.replicate (12 * symbols.length + m) 0) =
      .ok (done ++ symbols.flatMap headerBytes ++ List.replicate m 0) := by
  induction symbols generalizing done with
  | nil => simp [writeHeaders]
  | cons symbol symbols ih =>
    have tail := ih (done ++ headerBytes symbol)
    have blank : (List.replicate (12 * (symbol :: symbols).length + m) (0 : UInt8)).drop 12 =
        List.replicate (12 * symbols.length + m) 0 := by
      rw [List.drop_replicate, List.length_cons]
      congr 1
      omega
    rw [List.length_append, length_headerBytes] at tail
    rw [writeHeaders, writeHeader_eq _ _ _ (by simp only [List.length_replicate, List.length_cons]; omega),
      blank, bind_eq_ok]
    exact ⟨_, rfl, by simpa using tail⟩

theorem length_flatMap_headerBytes (symbols : List SAdsSymbolEntry) :
    (symbols.flatMap headerBytes).length = 12 * symbols.length := by
  induction symbols with
  | nil => rfl
  | cons symbol symbols ih =>
    simp only [List.flatMap_cons, List.length_append, length_headerBytes, ih, List.length_cons]
    omega

/-- The headers of the items of a sum write. -/
def headers (items : List WriteItem) : Bytes := (items.map (·.2.1)).flatMap headerBytes

/-- The sizes of the items together. -/
def payloadSize (items : List WriteItem) : Nat := (items.map (·.2.1.size.toNat)).sum

@[simp] theorem length_headers (items : List WriteItem) : (headers items).length = 12 * items.length := by
  rw [headers, length_flatMap_headerBytes, List.length_map]

@[simp] theorem payloadSize_cons (item : WriteItem) (items : List WriteItem) :
    payloadSize (item :: items) = item.2.1.size.toNat + payloadSize items := by
  simp [payloadSize]

/-- The values are written into a blank region behind the headers. -/
theorem sumWriteBuffer_eq (structuredDataNames : List String) (items : List WriteItem) :
    sumWriteBuffer structuredDataNames items =
      writeItems structuredDataNames items (headers items).length
        (headers items ++ List.replicate (payloadSize items) 0) := by
  have written := writeHeaders_eq (items.map (·.2.1)) [] (payloadSize items)
  rw [List.length_map] at written
  simp only [List.length_nil, List.nil_append] at written
  simp only [sumWriteBuffer, bind, Except.bind, length_headers]
  rw [show (items.map (·.2.1.size.toNat)).sum = payloadSize items from rfl, written]
  rfl

/-! ## Slots -/

/-- Written at the front of a blank region, the value fills its slot and
leaves blanks behind it. -/
structure FillsSlot (structured : Bool) (symbol : SAdsSymbolEntry) (value : PyVal) (slot : Bytes) : Prop where
  length : slot.length = symbol.size.toNat
  written : ∀ before m, symbol.size.toNat ≤ m → ∃ m', m - symbol.size.toNat ≤ m' ∧
    writeItem structured symbol (before ++ List.replicate m 0) before.length value =
      .ok (before ++ slot ++ List.replicate m' 0)

/-- The loop over such values leaves their slots behind. -/
theorem writeItems_fill {slots : List Bytes} (each : List.Forall₂ (fun item slot =>
      FillsSlot (item.1 ∈ structuredDataNames) item.2.1 item.2.2 slot) items slots)
    (before : Bytes) (blank : payloadSize items ≤ m) :
    ∃ m', writeItems structuredDataNames items before.length (before ++ List.replicate m 0) =
      .ok (before ++ slots.flatten ++ List.replicate m' 0) := by
  induction each generalizing before m with
  | nil => exact ⟨m, by simp [writeItems]⟩
  | @cons item slot items slots here _ ih =>
    obtain ⟨dataName, symbol, value⟩ := item
    rw [payloadSize_cons] at blank
    obtain ⟨middle, least, written⟩ := here.written before m (by omega)
    obtain ⟨m', rest⟩ := ih (before ++ slot) (m := middle) (by omega)
    have position : before.length + symbol.size.toNat = (before ++ slot).length := by
      rw [List.length_append, here.length]
    refine ⟨m', ?_⟩
    rw [writeItems, bind_eq_ok]
    exact ⟨_, written, by rw [position, rest]; simp⟩

theorem sumWriteBuffer_fill {slots : List Bytes} (each : List.Forall₂ (fun item slot =>
      FillsSlot (item.1 ∈ structuredDataNames) item.2.1 item.2.2 slot) items slots) :
    ∃ m, sumWriteBuffer structuredDataNames items =
      .ok (headers items ++ slots.flatten ++ List.replicate m 0) := by
  rw [sumWriteBuffer_eq]
  exact writeItems_fill each (headers items) (Nat.le_refl _)

/-- The consecutive slots that the sizes in the headers cut from the buffer. -/
def slotsOf (symbols : List SAdsSymbolEntry) (buf : Bytes) : List Bytes :=
  (cut (fun symbol => symbol.size.toNat) symbols (buf.drop (12 * symbols.length))).map Prod.snd

theorem slotsOf_headers {items : List WriteItem} {slots : List Bytes}
    (fill : List.Forall₂ (fun item slot => slot.length = item.2.1.size.toNat) items slots) (rest : Bytes) :
    slotsOf (items.map (·.2.1)) (headers items ++ slots.flatten ++ rest) = slots := by
  have behind : (headers items ++ (slots.flatten ++ rest)).drop (headers items).length = _ := List.drop_left
  rw [length_headers] at behind
  have pieces : List.Forall₂ (fun (symbol : SAdsSymbolEntry) slot => slot.length = symbol.size.toNat)
      (items.map (·.2.1)) slots := List.forall₂_map_left_iff.mpr fill
  rw [slotsOf, List.length_map, List.append_assoc, behind, cut_flatten pieces,
    List.map_snd_zip pieces.length_eq.ge]

/-- The items of a sum write are the entries of the dictionary with their
symbols. -/
theorem items_spec {values : OrderedDict String PyVal}
    (found : values.entries.mapM (writeItemOf dataSymbols) = .ok items) :
    items.map (fun item => (item.1, item.2.2)) = values.entries ∧
      values.keys.mapM (symbolOf dataSymbols) = .ok (items.map (·.2.1)) := by
  rw [mapM_eq_ok] at found
  have parts : List.Forall₂ (fun entry item => (item.1, item.2.2) = entry ∧
      symbolOf dataSymbols entry.1 = .ok item.2.1) values.entries items := by
    apply found.imp
    intro entry item here
    obtain ⟨symbol, known, same⟩ := bind_eq_ok.mp here
    cases same
    exact ⟨rfl, known⟩
  constructor
  · have same := (List.forall₂_map_right_iff (f := fun item : WriteItem => (item.1, item.2.2))).mpr
      (parts.imp fun _ _ here => here.1.symm)
    exact (List.forall₂_eq_eq_eq ▸ same).symm
  · rw [mapM_eq_ok, OrderedDict.keys, List.forall₂_map_left_iff, List.forall₂_map_right_iff]
    exact parts.imp fun _ _ here => here.2

/-- The buffer that a sum write hands to the device. -/
def transmittedBuffer (dataNamesAndValues : OrderedDict String PyVal) (dataSymbols : DataSymbols)
    (structuredDataNames : List String) : Result Bytes := do
  let items ← dataNamesAndValues.entries.mapM (writeItemOf dataSymbols)
  sumWriteBuffer structuredDataNames items

theorem adsSumWrite_eq (device : Nat → Bytes → Result Bytes) (values : OrderedDict String PyVal)
    (dataSymbols : DataSymbols) (structuredDataNames : List String) :
    adsSumWrite device values dataSymbols structuredDataNames = do
      let buf ← transmittedBuffer values dataSymbols structuredDataNames
      let errorDescriptions ← adsSumWriteBytes device values.entries.length buf
      return OrderedDict.empty.setAll (values.keys.zip errorDescriptions) := by
  unfold adsSumWrite transmittedBuffer
  cases found : values.entries.mapM (writeItemOf dataSymbols) with
  | error e => rfl
  | ok items =>
    have count := (mapM_eq_ok.mp found).length_eq
    simp only [bind, Except.bind, count]

end PyAds
