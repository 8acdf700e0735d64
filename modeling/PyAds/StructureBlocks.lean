import PyAds.StructureSlots

/-! An array of structures is decoded block by block, and a block field by
field: each block and each field is what `dict_from_bytes` makes of its own
slice, whatever the bytes around it. -/
namespace PyAds
open Fallible SlotSequence

/-! ## The fields of a definition -/

namespace StructureDef

/-- Each field as a definition of its own, with the fields before it. -/
def fieldsFrom (before : StructureDef) : StructureDef → List (StructureDef × StructureDef)
  | .nil => []
  | .item var plcDatatype size strLen rest =>
    (before, .item var plcDatatype size strLen .nil) ::
      fieldsFrom (before.append (.item var plcDatatype size strLen .nil)) rest
  | .nested var plcDatatype size rest =>
    (before, .nested var plcDatatype size .nil) :: fieldsFrom (before.append (.nested var plcDatatype size .nil)) rest

def fields : StructureDef → List (StructureDef × StructureDef) := fieldsFrom .nil

end StructureDef

/-- The slice that `size_of_structure` gives to a field behind others, decoded
by itself. -/
def readField (byteList : ByteSource) (field : StructureDef × StructureDef) : Result PyVal := do
  let start ← sizeOfStructure field.1
  let count ← sizeOfStructure field.2
  dictFromBytes (byteList.slice start count) field.2 1

/-- A dictionary with the entries of another set in it. -/
def joinDict (values : Entries) : PyVal → Entries
  | .dict entries => entries.foldl (fun values entry => OrderedDict.setItem values entry.1 entry.2) values
  | _ => values

/-! ## Loops over slices -/

/-- A loop whose body decodes a slice of fixed width decodes the slices in a row. -/
theorem repeatRead_slices {body : Nat → Result (PyVal × Nat)} {read : Nat → Result PyVal} {width : Nat}
    (step : ∀ index, body index = (read index).map (·, index + width)) (size index : Nat) :
    repeatRead body size index =
      ((List.range size).mapM fun k => read (index + k * width)).map (·, index + size * width) := by
  induction size generalizing index with
  | zero => simp [repeatRead, pure, Except.pure, Except.map]
  | succ size ih =>
    have shifted (k : Nat) : index + width + k * width = index + (k + 1) * width := by
      rw [Nat.succ_mul]
      omega
    rw [repeatRead, step, List.range_succ_eq_map, List.mapM_cons, Nat.zero_mul, Nat.add_zero, List.mapM_map]
    cases read index with
    | error e => rfl
    | ok value =>
      simp only [Except.map, bind, Except.bind, ih, shifted, Nat.succ_eq_add_one, Function.comp_def]
      cases (List.range size).mapM fun k => read (index + (k + 1) * width) with
      | error e => rfl
      | ok values => rfl

/-! ## Blocks -/

section Blocks
variable {structureDef : StructureDef}

/-- The walk over a structure reads the slice of its size. -/
theorem readFields_slice (sized : sizeOfStructure structureDef = .ok n) (data : Bytes) (index : Nat)
    (values : Entries) : readFields structureDef (.bytes data) index values =
      (readFields structureDef ((ByteSource.bytes data).slice index n) 0 values).map fun read =>
        (read.1, index + n) := by
  have within := (sizeOfStructure_eq sized).ge
  rw [ByteSource.slice, readFields_leaves sized, readFields_leaves sized, List.drop_zero,
    readAll_take _ _ _ _ _ within]
  cases readAll readSlot Slot.width structureDef.layout (data.drop index) <;> rfl

theorem dictFromBytes_one (byteList : ByteSource) (structureDef : StructureDef) :
    dictFromBytes byteList structureDef 1 =
      (readFields structureDef byteList 0 []).map fun read => .dict read.1 := by
  rw [dictFromBytes, repeatRead]
  cases readFields structureDef byteList 0 [] <;> rfl

/-- An array of structures is decoded block by block. -/
theorem dictFromBytes_array (sized : sizeOfStructure structureDef = .ok n) (several : arraySize ≠ 1) (data : Bytes) :
    dictFromBytes (.bytes data) structureDef arraySize =
      ((List.range arraySize).mapM fun k =>
        dictFromBytes ((ByteSource.bytes data).slice (k * n) n) structureDef 1).map .list := by
  have listed (values : List PyVal) : unwrapSingle arraySize values = .list values := by
    unfold unwrapSingle
    split
    · exact absurd rfl several
    · rfl
  have looped {body : Nat → Result (PyVal × Nat)} (step : ∀ index, body index =
      (dictFromBytes ((ByteSource.bytes data).slice index n) structureDef 1).map (·, index + n)) :
      repeatRead body arraySize 0 = ((List.range arraySize).mapM fun k =>
        dictFromBytes ((ByteSource.bytes data).slice (0 + k * n) n) structureDef 1).map (·, 0 + arraySize * n) :=
    repeatRead_slices step arraySize 0
  rw [dictFromBytes, looped]
  · simp only [Nat.zero_add, listed]
    cases (List.range arraySize).mapM fun k =>
      dictFromBytes ((ByteSource.bytes data).slice (k * n) n) structureDef 1 <;> rfl
  · intro index
    rw [readFields_slice sized, dictFromBytes_one]
    cases readFields structureDef ((ByteSource.bytes data).slice index n) 0 [] <;> rfl

/-! ## Fields -/

/-- The walk over a definition with more fields behind it. -/
theorem readFields_item (byteList : ByteSource) (index : Nat) (values : Entries) :
    readFields (.item var plcDatatype size strLen rest) byteList index values =
      (readFields (.item var plcDatatype size strLen .nil) byteList index []).bind fun read =>
        readFields rest byteList read.2 (joinDict values (.dict read.1)) := by
  simp only [readFields, bind, Except.bind]
  cases repeatRead (readElement byteList plcDatatype strLen) size index <;> rfl

theorem readFields_nested (byteList : ByteSource) (index : Nat) (values : Entries) :
    readFields (.nested var plcDatatype size rest) byteList index values =
      (readFields (.nested var plcDatatype size .nil) byteList index []).bind fun read =>
        readFields rest byteList read.2 (joinDict values (.dict read.1)) := by
  rw [readFields, readFields]
  simp only [bind, Except.bind]
  split <;> rfl

/-- A field is decoded from its slot, and what is behind it from where the slot
ends. -/
theorem readField_bind {field before : StructureDef} (known : sizeOfStructure field = .ok count)
    (start : sizeOfStructure before = .ok index) (data : Bytes) (next : PyVal → Nat → Result β) :
    ((readFields field (.bytes data) index []).bind fun read => next (.dict read.1) read.2) =
      (readField (.bytes data) (before, field)).bind fun value => next value (index + count) := by
  have slot : readField (.bytes data) (before, field) =
      dictFromBytes ((ByteSource.bytes data).slice index count) field 1 := by
    simp [readField, start, known, bind, Except.bind]
  rw [slot, dictFromBytes_one, readFields_slice known]
  cases readFields field ((ByteSource.bytes data).slice index count) 0 [] <;> rfl

/-- One field and the fields behind it. -/
private theorem readField_cons {field before : StructureDef} (known : sizeOfStructure field = .ok count)
    (start : sizeOfStructure before = .ok index) (data : Bytes) (values : Entries)
    {fields : List (StructureDef × StructureDef)} {rest : StructureDef}
    (behind : ∀ values, readFields rest (.bytes data) (index + count) values =
      (fields.mapM (readField (.bytes data))).map fun dicts => (dicts.foldl joinDict values, index + count + after)) :
    ((readFields field (.bytes data) index []).bind fun read =>
        readFields rest (.bytes data) read.2 (joinDict values (.dict read.1))) =
      (((before, field) :: fields).mapM (readField (.bytes data))).map fun dicts =>
        (dicts.foldl joinDict values, index + (count + after)) := by
  rw [readField_bind known start data fun value index => readFields rest (.bytes data) index (joinDict values value),
    List.mapM_cons]
  cases readField (.bytes data) (before, field) with
  | error e => rfl
  | ok value =>
    simp only [Except.bind, bind, behind]
    cases fields.mapM (readField (.bytes data)) with
    | error e => rfl
    | ok dicts => simp [Except.map, pure, Except.pure, Nat.add_assoc]

/-- Behind the fields of another definition, the walk decodes each field from
its slot. -/
theorem readFields_fieldsFrom {before : StructureDef} (sized : sizeOfStructure structureDef = .ok n)
    (start : sizeOfStructure before = .ok index) (data : Bytes) (values : Entries) :
    readFields structureDef (.bytes data) index values =
      ((StructureDef.fieldsFrom before structureDef).mapM (readField (.bytes data))).map fun dicts =>
        (dicts.foldl joinDict values, index + n) := by
  induction structureDef generalizing before index n values with
  | nil =>
    cases sized
    rfl
  | item var plcDatatype size strLen rest ih =>
    obtain ⟨bytes, after, element, tail, rfl⟩ := both_eq_ok.mp sized
    have field : sizeOfStructure (.item var plcDatatype size strLen .nil) = .ok (bytes * size) :=
      both_eq_ok.mpr ⟨bytes, 0, element, rfl, rfl⟩
    rw [readFields_item, StructureDef.fieldsFrom]
    exact readField_cons field start data values fun values =>
      ih tail (sizeOfStructure_append.mpr ⟨_, _, start, field, rfl⟩) values
  | nested var plcDatatype size rest _ ih =>
    obtain ⟨bytes, after, inner, tail, rfl⟩ := both_eq_ok.mp sized
    have field : sizeOfStructure (.nested var plcDatatype size .nil) = .ok (bytes * size) :=
      both_eq_ok.mpr ⟨bytes, 0, inner, rfl, rfl⟩
    rw [readFields_nested, StructureDef.fieldsFrom]
    exact readField_cons field start data values fun values =>
      ih tail (sizeOfStructure_append.mpr ⟨_, _, start, field, rfl⟩) values

/-- A structure is decoded field by field. -/
theorem dictFromBytes_fields (sized : sizeOfStructure structureDef = .ok n) (block : Bytes) :
    dictFromBytes (.bytes block) structureDef 1 =
      (structureDef.fields.mapM (readField (.bytes block))).map fun dicts => .dict (dicts.foldl joinDict []) := by
  have start : sizeOfStructure .nil = .ok 0 := rfl
  rw [dictFromBytes_one, readFields_fieldsFrom sized start, StructureDef.fields]
  cases (StructureDef.fieldsFrom .nil structureDef).mapM (readField (.bytes block)) <;> rfl

end Blocks

/-! ## Slices -/

/-- The decoder with its slices taken by another function than Python's. -/
structure Slicing where
  take : ByteSource → Nat → Nat → Result ByteSource

namespace Slicing
variable (slicing : Slicing)

/-- Python's slices, which end where the source ends. -/
def python : Slicing := ⟨fun byteList start count => .ok (byteList.slice start count)⟩

/-- Slices of which none may be short. -/
def exact (short : PyError) : Slicing where
  take
    | .bytes data, start, count =>
      if start + count ≤ data.length then .ok ((ByteSource.bytes data).slice start count) else .error short
    | .text data, start, count =>
      if start + count ≤ data.length then .ok ((ByteSource.text data).slice start count) else .error short

def readElement (byteList : ByteSource) (plcDatatype : PlcType) (strLen : Option Nat) (index : Nat) :
    Result (PyVal × Nat) :=
  match plcDatatype with
  | .string => do
    let strLen := strLen.getD PLC_DEFAULT_STRING_SIZE
    let a ← (← slicing.take byteList index (strLen + 1)).bytearray
    let text ← decodeUtf8 (beforeZero a)
    return (.str text, index + (strLen + 1))
  | .wstring => do
    let strLen := strLen.getD PLC_DEFAULT_STRING_SIZE
    let nBytes := 2 * (strLen + 1)
    let a ← (← slicing.take byteList index nBytes).bytearray
    let text ← decodeUtf16 (beforeTerminator a)
    return (.str text, index + nBytes)
  | .simple ctype => do
    let nBytes := ctype.sizeof
    let a ← (← slicing.take byteList index nBytes).bytearray
    let value ← structUnpack ctype.format a
    return (value, index + nBytes)
  | .unknown => .error (.runtimeError "Datatype not found. Check structure definition")

def readFields : StructureDef → ByteSource → Nat → Entries → Result (Entries × Nat)
  | .nil, _, index, values => .ok (values, index)
  | .item var plcDatatype size strLen rest, byteList, index, values => do
    let (varArray, index) ← repeatRead (slicing.readElement byteList plcDatatype strLen) size index
    readFields rest byteList index (OrderedDict.setItem values var (unwrapSingle size varArray))
  | .nested var plcDatatype size rest, byteList, index, values => do
    let (varArray, index) ← repeatRead (fun index => do
      let nBytes ← sizeOfStructure plcDatatype
      let (inner, _) ← readFields plcDatatype (← slicing.take byteList index nBytes) 0 []
      return (.dict inner, index + nBytes)) size index
    readFields rest byteList index (OrderedDict.setItem values var (unwrapSingle size varArray))

def dictFromBytes (byteList : ByteSource) (structureDef : StructureDef) (arraySize : Nat) : Result PyVal := do
  let (valuesList, _) ← repeatRead (fun index => do
    let (values, index) ← slicing.readFields structureDef byteList index []
    return (.dict values, index)) arraySize 0
  return unwrapSingle arraySize valuesList

theorem readElement_python (byteList : ByteSource) (plcDatatype : PlcType) (strLen : Option Nat) :
    python.readElement byteList plcDatatype strLen = PyAds.readElement byteList plcDatatype strLen := by
  funext index
  cases plcDatatype <;> rfl

theorem readFields_python (structureDef : StructureDef) :
    python.readFields structureDef = PyAds.readFields structureDef := by
  have take (byteList : ByteSource) (start count : Nat) :
      python.take byteList start count = .ok (byteList.slice start count) := rfl
  funext byteList index values
  induction structureDef generalizing byteList index values with
  | nil => rfl
  | item var plcDatatype size strLen rest ih =>
    simp only [readFields, PyAds.readFields, readElement_python, ih]
  | nested var plcDatatype size rest ihNested ih =>
    simp only [readFields, PyAds.readFields, ihNested, ih, take, bind, Except.bind]

/-- With Python's slices it is the decoder itself. -/
theorem dictFromBytes_python : python.dictFromBytes = PyAds.dictFromBytes := by
  funext byteList structureDef arraySize
  rw [dictFromBytes, PyAds.dictFromBytes, readFields_python]

/-! ## No slice is short -/

theorem exact_take (short : PyError) {data : Bytes} (within : start + count ≤ data.length) :
    (exact short).take (.bytes data) start count = .ok ((ByteSource.bytes data).slice start count) :=
  if_pos within

theorem readElement_exact (short : PyError) {data : Bytes} {strLen : Option Nat}
    (within : index + (StructureDef.slotOf plcDatatype strLen).width ≤ data.length) :
    (exact short).readElement (.bytes data) plcDatatype strLen index =
      PyAds.readElement (.bytes data) plcDatatype strLen index := by
  have whole := exact_take short within
  cases plcDatatype with
  | unknown => rfl
  | string =>
    dsimp only [StructureDef.slotOf, Slot.width] at whole
    simp only [readElement, PyAds.readElement, whole, bind, Except.bind]
  | wstring =>
    dsimp only [StructureDef.slotOf, Slot.width] at whole
    simp only [readElement, PyAds.readElement, whole, bind, Except.bind]
  | simple ctype =>
    dsimp only [StructureDef.slotOf, Slot.width] at whole
    simp only [readElement, PyAds.readElement, whole, bind, Except.bind]

/-- A loop that advances by the same width each time and another whose body
agrees with it as long as there is data. -/
theorem repeatRead_within {body other : Nat → Result (PyVal × Nat)} {width bound : Nat}
    (advances : ∀ index value next, body index = .ok (value, next) → next = index + width)
    (same : ∀ index, index + width ≤ bound → other index = body index) (within : index + size * width ≤ bound) :
    repeatRead other size index = repeatRead body size index ∧
      ∀ values next, repeatRead body size index = .ok (values, next) → next = index + size * width := by
  induction size generalizing index with
  | zero =>
    refine ⟨rfl, ?_⟩
    rintro values next done
    cases done
    simp
  | succ size ih =>
    rw [Nat.succ_mul] at within ⊢
    rw [repeatRead, repeatRead, same index (by omega)]
    cases here : body index with
    | error e =>
      refine ⟨rfl, ?_⟩
      rintro values next ⟨⟩
    | ok read =>
      obtain ⟨value, next⟩ := read
      cases advances index value next here
      have later : index + width + size * width ≤ bound := by omega
      obtain ⟨equal, ends⟩ := ih later
      simp only [bind, Except.bind, equal]
      refine ⟨trivial, ?_⟩
      intro values last done
      cases rest : repeatRead body size (index + width) with
      | error e => simp [rest] at done
      | ok read =>
        obtain ⟨others, behind⟩ := read
        have reached := ends others behind rest
        rw [rest] at done
        cases done
        omega

theorem readElement_advances {data : Bytes} {strLen : Option Nat}
    (read : PyAds.readElement (.bytes data) plcDatatype strLen index = .ok (value, next)) :
    next = index + (StructureDef.slotOf plcDatatype strLen).width := by
  rw [readElement_bytes] at read
  obtain ⟨leaves, _, last⟩ := bind_eq_ok.mp read
  cases last
  rfl

/-- Over as many bytes as the definition asks for, the walk takes no short slice. -/
theorem readFields_exact (short : PyError) (sized : sizeOfStructure structureDef = .ok n) {data : Bytes}
    (within : index + n ≤ data.length) (values : Entries) :
    (exact short).readFields structureDef (.bytes data) index values =
      PyAds.readFields structureDef (.bytes data) index values := by
  induction structureDef generalizing n data index values with
  | nil => rfl
  | item var plcDatatype size strLen rest ih =>
    obtain ⟨bytes, after, element, tail, rfl⟩ := both_eq_ok.mp sized
    rw [elementSize_eq element, Nat.mul_comm] at within
    have room : index + size * (StructureDef.slotOf plcDatatype strLen).width ≤ data.length := by omega
    obtain ⟨equal, ends⟩ := repeatRead_within (fun _ _ _ => readElement_advances)
      (fun _ inside => readElement_exact short inside) room
    rw [readFields, PyAds.readFields, equal]
    cases read : repeatRead (PyAds.readElement (.bytes data) plcDatatype strLen) size index with
    | error e => rfl
    | ok result =>
      obtain ⟨varArray, next⟩ := result
      exact ih tail (by rw [ends varArray next read]; omega) _
  | nested var plcDatatype size rest ihNested ih =>
    obtain ⟨bytes, after, inner, tail, rfl⟩ := both_eq_ok.mp sized
    rw [Nat.mul_comm] at within
    have room : index + size * bytes ≤ data.length := by omega
    have same (index : Nat) (inside : index + bytes ≤ data.length) : (do
        let nBytes ← sizeOfStructure plcDatatype
        let (inner, _) ← (exact short).readFields plcDatatype (← (exact short).take (.bytes data) index nBytes) 0 []
        return (.dict inner, index + nBytes) : Result (PyVal × Nat)) = (do
        let nBytes ← sizeOfStructure plcDatatype
        let (inner, _) ← PyAds.readFields plcDatatype ((ByteSource.bytes data).slice index nBytes) 0 []
        return (.dict inner, index + nBytes)) := by
      have filled : 0 + bytes ≤ ((data.drop index).take bytes).length := by
        rw [List.length_take, List.length_drop]
        omega
      simp only [inner, exact_take short inside, ByteSource.slice, bind, Except.bind, ihNested inner filled]
    have advances (index : Nat) (value : PyVal) (next : Nat) (read : (do
        let nBytes ← sizeOfStructure plcDatatype
        let (inner, _) ← PyAds.readFields plcDatatype ((ByteSource.bytes data).slice index nBytes) 0 []
        return (.dict inner, index + nBytes) : Result (PyVal × Nat)) = .ok (value, next)) : next = index + bytes := by
      obtain ⟨nBytes, known, rest⟩ := bind_eq_ok.mp read
      cases inner.symm.trans known
      obtain ⟨fields, _, last⟩ := bind_eq_ok.mp rest
      cases last
      rfl
    obtain ⟨equal, ends⟩ := repeatRead_within advances same room
    rw [readFields, PyAds.readFields, equal]
    cases read : repeatRead (fun index => do
        let nBytes ← sizeOfStructure plcDatatype
        let (inner, _) ← PyAds.readFields plcDatatype ((ByteSource.bytes data).slice index nBytes) 0 []
        return (.dict inner, index + nBytes)) size index with
    | error e => rfl
    | ok result =>
      obtain ⟨varArray, next⟩ := result
      exact ih tail (by rw [ends varArray next read]; omega) _

/-- Over a whole number of structures, the decoder takes no short slice. -/
theorem dictFromBytes_exact (short : PyError) (sized : sizeOfStructure structureDef = .ok n) {data : Bytes}
    (length : data.length = arraySize * n) :
    (exact short).dictFromBytes (.bytes data) structureDef arraySize =
      PyAds.dictFromBytes (.bytes data) structureDef arraySize := by
  have same (index : Nat) (inside : index + n ≤ data.length) : (do
      let (values, index) ← (exact short).readFields structureDef (.bytes data) index []
      return (.dict values, index) : Result (PyVal × Nat)) = (do
      let (values, index) ← PyAds.readFields structureDef (.bytes data) index []
      return (.dict values, index)) := by rw [readFields_exact short sized inside]
  have advances (index : Nat) (value : PyVal) (next : Nat) (read : (do
      let (values, index) ← PyAds.readFields structureDef (.bytes data) index []
      return (.dict values, index) : Result (PyVal × Nat)) = .ok (value, next)) : next = index + n := by
    obtain ⟨fields, walked, last⟩ := bind_eq_ok.mp read
    rw [readFields_leaves sized] at walked
    obtain ⟨leaves, _, reached⟩ := bind_eq_ok.mp walked
    cases reached
    cases last
    rfl
  have room : 0 + arraySize * n ≤ data.length := by omega
  rw [dictFromBytes, PyAds.dictFromBytes, (repeatRead_within advances same room).1]

end Slicing

/-- An array of structures is decoded block by block, each block field by field,
and all the slices taken are as long as what is decoded from them. -/
theorem dictFromBytes_blocks (sized : sizeOfStructure structureDef = .ok s) (several : 2 ≤ n) {b : Bytes}
    (length : b.length = n * s) :
    dictFromBytes (.bytes b) structureDef n =
        ((List.range n).mapM fun k => dictFromBytes ((ByteSource.bytes b).slice (k * s) s) structureDef 1).map .list ∧
      (∀ block : Bytes, block.length = s → dictFromBytes (.bytes block) structureDef 1 =
        (structureDef.fields.mapM (readField (.bytes block))).map fun dicts => .dict (dicts.foldl joinDict [])) ∧
      Slicing.python.dictFromBytes = dictFromBytes ∧
      ∀ short, (Slicing.exact short).dictFromBytes (.bytes b) structureDef n =
        dictFromBytes (.bytes b) structureDef n := by
  refine ⟨dictFromBytes_array sized (by omega) b, ?_, Slicing.dictFromBytes_python, ?_⟩
  · intro block _
    exact dictFromBytes_fields sized block
  · intro short
    exact Slicing.dictFromBytes_exact short sized length

/-- A text and two pairs, of which the last field takes the name of the first. -/
def taggedPairs : StructureDef :=
  .item "tag" .string 1 (some 2) (.nested "pairs" (.item "low" (.simple .ubyte) 2 none .nil) 2
    (.item "tag" (.simple .uint16) 1 none .nil))

def taggedBlocks : Bytes := [65, 0, 7, 1, 2, 3, 4, 5, 6, 66, 67, 0, 8, 9, 10, 11, 12, 13]

theorem taggedBlocks_read :
    dictFromBytes (.bytes taggedBlocks) taggedPairs 2 =
        ((List.range 2).mapM fun k =>
          dictFromBytes ((ByteSource.bytes taggedBlocks).slice (k * 9) 9) taggedPairs 1).map .list ∧
      (∀ block : Bytes, block.length = 9 → dictFromBytes (.bytes block) taggedPairs 1 =
        (taggedPairs.fields.mapM (readField (.bytes block))).map fun dicts => .dict (dicts.foldl joinDict [])) ∧
      Slicing.python.dictFromBytes = dictFromBytes ∧
      ∀ short, (Slicing.exact short).dictFromBytes (.bytes taggedBlocks) taggedPairs 2 =
        dictFromBytes (.bytes taggedBlocks) taggedPairs 2 :=
  dictFromBytes_blocks rfl (by decide) rfl

end PyAds
