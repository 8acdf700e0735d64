import PyAds.HandlerConnection
import PyAds.StructureSlots

/-! Writing an array of structures by name. How many bytes are sent comes from
the declared array size, which bytes from the dictionaries; between the two
stands a `ctypes` array, which refuses surplus elements and fills missing ones
with zeros. -/
namespace PyAds
open Fallible SlotSequence

/-! ## The write -/

/-- `structure_def * array_size` -/
def StructureDef.times (structureDef : StructureDef) : Nat → StructureDef
  | 0 => .nil
  | arraySize + 1 => structureDef.append (structureDef.times arraySize)

/-- A PLC that answers the requests of a write by name. -/
structure WritePlc where
  adsGetHandle : String → Result UInt32
  adsSyncWrite : UInt32 → Bytes → Result Unit
  adsReleaseHandle : UInt32 → Result Unit

/-- The first part of `write_structure_by_name`: the bytes, and the type of the
array that they are put in. -/
def structureArray (value : PyVal) (structureDef : StructureDef) (arraySize : Nat) (structureSize : Option Nat) :
    Result (Bytes × PlcDataType) := do
  let byteValues ← bytesFromDict value structureDef
  let structureSize ← structureSize.elim (sizeOfStructure (structureDef.times arraySize)) .ok
  let plcDatatype ← (PlcDataType.ctypes (.simple .ubyte)).times structureSize
  return (byteValues, plcDatatype)

/-- `write_structure_by_name`: its result, and the data of the write requests
that it has sent. Without a port, `write_by_name` returns at once. -/
def writeStructureByName (portOpen : Bool) (plc : WritePlc) (dataName : String) (value : PyVal)
    (structureDef : StructureDef) (arraySize : Nat) (structureSize : Option Nat) (handle : Option UInt32) :
    Result Unit × List Bytes :=
  match structureArray value structureDef arraySize structureSize with
  | .error e => (.error e, [])
  | .ok (byteValues, plcDatatype) =>
    if portOpen then
      match handle.elim (plc.adsGetHandle dataName) .ok with
      | .error e => (.error e, [])
      | .ok found =>
        match requestData (some plcDatatype) (.ofBytes byteValues) with
        | .error e => (.error e, [])
        | .ok data =>
          (do
            plc.adsSyncWrite found data
            if handle = none then plc.adsReleaseHandle found, [data])
    else (.ok (), [])

/-! ## The array -/

theorem sizeOfStructure_times (sized : sizeOfStructure structureDef = .ok size) (arraySize : Nat) :
    sizeOfStructure (structureDef.times arraySize) = .ok (arraySize * size) := by
  induction arraySize with
  | zero => rw [Nat.zero_mul]; rfl
  | succ arraySize ih => exact sizeOfStructure_append.mpr ⟨_, _, sized, ih, by rw [Nat.succ_mul, Nat.add_comm]⟩

private theorem concatM_ubytes (bytes : Bytes) :
    concatM (CDataType.simple .ubyte).fromValue (bytes.map fun byte => .int byte.toNat) = .ok bytes := by
  induction bytes with
  | nil => rfl
  | cons byte bytes ih =>
    have one : (CDataType.simple .ubyte).fromValue (.int byte.toNat) = .ok [byte] := by
      have small : ((byte.toNat : Int) % 256 ^ 1).toNat = byte.toNat := by
        have bound := byte.toNat_lt
        omega
      have back : LittleEndian.ofNat 1 byte.toNat = [byte] := by
        simpa [LittleEndian.toNat] using LittleEndian.ofNat_toNat [byte]
      have wrapped : LittleEndian.ofInt 1 byte.toNat = [byte] := by rw [LittleEndian.ofInt, small, back]
      exact congrArg _ wrapped
    exact concatM_cons_eq_ok.mpr ⟨[byte], bytes, one, ih, rfl⟩

/-- Bytes become an array of their number or of a larger one, filled with zeros. -/
theorem requestData_ofBytes (bytes : Bytes) (size : Nat) :
    requestData (some (.ctypes (.array (.simple .ubyte) size))) (.ofBytes bytes) =
      if size < bytes.length then .error .indexError
      else .ok (bytes ++ List.replicate (size - bytes.length) 0) := by
  have noText : typeIsString (.ctypes (.array (.simple .ubyte) size)) = false := rfl
  have elements : (PyVal.ofBytes bytes).iterate = .ok (bytes.map fun byte => .int byte.toNat) := rfl
  simp only [requestData, noText, Bool.false_eq_true, ↓reduceIte, elements, ← List.map_take, concatM_ubytes, bind,
    Except.bind, List.length_map]
  by_cases surplus : size < bytes.length
  · simp only [surplus, ↓reduceIte]
    rfl
  · have whole : bytes.take size = bytes := List.take_of_length_le (by omega)
    have ones : size * (CDataType.simple .ubyte).sizeof = size := Nat.mul_one size
    simp only [surplus, ↓reduceIte, whole, ones]
    rfl

/-! ## What is sent -/

/-- Either an error comes before any write request, or the one request has the
declared length and consists of encoded dictionaries; and there are as many of
them as declared wherever the call succeeds. -/
def OnlySupplied (dicts : List PyVal) (structureDef : StructureDef) (arraySize : Nat)
    (outcome : Result Unit × List Bytes) : Prop :=
  ((outcome.2 = [] ∧ outcome.1 ≠ .ok ()) ∨
    ∃ size data, sizeOfStructure structureDef = .ok size ∧ outcome.2 = [data] ∧ data.length = arraySize * size ∧
      bytesFromDict (.list dicts) structureDef = .ok data) ∧
  (outcome.1 = .ok () → dicts.length = arraySize)

/-- Dictionaries that can be encoded are sent on an open port, and they take more
bytes than the declared array has or exactly as many; in that case, unless the
PLC refuses a request, there are as many as declared. -/
def TakeWholeArray (portOpen : Bool) (plc : WritePlc) (dataName : String) (dicts : List PyVal)
    (structureDef : StructureDef) (arraySize : Nat) (handle : Option UInt32) : Prop :=
  ∀ size bytes, sizeOfStructure structureDef = .ok size → arraySize * size < 2 ^ 63 →
    bytesFromDict (.list dicts) structureDef = .ok bytes →
    portOpen = true ∧ ∀ found, handle.elim (plc.adsGetHandle dataName) .ok = .ok found →
      arraySize * size < (dicts.map (fieldsRoom structureDef)).sum ∨
        (dicts.map (fieldsRoom structureDef)).sum = arraySize * size ∧
          (plc.adsSyncWrite found bytes = .ok () → (handle = none → plc.adsReleaseHandle found = .ok ()) →
            dicts.length = arraySize)

/-- An array of bytes can be as large as a `Py_ssize_t` allows. -/
theorem times_ubyte (size : Nat) : (PlcDataType.ctypes (.simple .ubyte)).times size =
    if size < 2 ^ 63 then .ok (.ctypes (.array (.simple .ubyte) size)) else .error .overflowError := by
  have one : (size : Int) * ((CDataType.simple .ubyte).sizeof : Int) = size := Int.mul_one _
  by_cases small : size < 2 ^ 63
  · rw [if_pos small, PlcDataType.times, if_neg (by omega), if_neg (by omega), one, if_neg (by omega),
      Int.toNat_natCast]
  · rw [if_neg small, PlcDataType.times, if_pos (by omega)]

section Sent
variable {plc : WritePlc} {dataName : String} {dicts : List PyVal} {structureDef : StructureDef} {arraySize : Nat}
  {handle : Option UInt32}

/-- Without one of the three, the call ends before it looks at the port. -/
theorem structureArray_unready (positive : 1 ≤ arraySize)
    (missing : ∀ size bytes, sizeOfStructure structureDef = .ok size → arraySize * size < 2 ^ 63 →
      bytesFromDict (.list dicts) structureDef ≠ .ok bytes) :
    ∃ e, structureArray (.list dicts) structureDef arraySize none = .error e := by
  cases prepared : structureArray (.list dicts) structureDef arraySize none with
  | error e => exact ⟨e, rfl⟩
  | ok result =>
    obtain ⟨byteValues, plcDatatype⟩ := result
    obtain ⟨bytes, encoded, rest⟩ := bind_eq_ok.mp prepared
    obtain ⟨total, sized, rest⟩ := bind_eq_ok.mp rest
    obtain ⟨type, array, last⟩ := bind_eq_ok.mp rest
    cases last
    obtain ⟨previous, rfl⟩ := Nat.exists_eq_add_of_le' positive
    obtain ⟨size, others, one, more, same⟩ := sizeOfStructure_append.mp sized
    have whole : total = (previous + 1) * size := by
      have times := sizeOfStructure_times one (previous + 1)
      have repeated : sizeOfStructure (structureDef.times (previous + 1)) = .ok total := sized
      rw [times] at repeated
      exact (Except.ok.inj repeated).symm
    have small : (previous + 1) * size < 2 ^ 63 := by
      by_contra large
      rw [whole, times_ubyte, if_neg large] at array
      cases array
    exact absurd encoded (missing size byteValues one small)

/-- With all three, the bytes go into an array of the declared size. -/
theorem structureArray_ready (sized : sizeOfStructure structureDef = .ok size) (small : arraySize * size < 2 ^ 63)
    (encoded : bytesFromDict (.list dicts) structureDef = .ok bytes) :
    structureArray (.list dicts) structureDef arraySize none =
      .ok (bytes, .ctypes (.array (.simple .ubyte) (arraySize * size))) := by
  have array := times_ubyte (arraySize * size)
  rw [if_pos small] at array
  simp only [structureArray, encoded, Option.elim_none, sizeOfStructure_times sized, array, bind, Except.bind]
  rfl

/-- On an open port, the array is sent to the handle. -/
theorem writeStructureByName_sent (sized : sizeOfStructure structureDef = .ok size) (small : arraySize * size < 2 ^ 63)
    (encoded : bytesFromDict (.list dicts) structureDef = .ok bytes)
    (found : handle.elim (plc.adsGetHandle dataName) .ok = .ok known) :
    writeStructureByName true plc dataName (.list dicts) structureDef arraySize none handle =
      if arraySize * size < bytes.length then (.error .indexError, [])
      else
        let data := bytes ++ List.replicate (arraySize * size - bytes.length) 0
        (do
          plc.adsSyncWrite known data
          if handle = none then plc.adsReleaseHandle known, [data]) := by
  simp only [writeStructureByName, structureArray_ready sized small encoded, ↓reduceIte, found, requestData_ofBytes]
  by_cases surplus : arraySize * size < bytes.length
  · simp [surplus]
  · simp [surplus]

end Sent

/-- The write succeeds if the PLC accepts the data and, where the handle was
asked for, takes it back. -/
theorem answered_iff (plc : WritePlc) (handle : Option UInt32) : (do
      plc.adsSyncWrite known data
      if handle = none then plc.adsReleaseHandle known : Result Unit) = .ok () ↔
    plc.adsSyncWrite known data = .ok () ∧ (handle = none → plc.adsReleaseHandle known = .ok ()) := by
  cases plc.adsSyncWrite known data with
  | error e => simp [bind, Except.bind]
  | ok _ =>
    cases handle with
    | none => simp [bind, Except.bind]
    | some given => simp [bind, Except.bind, pure, Except.pure]

/-- A write that ends with an error before it sends anything changes nothing. -/
theorem onlySupplied_unsent (e : PyError) : OnlySupplied dicts structureDef arraySize (.error e, []) :=
  ⟨.inl ⟨rfl, nofun⟩, nofun⟩

/-- A write by name sends exactly the dictionaries that it is given, if and
only if it has an open port and these take the whole array. -/
theorem writeStructureByName_onlySupplied_iff (portOpen : Bool) (plc : WritePlc) (dataName : String)
    (dicts : List PyVal) (structureDef : StructureDef) (positive : 1 ≤ arraySize) (handle : Option UInt32) :
    OnlySupplied dicts structureDef arraySize
        (writeStructureByName portOpen plc dataName (.list dicts) structureDef arraySize none handle) ↔
      TakeWholeArray portOpen plc dataName dicts structureDef arraySize handle := by
  by_cases ready : ∃ size bytes, sizeOfStructure structureDef = .ok size ∧ arraySize * size < 2 ^ 63 ∧
      bytesFromDict (.list dicts) structureDef = .ok bytes
  swap
  · have missing (size : Nat) (bytes : Bytes) (sized : sizeOfStructure structureDef = .ok size)
        (small : arraySize * size < 2 ^ 63) : bytesFromDict (.list dicts) structureDef ≠ .ok bytes :=
      fun encoded => ready ⟨size, bytes, sized, small, encoded⟩
    obtain ⟨e, raised⟩ := structureArray_unready positive missing
    rw [writeStructureByName, raised]
    refine iff_of_true (onlySupplied_unsent e) ?_
    intro size bytes sized small encoded
    exact absurd encoded (missing size bytes sized small)
  obtain ⟨size, bytes, sized, small, encoded⟩ := ready
  have only : TakeWholeArray portOpen plc dataName dicts structureDef arraySize handle ↔
      portOpen = true ∧ ∀ found, handle.elim (plc.adsGetHandle dataName) .ok = .ok found →
        arraySize * size < bytes.length ∨ bytes.length = arraySize * size ∧
          (plc.adsSyncWrite found bytes = .ok () → (handle = none → plc.adsReleaseHandle found = .ok ()) →
            dicts.length = arraySize) := by
    have room : bytes.length = (dicts.map (fieldsRoom structureDef)).sum := length_bytesFromDict encoded
    rw [room]
    constructor
    · exact fun takes => takes size bytes sized small encoded
    · intro takes size' bytes' sized' _ encoded'
      cases sized.symm.trans sized'
      cases encoded.symm.trans encoded'
      exact takes
  rw [only]
  cases portOpen with
  | false =>
    -- the call returns although nothing has been sent
    rw [writeStructureByName, structureArray_ready sized small encoded]
    refine iff_of_false ?_ (by simp)
    rintro ⟨⟨-, raised⟩ | ⟨_, _, _, sent, _⟩, -⟩
    · exact raised rfl
    · cases sent
  | true =>
    rw [eq_self, true_and]
    cases granted : handle.elim (plc.adsGetHandle dataName) .ok with
    | error e =>
      rw [writeStructureByName, structureArray_ready sized small encoded]
      simp only [↓reduceIte, granted]
      exact iff_of_true (onlySupplied_unsent e) nofun
    | ok found =>
      simp only [Except.ok.injEq, forall_eq']
      rw [writeStructureByName_sent sized small encoded granted]
      by_cases surplus : arraySize * size < bytes.length
      · rw [if_pos surplus]
        exact iff_of_true (onlySupplied_unsent _) (.inl surplus)
      · rw [if_neg surplus, or_iff_right surplus]
        constructor
        · rintro ⟨⟨none, _⟩ | ⟨size', data, sized', sent, length, encoded'⟩, counted⟩
          · cases none
          · cases encoded.symm.trans encoded'
            cases sized.symm.trans sized'
            refine ⟨length, fun written released => counted ?_⟩
            rw [List.singleton_inj.mp sent]
            exact (answered_iff plc handle).mpr ⟨written, released⟩
        · rintro ⟨length, counted⟩
          have full : bytes ++ List.replicate (arraySize * size - bytes.length) 0 = bytes := by simp [length]
          rw [full]
          refine ⟨.inr ⟨size, bytes, sized, rfl, length, encoded⟩, fun done => ?_⟩
          obtain ⟨written, released⟩ := (answered_iff plc handle).mp done
          exact counted written released

/-- A PLC that grants and accepts everything. -/
def acceptingPlc : WritePlc := ⟨fun _ => .ok 7, fun _ _ => .ok (), fun _ => .ok ()⟩

def pointDef : StructureDef := .item "x" (.simple .int16) 1 none .nil

theorem points_onlySupplied : OnlySupplied [.dict [("x", .int 3)], .dict [("x", .int 4)]] pointDef 2
    (writeStructureByName true acceptingPlc "MAIN.points" (.list [.dict [("x", .int 3)], .dict [("x", .int 4)]])
      pointDef 2 none none) := by
  refine (writeStructureByName_onlySupplied_iff true acceptingPlc "MAIN.points" _ pointDef (by decide) none).mpr ?_
  rintro size bytes ⟨⟩ - ⟨⟩
  exact ⟨rfl, fun _ _ => .inr ⟨rfl, fun _ _ => rfl⟩⟩

/-- One dictionary for an array of two: the second element is set to zero. -/
theorem missing_structure_zeroed : ¬ OnlySupplied [.dict [("x", .int 3)]] pointDef 2
    (writeStructureByName true acceptingPlc "MAIN.points" (.list [.dict [("x", .int 3)]]) pointDef 2 none none) := by
  rintro ⟨_, counted⟩
  cases counted rfl

end PyAds
