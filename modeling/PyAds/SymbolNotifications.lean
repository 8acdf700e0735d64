import PyAds.PlainRead

/-! Symbols and their notifications. A read converts the bytes of a variable by
the type of the symbol; a notification brings the same bytes to a decoder of
its own, which goes through other tests in another order. -/
namespace PyAds
open Fallible

/-- A class derived from `ctypes.Structure`: its size, and its fields with
their offsets and types. -/
structure StructureClass where
  name : String
  size : Nat
  fields : List (String × Nat × CType)

/-- The `plc_type` of a symbol that has one. -/
inductive SymbolType where
  | plc (type : PlcDataType)
  | structure_ (class_ : StructureClass)

/-- The definition of a structure symbol; its size is computed when the symbol
is created. -/
structure SymbolStructure where
  structureDef : StructureDef
  arraySize : Nat
  structureSize : Nat

/-- `AdsSymbol`, located by name or by address. -/
structure AdsSymbol where
  name : String
  indexGroup : UInt32
  indexOffset : UInt32
  plcType : Option SymbolType
  structure_ : Option SymbolStructure

/-- `size_of_structure(structure_def * array_size)` -/
def sizeOfStructures (structureDef : StructureDef) : Nat → Result Nat
  | 0 => .ok 0
  | arraySize + 1 => do
    let first ← sizeOfStructure structureDef
    let after ← sizeOfStructures structureDef arraySize
    return first + after

/-- What a symbol reads or is notified of. Iterating over an array of `c_char`
gives single characters as `bytes`. -/
inductive SymbolValue where
  | plain (value : PlainValue)
  | characters (chars : Bytes)
  | structure_ (class_ : StructureClass) (data : Bytes)
  | bytearray (data : Bytes)

/-- Equality of the values; two structures are equal if they are of one class
and have the same bytes. -/
inductive SymbolValue.Same : SymbolValue → SymbolValue → Prop
  | value (same : PyVal.Same .plain first second) : Same (.plain (.value first)) (.plain (.value second))
  | characters (chars : Bytes) : Same (.characters chars) (.characters chars)
  | structure_ (class_ : StructureClass) (data : Bytes) : Same (.structure_ class_ data) (.structure_ class_ data)
  | bytearray (data : Bytes) : Same (.bytearray data) (.bytearray data)

/-! ## Reading -/

/-- A PLC that also answers reads by address. -/
structure SymbolPlc extends NamePlc where
  adsReadAddress : UInt32 → UInt32 → Nat → Result Bytes

/-- `getattr(read_data, "value")` of a structure, if there is such a field. -/
def StructureClass.valueField (class_ : StructureClass) (data : Bytes) : Option PyVal :=
  (OrderedDict.lookup "value" class_.fields).map fun field =>
    unpackValue field.2.format ((data.drop field.1).take field.2.sizeof)

/-- `adsSyncReadReqEx2` with a structure class; `get_value_from_ctype_data`
takes a field called `value` for the value. -/
def readStructureClass (device : Nat → Result Bytes) (class_ : StructureClass) : Result SymbolValue := do
  let reply ← device class_.size
  if reply.length ≠ class_.size then
    throw (.runtimeError s!"Insufficient data (expected {class_.size} bytes, {reply.length} were read).")
  match class_.valueField (responseBuffer class_.size reply) with
  | some value => return .plain (.value value)
  | none => return .structure_ class_ (responseBuffer class_.size reply)

/-- `read_structure_by_name` with a known size. -/
def readStructureByName (plc : NamePlc) (dataName : String) (structure_ : SymbolStructure) : Result SymbolValue := do
  match ← adsSyncReadByNameEx plc dataName (some (.ctypes (.array (.simple .ubyte) structure_.structureSize))) with
  | .value values => do
    let byteList ← byteSource values
    let value ← dictFromBytes byteList structure_.structureDef structure_.arraySize
    return .plain (.value value)
  | .rows .. => throw .typeError

/-- `AdsSymbol.read` on an open connection. -/
def AdsSymbol.read (symbol : AdsSymbol) (plc : SymbolPlc) : Result SymbolValue :=
  match symbol.structure_ with
  | some structure_ => readStructureByName plc.toNamePlc symbol.name structure_
  | none =>
    match symbol.plcType with
    | some (.plc type) => do
      let value ← adsSyncReadReqEx2 (plc.adsReadAddress symbol.indexGroup symbol.indexOffset) type
      return .plain value
    | some (.structure_ class_) =>
      readStructureClass (plc.adsReadAddress symbol.indexGroup symbol.indexOffset) class_
    | none => .error .typeError

/-! ## Notifications -/

/-- The length that `add_device_notification` asks for. The dummy class of
`PLCTYPE_WSTRING`, a function and `None` have no size. -/
def AdsSymbol.notificationLength (symbol : AdsSymbol) : Result Nat :=
  match symbol.structure_ with
  | some structure_ => .ok structure_.structureSize
  | none =>
    match symbol.plcType with
    | some (.plc (.ctypes type)) => .ok type.sizeof
    | some (.structure_ class_) => .ok class_.size
    | some (.plc .wstring) | some (.plc (.arrayFunction _)) | none => .error .typeError

/-- The value of `parse_notification`, tested for in the order of the source:
STRING, structure, array, not in `DATATYPE_MAP`. -/
def parseNotification (data : Bytes) (plcDatatype : Option SymbolType) : Result SymbolValue :=
  match plcDatatype with
  | some (.plc (.ctypes .char)) => do
    let text ← decodeUtf8 (beforeZero data)
    return .plain (.value (.str text))
  | some (.structure_ class_) => .ok (.structure_ class_ (responseBuffer class_.size data))
  | some (.plc (.ctypes (.array element n))) =>
    if data.length = (CDataType.array element n).sizeof then
      match element with
      | .char => .ok (.characters data)
      | _ => .ok (.plain (listOfArray element n data))
    else .ok (.plain (.value .none))
  | some (.plc (.ctypes (.simple ctype))) => do
    let value ← structUnpack ctype.format data
    return .plain (.value value)
  | some (.plc (.arrayFunction _)) => .error .typeError
  | some (.plc .wstring) | none => .ok (.bytearray data)

/-- The buffered value after `_value_callback`, which raises before it assigns
where the decoder raises. -/
def AdsSymbol.valueCallback (symbol : AdsSymbol) (value : SymbolValue) (data : Bytes) : SymbolValue :=
  match parseNotification data symbol.plcType with
  | .ok decoded => decoded
  | .error _ => value

/-! ## Types -/

/-- The types of symbols: a scalar, STRING, STRING(n), WSTRING, an array of
numbers, a structure class, and a structure given by its definition. -/
inductive CarriedType where
  | scalar (ctype : CType)
  | string
  | sizedString (n : Nat)
  | wstring
  | array (ctype : CType) (n : Nat)
  | structureClass (class_ : StructureClass)
  | structured (structureDef : StructureDef) (arraySize : Nat)

/-- The symbol has the type; the name of a structure in the PLC stands for no
`plc_type`. -/
def AdsSymbol.Carries (symbol : AdsSymbol) : CarriedType → Prop
  | .scalar ctype => symbol.structure_ = none ∧ symbol.plcType = some (.plc (.ctypes (.simple ctype)))
  | .string => symbol.structure_ = none ∧ symbol.plcType = some (.plc (.ctypes .char))
  | .sizedString n => symbol.structure_ = none ∧ symbol.plcType = some (.plc (.ctypes (.array .char n)))
  | .wstring => symbol.structure_ = none ∧ symbol.plcType = some (.plc .wstring)
  | .array ctype n => symbol.structure_ = none ∧ symbol.plcType = some (.plc (.ctypes (.array (.simple ctype) n)))
  | .structureClass class_ => symbol.structure_ = none ∧ symbol.plcType = some (.structure_ class_)
  | .structured structureDef arraySize => symbol.plcType = none ∧ ∃ structureSize,
      sizeOfStructures structureDef arraySize = .ok structureSize ∧
      symbol.structure_ = some ⟨structureDef, arraySize, structureSize⟩

/-- The types that both decoders convert alike. -/
def CarriedType.DecodedAlike : CarriedType → Prop
  | .scalar _ | .string | .array .. => True
  | .structureClass class_ => OrderedDict.lookup "value" class_.fields = none
  | .sizedString _ | .wstring | .structured .. => False

/-- The variable of the symbol holds these bytes, by address and by name. -/
structure AdsSymbol.HoldsBytes (symbol : AdsSymbol) (plc : SymbolPlc) (content : Bytes) : Prop where
  address : ∀ length, plc.adsReadAddress symbol.indexGroup symbol.indexOffset length = .ok (content.take length)
  named : ∃ handle, plc.adsGetHandle symbol.name = .ok handle ∧
    (∀ length, plc.adsSyncRead handle length = .ok (content.take length)) ∧ plc.adsReleaseHandle handle = .ok ()

/-- Equal values, or two exceptions. -/
def Delivers : Result SymbolValue → Result SymbolValue → Prop
  | .ok delivered, .ok read => delivered.Same read
  | .error _, .error _ => True
  | _, _ => False

/-- A notification of the symbol can be requested, and a sample gives the value
of a read, which is then the buffered one. -/
def AdsSymbol.NotifiedAsRead (symbol : AdsSymbol) (plc : SymbolPlc) (sample : Bytes) : Prop :=
  (∃ length, symbol.notificationLength = .ok length) ∧
    Delivers (parseNotification sample symbol.plcType) (symbol.read plc) ∧
    ∀ buffered read, symbol.read plc = .ok read → (symbol.valueCallback buffered sample).Same read

/-! ## Agreement -/

theorem valueCallback_of_delivers {symbol : AdsSymbol}
    (delivers : Delivers (parseNotification sample symbol.plcType) result) (buffered : SymbolValue)
    (read : result = .ok value) : (symbol.valueCallback buffered sample).Same value := by
  subst read
  unfold AdsSymbol.valueCallback
  cases parsed : parseNotification sample symbol.plcType with
  | error e => rw [parsed] at delivers; cases delivers
  | ok decoded => rw [parsed] at delivers; exact delivers

section Cases
variable {symbol : AdsSymbol} {plc : SymbolPlc} {sample : Bytes} (holds : symbol.HoldsBytes plc sample)
include holds

theorem scalar_notified (unstructured : symbol.structure_ = none)
    (plcType : symbol.plcType = some (.plc (.ctypes (.simple ctype)))) (length : sample.length = ctype.sizeof) :
    Delivers (parseNotification sample symbol.plcType) (symbol.read plc) := by
  have read : symbol.read plc = .ok (.plain (.value (unpackValue ctype.format sample))) := by
    rw [AdsSymbol.read, unstructured, plcType]
    dsimp only
    rw [adsSyncReadReqEx2_exact rfl length (holds.address _)]
    rfl
  have parsed : parseNotification sample symbol.plcType =
    .ok (.plain (.value (unpackValue ctype.format sample))) := by
    rw [plcType, parseNotification, structUnpack_of_length (by rw [CType.size_format, length])]
    rfl
  rw [read, parsed]
  exact .value (.refl _)

theorem array_notified (unstructured : symbol.structure_ = none)
    (plcType : symbol.plcType = some (.plc (.ctypes (.array (.simple ctype) n))))
    (length : sample.length = n * ctype.sizeof) :
    Delivers (parseNotification sample symbol.plcType) (symbol.read plc) := by
  have read : symbol.read plc = .ok (.plain (listOfArray (.simple ctype) n sample)) := by
    rw [AdsSymbol.read, unstructured, plcType]
    dsimp only
    rw [adsSyncReadReqEx2_exact rfl length (holds.address _)]
    rfl
  have parsed : parseNotification sample symbol.plcType = .ok (.plain (listOfArray (.simple ctype) n sample)) := by
    rw [plcType]
    exact if_pos length
  rw [read, parsed]
  exact .value (.refl _)

/-- What a read of a string of any size gives. -/
private theorem read_string (unstructured : symbol.structure_ = none) {type : CDataType}
    (plcType : symbol.plcType = some (.plc (.ctypes type))) (string : typeIsString (.ctypes type) = true)
    (short : sample.length ≤ STRING_BUFFER) : symbol.read plc =
      (do let text ← decodeUtf8 (beforeZero sample); return .plain (.value (.str text))) := by
  rw [AdsSymbol.read, unstructured, plcType]
  dsimp only
  rw [adsSyncReadReqEx2_string (Or.inl string) short (holds.address _), getValueFromCtypeData_string string,
    beforeZero_append_zeros]
  cases decodeUtf8 (beforeZero sample) <;> rfl

theorem string_notified (unstructured : symbol.structure_ = none)
    (plcType : symbol.plcType = some (.plc (.ctypes .char))) (length : sample.length = 1) :
    Delivers (parseNotification sample symbol.plcType) (symbol.read plc) := by
  have short : sample.length ≤ STRING_BUFFER := by
    rw [length]
    decide
  rw [read_string holds unstructured plcType rfl short, plcType, parseNotification]
  cases decodeUtf8 (beforeZero sample) with
  | error e => trivial
  | ok text => exact .value (.refl _)

theorem structureClass_notified_iff (unstructured : symbol.structure_ = none)
    (plcType : symbol.plcType = some (.structure_ class_)) (length : sample.length = class_.size) :
    Delivers (parseNotification sample symbol.plcType) (symbol.read plc) ↔
      OrderedDict.lookup "value" class_.fields = none := by
  have whole : sample.take class_.size = sample := List.take_of_length_le length.le
  have read : symbol.read plc = .ok (match class_.valueField sample with
      | some value => .plain (.value value)
      | none => .structure_ class_ sample) := by
    rw [AdsSymbol.read, unstructured, plcType]
    dsimp only
    rw [readStructureClass, holds.address, whole]
    simp only [bind, Except.bind, length, ne_eq, not_true_eq_false, ↓reduceIte, responseBuffer_exact length]
    cases class_.valueField sample <;> rfl
  rw [read, plcType, parseNotification, responseBuffer_exact length, StructureClass.valueField]
  cases field : OrderedDict.lookup "value" class_.fields with
  | none => exact iff_of_true (.structure_ class_ sample) rfl
  | some field =>
    refine iff_of_false ?_ (by simp)
    intro same
    cases same

end Cases

/-- The notification gives single characters, the read a text. -/
theorem sizedString_not_notified {symbol : AdsSymbol} (plc : SymbolPlc) (unstructured : symbol.structure_ = none)
    (plcType : symbol.plcType = some (.plc (.ctypes (.array .char n)))) (length : sample.length = n) :
    ¬ Delivers (parseNotification sample symbol.plcType) (symbol.read plc) := by
  have parsed : parseNotification sample symbol.plcType = .ok (.characters sample) := by
    rw [plcType, parseNotification, if_pos]
    simp only [CDataType.sizeof, length, Nat.mul_one]
  rw [parsed, AdsSymbol.read, unstructured, plcType]
  intro delivers
  dsimp only at delivers
  cases value : adsSyncReadReqEx2 (plc.adsReadAddress symbol.indexGroup symbol.indexOffset)
      (.ctypes (.array .char n)) with
  | error e =>
    rw [value] at delivers
    cases delivers
  | ok read =>
    rw [value] at delivers
    cases delivers

/-- A structure is delivered as bytes, while a read gives a dictionary or a list of
them. -/
theorem structured_not_notified {symbol : AdsSymbol} (unmapped : symbol.plcType = none)
    (structured : symbol.structure_ = some structure_) (plc : SymbolPlc) (sample : Bytes) :
    ¬ Delivers (parseNotification sample symbol.plcType) (symbol.read plc) := by
  rw [unmapped, AdsSymbol.read, structured]
  intro delivers
  dsimp only at delivers
  cases value : readStructureByName plc.toNamePlc symbol.name structure_ with
  | error e =>
    rw [value] at delivers
    cases delivers
  | ok read =>
    rw [value] at delivers
    have decoded : ∃ plain, read = .plain plain := by
      unfold readStructureByName at value
      obtain ⟨values, -, value⟩ := bind_eq_ok.mp value
      cases values with
      | value values =>
        obtain ⟨byteList, -, value⟩ := bind_eq_ok.mp value
        obtain ⟨dict, -, value⟩ := bind_eq_ok.mp value
        cases value
        exact ⟨_, rfl⟩
      | rows => cases value
    obtain ⟨plain, rfl⟩ := decoded
    cases delivers

/-- A symbol is notified of what it would read exactly if it is of a scalar type,
STRING, an array of numbers, or a structure class without a field called
`value`. -/
theorem notified_as_read_iff {symbol : AdsSymbol} (carries : symbol.Carries type)
    (holds : symbol.HoldsBytes plc sample)
    (sized : ∀ length, symbol.notificationLength = .ok length → sample.length = length) :
    symbol.NotifiedAsRead plc sample ↔ type.DecodedAlike := by
  have reduce {length : Nat} (requested : symbol.notificationLength = .ok length) : symbol.NotifiedAsRead plc sample ↔
      Delivers (parseNotification sample symbol.plcType) (symbol.read plc) :=
    ⟨fun notified => notified.2.1, fun delivers =>
      ⟨⟨length, requested⟩, delivers, fun buffered _ read => valueCallback_of_delivers delivers buffered read⟩⟩
  cases type with
  | scalar ctype =>
    obtain ⟨unstructured, plcType⟩ := carries
    have requested : symbol.notificationLength = .ok ctype.sizeof := by
      rw [AdsSymbol.notificationLength, unstructured, plcType]
      rfl
    rw [reduce requested]
    exact iff_of_true (scalar_notified holds unstructured plcType (sized _ requested)) trivial
  | string =>
    obtain ⟨unstructured, plcType⟩ := carries
    have requested : symbol.notificationLength = .ok 1 := by
      rw [AdsSymbol.notificationLength, unstructured, plcType]
      rfl
    rw [reduce requested]
    exact iff_of_true (string_notified holds unstructured plcType (sized _ requested)) trivial
  | sizedString n =>
    obtain ⟨unstructured, plcType⟩ := carries
    have requested : symbol.notificationLength = .ok n := by
      rw [AdsSymbol.notificationLength, unstructured, plcType]
      exact congrArg Except.ok (Nat.mul_one n)
    rw [reduce requested]
    exact iff_of_false (sizedString_not_notified plc unstructured plcType (sized _ requested)) id
  | wstring =>
    obtain ⟨unstructured, plcType⟩ := carries
    apply iff_of_false _ id
    rintro ⟨⟨length, requested⟩, -⟩
    rw [AdsSymbol.notificationLength, unstructured, plcType] at requested
    cases requested
  | array ctype n =>
    obtain ⟨unstructured, plcType⟩ := carries
    have requested : symbol.notificationLength = .ok (n * ctype.sizeof) := by
      rw [AdsSymbol.notificationLength, unstructured, plcType]
      rfl
    rw [reduce requested]
    exact iff_of_true (array_notified holds unstructured plcType (sized _ requested)) trivial
  | structureClass class_ =>
    obtain ⟨unstructured, plcType⟩ := carries
    have requested : symbol.notificationLength = .ok class_.size := by
      rw [AdsSymbol.notificationLength, unstructured, plcType]
    rw [reduce requested]
    exact structureClass_notified_iff holds unstructured plcType (sized _ requested)
  | structured structureDef arraySize =>
    obtain ⟨unmapped, structureSize, -, structured⟩ := carries
    exact iff_of_false (fun notified => structured_not_notified unmapped structured plc sample notified.2.1) id

/-- A PLC whose variables all hold the same bytes. -/
def contentPlc (content : Bytes) : SymbolPlc where
  adsGetSymbolInfo _ := .error (.adsError 1808)
  sumRead _ _ := .error (.adsError 1793)
  adsGetHandle _ := .ok 1
  adsSyncRead _ length := .ok (content.take length)
  adsReleaseHandle _ := .ok ()
  adsReadAddress _ _ length := .ok (content.take length)

private theorem contentPlc_holds (symbol : AdsSymbol) (content : Bytes) :
    symbol.HoldsBytes (contentPlc content) content :=
  ⟨fun _ => rfl, 1, rfl, fun _ => rfl, rfl⟩

def speeds : AdsSymbol := ⟨"speeds", 0x4040, 0, some (.plc (.ctypes (.array (.simple .int16) 2))), none⟩

def label : AdsSymbol := ⟨"label", 0x4040, 4, some (.plc (.ctypes (.array .char 3))), none⟩

theorem speeds_notified_as_read : speeds.NotifiedAsRead (contentPlc [1, 0, 0xFF, 0xFF]) [1, 0, 0xFF, 0xFF] := by
  have carries : speeds.Carries (.array .int16 2) := ⟨rfl, rfl⟩
  refine (notified_as_read_iff carries (contentPlc_holds speeds _) ?_).mpr trivial
  intro length requested
  cases requested
  rfl

/-- The text `ab` is read, and delivered as three characters. -/
theorem label_not_notified_as_read : ¬ label.NotifiedAsRead (contentPlc [97, 98, 0]) [97, 98, 0] ∧
    label.notificationLength = .ok 3 :=
  ⟨fun notified => sizedString_not_notified (contentPlc [97, 98, 0]) rfl rfl rfl notified.2.1, rfl⟩

end PyAds
