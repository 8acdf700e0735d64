import PyAds.ElementaryTypes
import PyAds.ListRead
import PyAds.PlainRead

/-! The list read of one name against the plain read of that name. Each of the
two comes down to a conversion of the same memory; the conversions agree on
elementary types, with two exceptions that follow from how the list read
resolves the type. -/
namespace PyAds
open Fallible

/-! ## The two reads -/

/-- `read_list_by_name([data_name])[data_name]` -/
def readListed (plc : Plc) (symbolInfoCache : DataSymbols) (dataName : String) (cacheSymbolInfo : Bool)
    (adsSubCommands : Nat) : Result PyVal := do
  let result ← (readListByName plc symbolInfoCache [dataName] cacheSymbolInfo adsSubCommands OrderedDict.empty).1
  match result.get? dataName with
  | some value => return value
  | none => throw (.keyError dataName)

/-- Both requests reach the same memory: the handle of the name gives the bytes
that a sum read of its symbol gives. -/
structure Serves (plc : NamePlc) (memory : DeviceMemory) (dataName : String) (symbol : SAdsSymbolEntry) :
    Prop where
  info : plc.adsGetSymbolInfo dataName = .ok symbol
  listed : ∀ call, plc.sumRead call = memory.reply
  readable : (memory.read symbol.request).status = 0
  plain : ∃ handle, plc.adsGetHandle dataName = .ok handle ∧
    (∀ length, plc.adsSyncRead handle length = .ok ((memory.read symbol.request).data.take length)) ∧
    plc.adsReleaseHandle handle = .ok ()

/-- The cache knows the symbol or nothing about the name. -/
def Consistent (symbolInfoCache : DataSymbols) (dataName : String) (symbol : SAdsSymbolEntry) : Prop :=
  ∀ known, symbolInfoCache.get? dataName = some known → known = symbol

/-- Equal values, or two exceptions. -/
def Agree : Result PyVal → Result PlainValue → Prop
  | .ok first, .ok (.value second) => PyVal.Same .plain first second
  | .error _, .error _ => True
  | _, _ => False

theorem agree_congr {first second : Result PyVal} (same : first.toOption = second.toOption)
    {plain : Result PlainValue} : Agree first plain ↔ Agree second plain := by
  cases first <;> cases second <;> cases same
  · cases plain <;> exact Iff.rfl
  · exact Iff.rfl

/-! ## Resolving the symbol -/

theorem symbolInfo_of_consistent {plc : NamePlc} (info : plc.adsGetSymbolInfo dataName = .ok symbol)
    (consistent : Consistent cache dataName symbol) (cacheSymbolInfo : Bool) :
    ∃ later, symbolInfo plc cacheSymbolInfo cache dataName = .ok (symbol, later) := by
  cases cacheSymbolInfo with
  | false =>
    refine ⟨cache, ?_⟩
    simp [symbolInfo, info, bind, Except.bind, pure, Except.pure]
  | true =>
    cases found : cache.get? dataName with
    | none =>
      refine ⟨cache.set dataName symbol, ?_⟩
      simp [symbolInfo, found, info, bind, Except.bind, pure, Except.pure]
    | some known =>
      refine ⟨cache, ?_⟩
      simp [symbolInfo, found, consistent known found]

private theorem dictOf_singleton {f : String → Result β} (found : f dataName = .ok value) :
    dictOf f [dataName] = .ok (OrderedDict.empty.set dataName value) := by
  simp [dictOf, found, bind, Except.bind, pure, Except.pure, OrderedDict.setAll]

theorem resolveSymbols_of_consistent {adsGetSymbolInfo : String → Result SAdsSymbolEntry}
    (info : adsGetSymbolInfo dataName = .ok symbol) (consistent : Consistent cache dataName symbol)
    (cacheSymbolInfo : Bool) :
    ∃ later, resolveSymbols adsGetSymbolInfo cacheSymbolInfo cache [dataName] =
      .ok (OrderedDict.empty.set dataName symbol, later) := by
  cases cacheSymbolInfo with
  | false =>
    refine ⟨cache, ?_⟩
    simp [resolveSymbols, dictOf_singleton info, bind, Except.bind, pure, Except.pure]
  | true =>
    by_cases cached : dataName ∈ cache.keys
    · have found : cache.get? dataName = some symbol := by
        cases found : cache.get? dataName with
        | none => exact absurd cached (OrderedDict.get?_eq_none_iff.mp found)
        | some known => rw [consistent known found]
      have unchanged : dictOf adsGetSymbolInfo ([dataName].filter (· ∉ cache.keys)) = .ok OrderedDict.empty := by
        rw [List.filter_cons_of_neg (by simpa using cached)]
        rfl
      refine ⟨cache.update OrderedDict.empty, ?_⟩
      have known : symbolOf (cache.update OrderedDict.empty) dataName = .ok symbol := symbolOf_eq_ok.mpr found
      simp only [resolveSymbols, ↓reduceIte, unchanged, dictOf_singleton known, bind, Except.bind, pure, Except.pure]
    · have asked : [dataName].filter (· ∉ cache.keys) = [dataName] := by
        rw [List.filter_cons_of_pos (by simpa using cached)]
        rfl
      have known : symbolOf (cache.update (OrderedDict.empty.set dataName symbol)) dataName = .ok symbol := by
        apply symbolOf_eq_ok.mpr
        rw [OrderedDict.get?_update, OrderedDict.get?_set, if_pos rfl]
        rfl
      refine ⟨cache.update (OrderedDict.empty.set dataName symbol), ?_⟩
      simp only [resolveSymbols, ↓reduceIte, asked, dictOf_singleton info, dictOf_singleton known, bind, Except.bind,
        pure, Except.pure]

/-! ## Reduction to the conversions -/

theorem holdsElement_elementary {type : ElementaryType} (kind : itemKind false symbol = .ok type.itemKind)
    (size : symbol.size.toNat = type.size) : HoldsElement false symbol := by
  intro ctype scalar
  rw [size]
  rw [kind, Except.ok.injEq] at scalar
  cases type with
  | number t =>
    cases scalar
    exact t.sizeof_idCtype.le
  | string n => cases scalar
  | wstring n => cases scalar
  | array lower upper t =>
    simp only [ElementaryType.itemKind] at scalar
    split at scalar
    · cases scalar
      rw [t.sizeof_idCtype]
      exact Nat.le_mul_of_pos_left _ (by omega)
    · cases scalar

/-- The list read converts the bytes of the symbol. -/
theorem readListed_toOption {plc : NamePlc} (serves : Serves plc memory dataName symbol)
    (describes : Describes symbol type) (consistent : Consistent cache dataName symbol) (cacheSymbolInfo : Bool)
    (positive : 0 < adsSubCommands) :
    (readListed plc.toPlc cache dataName cacheSymbolInfo adsSubCommands).toOption =
      (readItem false symbol (memory.read symbol.request).data 0).toOption := by
  obtain ⟨later, resolved⟩ := resolveSymbols_of_consistent serves.info consistent cacheSymbolInfo
  have holds : ∀ other otherSymbol, (OrderedDict.empty.set dataName symbol).get? other = some otherSymbol →
      HoldsElement (other ∈ (OrderedDict.empty : StructureDefs).keys) otherSymbol := by
    intro other otherSymbol found
    rw [OrderedDict.get?_set] at found
    split at found
    · cases found
      have unstructured : decide (other ∈ (OrderedDict.empty : StructureDefs).keys) = false := by simp
      rw [unstructured]
      exact holdsElement_elementary (itemKind_describes describes) describes.size
    · cases found
  have result : memory.resultOf (OrderedDict.empty.set dataName symbol) OrderedDict.empty dataName =
      readItem false symbol (memory.read symbol.request).data 0 := by
    have known : symbolOf (OrderedDict.empty.set dataName symbol) dataName = .ok symbol := by
      apply symbolOf_eq_ok.mpr
      rw [OrderedDict.get?_set, if_pos rfl]
    simp only [DeviceMemory.resultOf, DeviceMemory.entryOf, known, bind, Except.bind, itemResult, serves.readable,
      ne_eq, not_true_eq_false, ↓reduceIte, OrderedDict.keys_empty, List.not_mem_nil, decide_false]
    cases readItem false symbol (memory.read symbol.request).data 0 <;> rfl
  have listed (final : OrderedDict String PyVal) :
      (readListByName plc.toPlc cache [dataName] cacheSymbolInfo adsSubCommands OrderedDict.empty).1 = .ok final ↔
        ∃ value, readItem false symbol (memory.read symbol.request).data 0 = .ok value ∧
          OrderedDict.empty.set dataName value = final := by
    have few : [dataName].length ≤ adsSubCommands := positive
    rw [readListByName, resolved]
    dsimp only
    rw [readList, if_pos few, serves.listed, DeviceMemory.sumRead_eq_ok holds, ← result]
    simp [dictOf, bind_eq_ok, pure, Except.pure, OrderedDict.setAll]
  apply toOption_congr
  intro value
  rw [readListed, bind_eq_ok]
  constructor
  · rintro ⟨final, returned, found⟩
    obtain ⟨value', read, rfl⟩ := (listed final).mp returned
    rw [OrderedDict.get?_set, if_pos rfl] at found
    cases found
    exact read
  · intro read
    refine ⟨_, (listed _).mpr ⟨value, read, rfl⟩, ?_⟩
    rw [OrderedDict.get?_set, if_pos rfl]
    rfl

/-- What the plain read converts: the bytes of the symbol in the buffer of its
type. -/
def ElementaryType.plainBuffer (type : ElementaryType) (data : Bytes) : Bytes :=
  match type with
  | .number _ | .array .. => data
  | .string _ | .wstring _ => data ++ List.replicate (STRING_BUFFER - data.length) 0

private theorem adsSyncReadReqEx2_describes {type : ElementaryType} (wellFormed : type.WellFormed) {data : Bytes}
    (length : data.length = type.size) (read : ∀ n, device n = .ok (data.take n)) :
    adsSyncReadReqEx2 device type.plcType = getValueFromCtypeData (type.plainBuffer data) type.plcType := by
  cases type with
  | number t => exact adsSyncReadReqEx2_exact rfl length (read _)
  | array lower upper t => exact adsSyncReadReqEx2_exact rfl length (read _)
  | string n =>
    have fits : n + 1 < 1024 := wellFormed
    have short : data.length ≤ STRING_BUFFER := by
      rw [length]
      exact fits.le
    exact adsSyncReadReqEx2_string (Or.inl rfl) short (read _)
  | wstring n =>
    have fits : 2 * (n + 1) < 1024 := wellFormed
    have short : data.length ≤ STRING_BUFFER := by
      rw [length]
      exact fits.le
    exact adsSyncReadReqEx2_string (Or.inr rfl) short (read _)

theorem readByName_describes {plc : NamePlc} (serves : Serves plc memory dataName symbol)
    (describes : Describes symbol type) (consistent : Consistent cache dataName symbol) (cacheSymbolInfo : Bool) :
    (readByName plc cache dataName cacheSymbolInfo).1 =
      getValueFromCtypeData (type.plainBuffer (memory.read symbol.request).data) type.plcType := by
  obtain ⟨later, info⟩ := symbolInfo_of_consistent serves.info consistent cacheSymbolInfo
  obtain ⟨handle, acquired, read, released⟩ := serves.plain
  have bound : type.size < 2 ^ 32 := describes.size ▸ symbol.size.toNat_lt
  have length : (memory.read symbol.request).data.length = type.size :=
    (memory.whole symbol.request).trans describes.size
  have device := adsSyncReadReqEx2_describes describes.wellFormed length read
  rw [readByName, info]
  dsimp only
  rw [describes.name, getTypeFromStr_name type describes.wellFormed.ordered bound]
  simp only [bind, Except.bind, adsSyncReadByNameEx, acquired, device, released, pure, Except.pure]
  cases getValueFromCtypeData (type.plainBuffer (memory.read symbol.request).data) type.plcType <;> rfl

/-! ## Numbers -/

@[simp] theorem PyVal.same_int : PyVal.Same order (.int i) (.int j) ↔ i = j := by
  constructor
  · intro same
    cases same with
    | refl => rfl
    | number left right =>
      cases left
      cases right
      rfl
  · rintro rfl
    exact .refl _

@[simp] theorem PyVal.same_list :
    PyVal.Same order (.list first) (.list second) ↔ List.Forall₂ (PyVal.Same order) first second := by
  constructor
  · intro same
    cases same with
    | refl => exact List.forall₂_same.mpr fun value _ => .refl value
    | number left => cases left
    | list items => exact items
  · exact .list

/-- The two classes of a number differ in the sign of `SINT` only. -/
theorem same_number {t : NumberType} (length : data.length = t.ctype.sizeof) :
    PyVal.Same .plain (unpackValue t.idCtype.format data) (unpackValue t.ctype.format data) ↔
      (t = .sint → ∀ byte ∈ data, byte.toNat < 128) := by
  by_cases signed : t = .sint
  · subst signed
    obtain ⟨byte, rfl⟩ := List.length_eq_one_iff.mp length
    have bound := byte.toNat_lt
    have worth : LittleEndian.toNat [byte] = byte.toNat := rfl
    simp only [NumberType.idCtype, NumberType.ctype, CType.format, unpackValue, PyVal.same_int, List.mem_singleton,
      forall_eq, forall_const]
    rw [LittleEndian.toInt, worth, List.length_singleton]
    by_cases small : byte.toNat < 128
    · rw [if_pos (by omega)]
      exact iff_of_true rfl small
    · rw [if_neg (by omega)]
      exact iff_of_false (by omega) small
  · have same : t.idCtype = t.ctype := by
      cases t with
      | sint => exact absurd rfl signed
      | _ => rfl
    rw [same]
    exact iff_of_true (.refl _) fun sint => absurd sint signed

/-- Every byte lies in one of the slots. -/
private theorem mem_slot {data : Bytes} (length : data.length = n * size) (member : byte ∈ data) :
    ∃ i ∈ List.range n, byte ∈ (data.drop (i * size)).take size := by
  obtain ⟨position, inside, rfl⟩ := List.mem_iff_getElem.mp member
  have positive : 0 < size := by
    by_contra zero
    have none_ : size = 0 := by omega
    rw [none_, Nat.mul_zero] at length
    omega
  have below : position / size < n := by
    apply Nat.div_lt_of_lt_mul
    rw [Nat.mul_comm]
    omega
  refine ⟨position / size, List.mem_range.mpr below, List.mem_iff_getElem.mpr ⟨position % size, ?_, ?_⟩⟩
  · have division := Nat.div_add_mod position size
    have remainder := Nat.mod_lt position positive
    rw [Nat.mul_comm] at division
    simp only [List.length_take, List.length_drop]
    omega
  · have division := Nat.div_add_mod position size
    rw [Nat.mul_comm] at division
    simp only [List.getElem_take, List.getElem_drop, division]

/-- The same for each element of an array. -/
theorem same_numbers {t : NumberType} {data : Bytes} (length : data.length = n * t.ctype.sizeof) :
    PyVal.Same .plain
        (.list ((List.range n).map fun i =>
          unpackValue t.idCtype.format ((data.drop (i * t.idCtype.sizeof)).take t.idCtype.sizeof)))
        (.list ((List.range n).map fun i =>
          unpackValue t.ctype.format ((data.drop (i * t.ctype.sizeof)).take t.ctype.sizeof))) ↔
      (t = .sint → ∀ byte ∈ data, byte.toNat < 128) := by
  rw [PyVal.same_list, List.forall₂_map_left_iff, List.forall₂_map_right_iff, List.forall₂_same]
  have slot (i : Nat) (inside : i ∈ List.range n) :
      ((data.drop (i * t.ctype.sizeof)).take t.ctype.sizeof).length = t.ctype.sizeof := by
    have before := List.mem_range.mp inside
    have step : i * t.ctype.sizeof + t.ctype.sizeof ≤ n * t.ctype.sizeof := by
      rw [← Nat.succ_mul]
      exact Nat.mul_le_mul_right _ before
    simp only [List.length_take, List.length_drop]
    omega
  simp only [t.sizeof_idCtype]
  constructor
  · intro each signed byte member
    obtain ⟨i, inside, held⟩ := mem_slot length member
    exact (same_number (slot i inside)).mp (each i inside) signed byte held
  · intro small i inside
    apply (same_number (slot i inside)).mpr
    intro signed byte member
    exact small signed byte (List.mem_of_mem_drop (List.mem_of_mem_take member))

/-! ## Texts -/

/-- A text has its terminator within the variable. -/
def ElementaryType.ValidContent (type : ElementaryType) (data : Bytes) : Prop :=
  match type with
  | .string _ => 0 ∈ data
  | .wstring _ => (findWstringNullTerminator data).isSome = true
  | .number _ | .array .. => True

private theorem beforeZero_eq_take {data : Bytes} (valid : 0 ∈ data) (after : Bytes) :
    ∃ index, TextCoding.utf8.nullIdx data = .ok index ∧ beforeZero (data ++ after) = data.take index := by
  obtain ⟨before, rest, rfl, clear⟩ := List.eq_append_cons_of_mem valid
  refine ⟨before.length, ?_, ?_⟩
  · have found : (before ++ 0 :: rest).findIdx? (· == 0) = some before.length := by
      rw [List.findIdx?_append, List.findIdx?_eq_none_iff.mpr]
      · simp [List.findIdx?_cons]
      · intro byte member
        apply beq_eq_false_iff_ne.mpr
        rintro rfl
        exact clear member
    rw [TextCoding.nullIdx, found]
  · rw [List.append_assoc, List.cons_append, beforeZero_append clear, List.take_left]

private theorem terminator_append {data : Bytes}
    (found : findWstringNullTerminator data = some index) (after : Bytes) :
    findWstringNullTerminator (data ++ after) = some index := by
  obtain ⟨seq, rest, rfl, rfl, bounded, clear⟩ := before_terminator found
  have again := find_unitBytes bounded clear (0 :: 0 :: (rest ++ after))
  rw [List.append_assoc, List.cons_append, List.cons_append, again]
  simp [findWstringNullTerminator]

/-! ## Agreement -/

/-- The types and contents that both reads convert alike: no array of one
element, which a list read takes for a number, and no negative `SINT`, which it
takes for an unsigned byte. -/
def ElementaryType.ReadAlike (type : ElementaryType) (data : Bytes) : Prop :=
  match type with
  | .number t => t = .sint → ∀ byte ∈ data, byte.toNat < 128
  | .array lower upper t => lower ≠ upper ∧ (t = .sint → ∀ byte ∈ data, byte.toNat < 128)
  | .string _ | .wstring _ => True

private theorem unpackValue_not_list : ¬ PyVal.Same order (unpackValue fmt data) (.list items) := by
  intro same
  generalize value : unpackValue fmt data = first at same
  cases same with
  | refl => cases fmt <;> cases value
  | number left right => cases right
  | list => cases fmt <;> cases value

private theorem readItem_scalar (kind : itemKind false symbol = .ok (.scalar ctype)) {data : Bytes}
    (length : data.length = ctype.sizeof) : readItem false symbol data 0 = .ok (unpackValue ctype.format data) := by
  have exact_ : data.length = ctype.format.size := by rw [CType.size_format, length]
  simp only [readItem, kind, bind, Except.bind, structUnpackFrom, Nat.zero_add, List.drop_zero,
    ← exact_, Nat.le_refl,
    ↓reduceIte, List.take_length]

private theorem readItem_array (kind : itemKind false symbol = .ok (.array ctype n)) {data : Bytes}
    (length : data.length = n * ctype.sizeof) : readItem false symbol data 0 =
      .ok (.list ((List.range n).map fun i =>
        unpackValue ctype.format ((data.drop (i * ctype.sizeof)).take ctype.sizeof))) := by
  have elements : (List.range n).mapM (fun i => structUnpackFrom ctype.format data (i * ctype.sizeof)) =
      .ok ((List.range n).map fun i => unpackValue ctype.format ((data.drop (i * ctype.sizeof)).take ctype.sizeof)) := by
    rw [mapM_eq_ok, List.forall₂_map_right_iff, List.forall₂_same]
    intro i inside
    have before := List.mem_range.mp inside
    have step : i * ctype.sizeof + ctype.sizeof ≤ n * ctype.sizeof := by
      rw [← Nat.succ_mul]
      exact Nat.mul_le_mul_right _ before
    rw [structUnpackFrom, CType.size_format, if_pos (by omega)]
  simp only [readItem, kind, bind, Except.bind, Nat.zero_add, length, Nat.le_refl, ↓reduceIte, elements]
  rfl

theorem readItem_agrees_iff (describes : Describes symbol type) {data : Bytes} (length : data.length = type.size)
    (valid : type.ValidContent data) :
    Agree (readItem false symbol data 0) (getValueFromCtypeData (type.plainBuffer data) type.plcType) ↔
      type.ReadAlike data := by
  have kind := itemKind_describes describes
  have size := describes.size
  rw [← length] at size
  cases type with
  | number t =>
    rw [readItem_scalar kind (length.trans t.sizeof_idCtype.symm)]
    exact same_number length
  | string n =>
    obtain ⟨index, found, cut⟩ := beforeZero_eq_take valid (List.replicate (STRING_BUFFER - data.length) 0)
    have plain : getValueFromCtypeData ((ElementaryType.string n).plainBuffer data) (ElementaryType.string n).plcType =
        (do let text ← decodeUtf8 (data.take index); return .value (.str text)) := by
      rw [← cut]
      rfl
    have listed : readItem false symbol data 0 = (do let text ← decodeUtf8 (data.take index); return .str text) := by
      simp only [readItem, kind, ElementaryType.itemKind, bind, Except.bind, readText, Nat.zero_add, size,
        List.take_length, List.drop_zero, found]
      rfl
    rw [plain, listed]
    apply iff_of_true _ trivial
    cases decodeUtf8 (data.take index) with
    | error e => trivial
    | ok text => exact .refl _
  | wstring n =>
    obtain ⟨index, found⟩ := Option.isSome_iff_exists.mp valid
    obtain ⟨seq, rest, split, at_, -, -⟩ := before_terminator found
    have inside : index ≤ data.length := by
      rw [split, at_, List.length_append, Text.Utf16.length_flatMap_unitBytes]
      omega
    have plain : getValueFromCtypeData ((ElementaryType.wstring n).plainBuffer data) (ElementaryType.wstring n).plcType =
        (do let text ← decodeUtf16 (data.take index); return .value (.str text)) := by
      have wide : getValueFromCtypeData ((ElementaryType.wstring n).plainBuffer data)
          (ElementaryType.wstring n).plcType = (do
            let nullIdx ← TextCoding.utf16.nullIdx (data ++ List.replicate (STRING_BUFFER - data.length) 0)
            let text ← decodeUtf16 ((data ++ List.replicate (STRING_BUFFER - data.length) 0).take nullIdx)
            return .value (.str text)) := rfl
      rw [wide, TextCoding.nullIdx, terminator_append found]
      simp only [bind, Except.bind, List.take_append_of_le_length inside]
    have listed : readItem false symbol data 0 =
      (do let text ← decodeUtf16 (data.take index); return .str text) := by
      simp only [readItem, kind, ElementaryType.itemKind, bind, Except.bind, readText, Nat.zero_add, size,
        List.take_length, List.drop_zero, TextCoding.nullIdx, found]
      rfl
    rw [plain, listed]
    apply iff_of_true _ trivial
    cases decodeUtf16 (data.take index) with
    | error e => trivial
    | ok text => exact .refl _
  | array lower upper t =>
    have ordered : lower ≤ upper := describes.wellFormed
    have plain : getValueFromCtypeData ((ElementaryType.array lower upper t).plainBuffer data)
        (ElementaryType.array lower upper t).plcType =
          .ok (.value (.list ((List.range (upper + 1 - lower)).map fun i =>
          unpackValue t.ctype.format ((data.drop (i * t.ctype.sizeof)).take t.ctype.sizeof)))) := rfl
    rw [plain]
    by_cases single : lower = upper
    · have one : data.length = t.idCtype.sizeof := by
        have count : upper + 1 - lower = 1 := by omega
        rw [length, ElementaryType.size, count, Nat.one_mul, t.sizeof_idCtype]
      rw [ElementaryType.itemKind, if_pos single] at kind
      rw [readItem_scalar kind one]
      exact iff_of_false unpackValue_not_list fun alike => alike.1 single
    · have several : data.length = (upper + 1 - lower) * t.idCtype.sizeof := by
        rw [length, ElementaryType.size, t.sizeof_idCtype]
      rw [ElementaryType.itemKind, if_neg single] at kind
      rw [readItem_array kind several]
      exact (same_numbers length).trans (by simp [ElementaryType.ReadAlike, single])

/-- A list read of one elementary variable agrees with its plain read exactly
if both convert the content alike. -/
theorem read_list_agrees_iff (plc : NamePlc) (memory : DeviceMemory) (serves : Serves plc memory dataName symbol)
    (describes : Describes symbol type) (valid : type.ValidContent (memory.read symbol.request).data)
    (listedConsistent : Consistent listedCache dataName symbol)
    (plainConsistent : Consistent plainCache dataName symbol) (cacheListed cachePlain : Bool)
    (positive : 0 < adsSubCommands) :
    Agree (readListed plc.toPlc listedCache dataName cacheListed adsSubCommands)
        (readByName plc plainCache dataName cachePlain).1 ↔
      type.ReadAlike (memory.read symbol.request).data := by
  have length : (memory.read symbol.request).data.length = type.size :=
    (memory.whole symbol.request).trans describes.size
  rw [readByName_describes serves describes plainConsistent,
    agree_congr (readListed_toOption serves describes listedConsistent cacheListed positive)]
  exact readItem_agrees_iff describes length valid

/-- A PLC with one variable. -/
def singlePlc (symbol : SAdsSymbolEntry) (memory : DeviceMemory) : NamePlc where
  adsGetSymbolInfo _ := .ok symbol
  sumRead _ := memory.reply
  adsGetHandle _ := .ok 1
  adsSyncRead _ length := .ok ((memory.read symbol.request).data.take length)
  adsReleaseHandle _ := .ok ()

def temperature : SAdsSymbolEntry := ⟨0x4040, 0, 1, 16, "SINT".toList⟩

def limits : SAdsSymbolEntry := ⟨0x4040, 0, 2, 2, "ARRAY [3..3] OF INT".toList⟩

def constantMemory (byte : UInt8) : DeviceMemory :=
  ⟨fun request => ⟨0, List.replicate request.size.toNat byte⟩, by simp⟩

private theorem consistent_empty : Consistent OrderedDict.empty dataName symbol := by
  intro known found
  cases found

private theorem singlePlc_serves (memory : DeviceMemory) (dataName : String)
    (readable : (memory.read symbol.request).status = 0) :
    Serves (singlePlc symbol memory) memory dataName symbol :=
  ⟨rfl, fun _ => rfl, readable, 1, rfl, fun _ => rfl, rfl⟩

private theorem temperature_describes : Describes temperature (.number .sint) := ⟨rfl, rfl, rfl, trivial⟩

private theorem limits_describes : Describes limits (.array 3 3 .int) := ⟨rfl, rfl, rfl, Nat.le_refl 3⟩

theorem mild_temperature_agrees :
    Agree (readListed (singlePlc temperature (constantMemory 21)).toPlc OrderedDict.empty "temperature" true 500)
      (readByName (singlePlc temperature (constantMemory 21)) OrderedDict.empty "temperature" true).1 := by
  refine (read_list_agrees_iff (singlePlc temperature (constantMemory 21)) (constantMemory 21)
    (singlePlc_serves (constantMemory 21) "temperature" rfl) temperature_describes trivial consistent_empty
    consistent_empty true true (by decide)).mpr ?_
  intro _ byte member
  rw [List.eq_of_mem_replicate member]
  decide

/-- A negative temperature, and limits with one element. -/
theorem frost_and_limits_disagree :
    ¬ Agree (readListed (singlePlc temperature (constantMemory 0xFF)).toPlc OrderedDict.empty "temperature" true 500)
        (readByName (singlePlc temperature (constantMemory 0xFF)) OrderedDict.empty "temperature" true).1 ∧
      ¬ Agree (readListed (singlePlc limits (constantMemory 7)).toPlc OrderedDict.empty "limits" true 500)
        (readByName (singlePlc limits (constantMemory 7)) OrderedDict.empty "limits" true).1 := by
  constructor
  · have listed : readListed (singlePlc temperature (constantMemory 0xFF)).toPlc OrderedDict.empty "temperature" true 500 =
        .ok (.int 255) := rfl
    have plain : (readByName (singlePlc temperature (constantMemory 0xFF)) OrderedDict.empty "temperature" true).1 =
        .ok (.value (.int (-1))) :=
      (readByName_describes (singlePlc_serves (constantMemory 0xFF) "temperature" rfl) temperature_describes
        consistent_empty true).trans rfl
    rw [listed, plain]
    intro same
    have equal := PyVal.same_int.mp same
    cases equal
  · have listed : readListed (singlePlc limits (constantMemory 7)).toPlc OrderedDict.empty "limits" true 500 =
        .ok (.int 1799) := rfl
    have plain : (readByName (singlePlc limits (constantMemory 7)) OrderedDict.empty "limits" true).1 =
        .ok (.value (.list [.int 1799])) :=
      (readByName_describes (singlePlc_serves (constantMemory 7) "limits" rfl) limits_describes
        consistent_empty true).trans rfl
    rw [listed, plain]
    intro same
    cases same with
    | number _ right => cases right

end PyAds
