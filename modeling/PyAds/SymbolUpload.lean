import PyAds.HandlerConnection
import PyAds.TypeNames

/-! The upload of the symbol table. Every entry tells its own length, by which the
loop finds the next one, and the lengths of its three texts. -/
namespace PyAds
open SlotSequence Fallible

/-! ## The loop -/

/-- What `strip` removes from a decoded text. -/
def isAdsBlank (c : Char) : Bool := c ∈ [' ', '\t', '\n', '\r', '\x00']

/-- `text.strip(" \t\n\r\0")` -/
def stripAds (text : List Char) : List Char :=
  ((text.dropWhile isAdsBlank).reverse.dropWhile isAdsBlank).reverse

/-- `decode_ads` -/
def decodeAds (message : Bytes) : Result (List Char) := do
  let text ← decodeWindows1252 message
  return stripAds text

/-- An `AdsSymbol` from the table. -/
structure UploadedSymbol where
  name : List Char
  indexGroup : Nat
  indexOffset : Nat
  symbolType : List Char
  comment : List Char
  plcType : Option PlcDataType

/-- One pass of the loop: a symbol, and the position of the next one. Slices that
are too short for their numbers cannot be unpacked, those of texts are shorter. -/
def uploadedSymbol (maxStrDigits : Nat) (symbolListMsg : Bytes) (ptr : Nat) : Result (UploadedSymbol × Nat) := do
  if symbolListMsg.length < ptr + 30 then throw .structError
  let readLength := fieldAt 4 ptr symbolListMsg
  let indexGroup := fieldAt 4 (ptr + 4) symbolListMsg
  let indexOffset := fieldAt 4 (ptr + 8) symbolListMsg
  let nameLength := fieldAt 2 (ptr + 24) symbolListMsg
  let typeLength := fieldAt 2 (ptr + 26) symbolListMsg
  let commentLength := fieldAt 2 (ptr + 28) symbolListMsg
  let nameStartPtr := ptr + 30
  let nameEndPtr := nameStartPtr + nameLength
  let typeStartPtr := nameEndPtr + 1
  let typeEndPtr := typeStartPtr + typeLength
  let commentStartPtr := typeEndPtr + 1
  let commentEndPtr := commentStartPtr + commentLength
  let name ← decodeAds ((symbolListMsg.take nameEndPtr).drop nameStartPtr)
  let symbolType ← decodeAds ((symbolListMsg.take typeEndPtr).drop typeStartPtr)
  let comment ← decodeAds ((symbolListMsg.take commentEndPtr).drop commentStartPtr)
  let plcType ← typeFromStr maxStrDigits symbolType
  return (⟨name, indexGroup, indexOffset, symbolType, comment, plcType⟩, ptr + readLength)

def uploadedSymbols (maxStrDigits : Nat) (symbolListMsg : Bytes) : Nat → Nat → Result (List UploadedSymbol)
  | 0, _ => .ok []
  | symCount + 1, ptr => do
    let (symbol, ptr) ← uploadedSymbol maxStrDigits symbolListMsg ptr
    let symbols ← uploadedSymbols maxStrDigits symbolListMsg symCount ptr
    return symbol :: symbols

/-- `get_all_symbols` on an open connection. The number of symbols and the length
of the table are read as a string, the table with a length check. -/
def getAllSymbols (maxStrDigits : Nat) (device : UInt32 → Nat → Result Bytes) : Result (List UploadedSymbol) := do
  let info ← device ADSIGRP_SYM_UPLOADINFO2 STRING_BUFFER
  let symbolSizeMsg := responseBuffer STRING_BUFFER info
  let symCount := fieldAt 4 0 symbolSizeMsg
  let symListLength := fieldAt 4 4 symbolSizeMsg
  let reply ← device ADSIGRP_SYM_UPLOAD symListLength
  checkLength symListLength reply.length
  uploadedSymbols maxStrDigits (responseBuffer symListLength reply) symCount 0

/-! ## The format -/

/-- A text with its encoding. -/
structure EncodedText where
  data : Bytes
  chars : List Char
  decoded : decodeWindows1252 data = .ok chars
  short : data.length < 2 ^ 16

/-- An entry of the table. Each text is followed by one byte, the comment also by
the padding. -/
structure UploadEntry where
  group : UInt32
  offset : UInt32
  size : UInt32
  dataType : UInt32
  flags : UInt32
  name : EncodedText
  typeName : EncodedText
  comment : EncodedText
  afterName : UInt8
  afterType : UInt8
  afterComment : UInt8
  padding : Bytes
  short : 33 + name.data.length + typeName.data.length + comment.data.length + padding.length < 2 ^ 32

namespace UploadEntry

def entryLength (entry : UploadEntry) : Nat :=
  33 + entry.name.data.length + entry.typeName.data.length + entry.comment.data.length + entry.padding.length

/-- The numbers at the front, with their widths. -/
def fields (entry : UploadEntry) : List (Nat × Nat) :=
  [(4, entry.entryLength), (4, entry.group.toNat), (4, entry.offset.toNat), (4, entry.size.toNat),
    (4, entry.dataType.toNat), (4, entry.flags.toNat), (2, entry.name.data.length), (2, entry.typeName.data.length),
    (2, entry.comment.data.length)]

def strings (entry : UploadEntry) : Bytes :=
  entry.name.data ++ entry.afterName :: (entry.typeName.data ++ entry.afterType ::
    (entry.comment.data ++ entry.afterComment :: entry.padding))

def encode (entry : UploadEntry) : Bytes :=
  entry.fields.flatMap (fun field => LittleEndian.ofNat field.1 field.2) ++ entry.strings

/-- The symbol of an entry, unless its type name is not answered. -/
def symbol (maxStrDigits : Nat) (entry : UploadEntry) : Result UploadedSymbol :=
  (typeFromStr maxStrDigits (stripAds entry.typeName.chars)).map fun plcType =>
    ⟨stripAds entry.name.chars, entry.group.toNat, entry.offset.toNat, stripAds entry.typeName.chars,
      stripAds entry.comment.chars, plcType⟩

theorem length_strings (entry : UploadEntry) : entry.strings.length + 30 = entry.entryLength := by
  simp only [strings, entryLength, List.length_append, List.length_cons]
  omega

theorem fields_fit (entry : UploadEntry) : ∀ field ∈ entry.fields, field.2 < 256 ^ field.1 := by
  have whole := entry.short
  have group := entry.group.toNat_lt
  have offset := entry.offset.toNat_lt
  have size := entry.size.toNat_lt
  have dataType := entry.dataType.toNat_lt
  have flags := entry.flags.toNat_lt
  have name := entry.name.short
  have typeName := entry.typeName.short
  have comment := entry.comment.short
  simp only [fields, entryLength, List.forall_mem_cons, List.not_mem_nil, false_implies, implies_true, and_true]
  omega

/-- The numbers are found where they are looked for, and the texts behind them. -/
theorem exists_header (entry : UploadEntry) : ∃ header : Bytes, header.length = 30 ∧
    entry.encode = header ++ entry.strings ∧ ∀ (i : Nat) field, entry.fields[i]? = some field → ∀ rest,
      fieldAt field.1 ((entry.fields.take i).map Prod.fst).sum (header ++ rest) = field.2 := by
  obtain ⟨header, packed, length, found⟩ := packNumbers_spec entry.fields entry.fields_fit
  cases packed.symm.trans (packNumbers_eq entry.fields_fit)
  exact ⟨_, length, rfl, found⟩

theorem length_encode (entry : UploadEntry) : entry.encode.length = entry.entryLength := by
  obtain ⟨header, length, shape, -⟩ := entry.exists_header
  have strings := entry.length_strings
  rw [shape, List.length_append, length]
  omega

end UploadEntry

theorem fieldAt_shift (width : Nat) (before data : Bytes) (offset : Nat) :
    fieldAt width (before.length + offset) (before ++ data) = fieldAt width offset data := by
  rw [fieldAt, fieldAt, List.drop_length_add_append]

theorem fieldAt_front (bound : n < 256 ^ width) (rest : Bytes) :
    fieldAt width 0 (LittleEndian.ofNat width n ++ rest) = n := by
  rw [fieldAt, List.drop_zero, List.take_left' (LittleEndian.length_ofNat ..), LittleEndian.toNat_ofNat_of_lt bound]

theorem slice_between (before part rest : Bytes) (start stop : Nat) (start_ : before.length = start)
    (stop_ : start + part.length = stop) : ((before ++ (part ++ rest)).take stop).drop start = part := by
  subst start_ stop_
  rw [List.take_length_add_append, List.take_left, List.drop_left]

theorem decodeAds_encoded (text : EncodedText) : decodeAds text.data = .ok (stripAds text.chars) := by
  rw [decodeAds, text.decoded]
  rfl

/-- One pass over an entry, whatever precedes and follows it. -/
theorem uploadedSymbol_encode (maxStrDigits : Nat) (before rest : Bytes) (entry : UploadEntry) :
    uploadedSymbol maxStrDigits (before ++ (entry.encode ++ rest)) before.length =
      (entry.symbol maxStrDigits).map fun symbol => (symbol, before.length + entry.encode.length) := by
  obtain ⟨header, length, shape, found⟩ := entry.exists_header
  have number (i : Nat) (field : Nat × Nat) (held : entry.fields[i]? = some field) :
      fieldAt field.1 (before.length + ((entry.fields.take i).map Prod.fst).sum) (before ++ (entry.encode ++ rest)) =
        field.2 := by
    rw [fieldAt_shift, shape, List.append_assoc, found i field held]
  have readLength : fieldAt 4 before.length (before ++ (entry.encode ++ rest)) = _ := number 0 _ rfl
  have indexGroup : fieldAt 4 (before.length + 4) (before ++ (entry.encode ++ rest)) = _ := number 1 _ rfl
  have indexOffset : fieldAt 4 (before.length + 8) (before ++ (entry.encode ++ rest)) = _ := number 2 _ rfl
  have nameLength : fieldAt 2 (before.length + 24) (before ++ (entry.encode ++ rest)) = _ := number 6 _ rfl
  have typeLength : fieldAt 2 (before.length + 26) (before ++ (entry.encode ++ rest)) = _ := number 7 _ rfl
  have commentLength : fieldAt 2 (before.length + 28) (before ++ (entry.encode ++ rest)) = _ := number 8 _ rfl
  have name := slice_between (before ++ header) entry.name.data
    (entry.afterName :: (entry.typeName.data ++ entry.afterType :: (entry.comment.data ++
      entry.afterComment :: entry.padding)) ++ rest) (before.length + 30) _
    (by rw [List.length_append, length]) rfl
  have typeName := slice_between (before ++ header ++ entry.name.data ++ [entry.afterName]) entry.typeName.data
    (entry.afterType :: (entry.comment.data ++ entry.afterComment :: entry.padding) ++ rest)
    (before.length + 30 + entry.name.data.length + 1) _
    (by simp only [List.length_append, List.length_singleton, length]) rfl
  have comment := slice_between (before ++ header ++ entry.name.data ++ [entry.afterName] ++ entry.typeName.data ++
      [entry.afterType]) entry.comment.data (entry.afterComment :: entry.padding ++ rest)
    (before.length + 30 + entry.name.data.length + 1 + entry.typeName.data.length + 1) _
    (by simp only [List.length_append, List.length_singleton, length]) rfl
  have whole : before ++ (entry.encode ++ rest) = before ++ (header ++ (entry.name.data ++ entry.afterName ::
      (entry.typeName.data ++ entry.afterType :: (entry.comment.data ++ entry.afterComment ::
        (entry.padding ++ rest))))) := by
    simp only [shape, UploadEntry.strings, List.append_assoc, List.cons_append]
  simp only [List.append_assoc, List.cons_append, List.nil_append, ← whole] at name typeName comment
  have room : ¬(before ++ (entry.encode ++ rest)).length < before.length + 30 := by
    simp only [shape, List.length_append, length]
    omega
  rw [uploadedSymbol, if_neg room]
  simp only [readLength, indexGroup, indexOffset, nameLength, typeLength, commentLength, name, typeName, comment,
    decodeAds_encoded, bind, Except.bind, pure, Except.pure, entry.length_encode, UploadEntry.symbol]
  cases typeFromStr maxStrDigits (stripAds entry.typeName.chars) with
  | error e => rfl
  | ok plcType => rfl

/-- The loop over a table, whatever precedes and follows it. -/
theorem uploadedSymbols_encode (maxStrDigits : Nat) (entries : List UploadEntry) (before rest : Bytes) :
    uploadedSymbols maxStrDigits (before ++ (entries.flatMap (·.encode) ++ rest)) entries.length before.length =
      entries.mapM (·.symbol maxStrDigits) := by
  induction entries generalizing before with
  | nil => rfl
  | cons entry entries ih =>
    have first := uploadedSymbol_encode maxStrDigits before (entries.flatMap (·.encode) ++ rest) entry
    have others := ih (before ++ entry.encode)
    rw [List.length_append] at others
    simp only [List.append_assoc] at others
    rw [List.flatMap_cons, List.append_assoc, List.length_cons, uploadedSymbols, first, List.mapM_cons]
    cases entry.symbol maxStrDigits with
    | error e => rfl
    | ok symbol =>
      simp only [Except.map, bind, Except.bind]
      rw [others]

/-! ## Whole uploads -/

/-- The device tells the number of entries and the length of the table, and serves
the table. -/
structure ServesTable (device : UInt32 → Nat → Result Bytes) (entries : List UploadEntry) : Prop where
  count : entries.length < 2 ^ 32
  length : (entries.flatMap (·.encode)).length < 2 ^ 32
  info : ∃ more : Bytes, more.length + 8 ≤ STRING_BUFFER ∧ device ADSIGRP_SYM_UPLOADINFO2 STRING_BUFFER =
    .ok (LittleEndian.ofNat 4 entries.length ++ (LittleEndian.ofNat 4 (entries.flatMap (·.encode)).length ++ more))
  table : device ADSIGRP_SYM_UPLOAD (entries.flatMap (·.encode)).length = .ok (entries.flatMap (·.encode))

/-- The whole upload from a device that serves the table. -/
theorem getAllSymbols_eq {device : UInt32 → Nat → Result Bytes} (served : ServesTable device entries)
    (maxStrDigits : Nat) : getAllSymbols maxStrDigits device = entries.mapM (·.symbol maxStrDigits) := by
  obtain ⟨count, length, ⟨more, short, info⟩, table⟩ := served
  have loop := uploadedSymbols_encode maxStrDigits entries [] []
  rw [List.nil_append, List.append_nil, List.length_nil] at loop
  rw [← loop]
  clear loop
  generalize entries.flatMap (·.encode) = message at *
  have wide (n : Nat) : (LittleEndian.ofNat 4 n).length = 4 := LittleEndian.length_ofNat 4 n
  have symCount (rest : Bytes) : fieldAt 4 0 (LittleEndian.ofNat 4 entries.length ++
      (LittleEndian.ofNat 4 message.length ++ rest)) = entries.length := fieldAt_front count _
  have symListLength (rest : Bytes) : fieldAt 4 4 (LittleEndian.ofNat 4 entries.length ++
      (LittleEndian.ofNat 4 message.length ++ rest)) = message.length := by
    have behind := fieldAt_shift 4 (LittleEndian.ofNat 4 entries.length) (LittleEndian.ofNat 4 message.length ++ rest) 0
    rw [wide] at behind
    exact behind.trans (fieldAt_front length rest)
  have fits : (LittleEndian.ofNat 4 entries.length ++ (LittleEndian.ofNat 4 message.length ++ more)).length ≤
      STRING_BUFFER := by
    simp only [List.length_append, wide]
    omega
  have whole := responseBuffer_short fits
  simp only [List.append_assoc] at whole
  rw [getAllSymbols, info]
  simp only [bind, Except.bind, whole, symCount, symListLength, table, checkLength, ↓reduceIte,
    responseBuffer_exact]

/-! ## Complete tables -/

/-- The record has the indices and the texts of the entry. -/
structure UploadEntry.Recorded (entry : UploadEntry) (symbol : UploadedSymbol) : Prop where
  name : symbol.name = entry.name.chars
  indexGroup : symbol.indexGroup = entry.group.toNat
  indexOffset : symbol.indexOffset = entry.offset.toNat
  symbolType : symbol.symbolType = entry.typeName.chars
  comment : symbol.comment = stripAds entry.comment.chars

/-- The loop extracts one record for each entry, in their order. -/
def ParsedCompletely (maxStrDigits : Nat) (entries : List UploadEntry) : Prop :=
  ∃ symbols, uploadedSymbols maxStrDigits (entries.flatMap (·.encode)) entries.length 0 = .ok symbols ∧
    List.Forall₂ UploadEntry.Recorded entries symbols

/-- So does the whole call. -/
def UploadedCompletely (maxStrDigits : Nat) (device : UInt32 → Nat → Result Bytes)
    (entries : List UploadEntry) : Prop :=
  ∃ symbols, getAllSymbols maxStrDigits device = .ok symbols ∧ List.Forall₂ UploadEntry.Recorded entries symbols

/-- There is nothing to strip from the name and the type name, and the type name
is answered: its numbers are within the limit of digits, and the type that it is
read as has room for its extents. -/
def UploadEntry.Readable (maxStrDigits : Nat) (entry : UploadEntry) : Prop :=
  stripAds entry.name.chars = entry.name.chars ∧ stripAds entry.typeName.chars = entry.typeName.chars ∧
    ∃ found, readName maxStrDigits entry.typeName.chars = .ok found ∧
      ∀ reading, found = some reading → reading.Answered

theorem UploadEntry.readable_iff (maxStrDigits : Nat) (entry : UploadEntry) :
    (∃ symbol, entry.symbol maxStrDigits = .ok symbol ∧ entry.Recorded symbol) ↔ entry.Readable maxStrDigits := by
  rw [Readable, ← answered_typeFromStr_iff]
  constructor
  · rintro ⟨symbol, made, recorded⟩
    obtain ⟨found, answered, rfl⟩ := map_eq_ok.mp made
    have symbolType : stripAds entry.typeName.chars = entry.typeName.chars := recorded.symbolType
    rw [symbolType] at answered
    exact ⟨recorded.name, symbolType, found, answered⟩
  · rintro ⟨name, symbolType, found, answered⟩
    refine ⟨_, map_eq_ok.mpr ⟨found, by rw [symbolType, answered], rfl⟩, ?_⟩
    exact ⟨name, rfl, rfl, symbolType, rfl⟩

theorem recorded_iff (maxStrDigits : Nat) (entries : List UploadEntry) :
    (∃ symbols, entries.mapM (·.symbol maxStrDigits) = .ok symbols ∧
        List.Forall₂ UploadEntry.Recorded entries symbols) ↔
      ∀ entry ∈ entries, entry.Readable maxStrDigits := by
  simp only [mapM_eq_ok, ← UploadEntry.readable_iff]
  constructor
  · rintro ⟨symbols, made, recorded⟩
    induction made with
    | nil => simp
    | cons here _ ih =>
      obtain ⟨first, others⟩ := List.forall₂_cons.mp recorded
      exact List.forall_mem_cons.mpr ⟨⟨_, here, first⟩, ih others⟩
  · intro each
    obtain ⟨symbols, both⟩ := exists_forall₂ each
    exact ⟨symbols, both.imp fun _ _ here => here.1, both.imp fun _ _ here => here.2⟩

/-- A table is parsed completely, by the loop and by the whole call, exactly if all
of its entries are readable. -/
theorem parsedCompletely_iff (maxStrDigits : Nat) (entries : List UploadEntry) :
    (ParsedCompletely maxStrDigits entries ↔ ∀ entry ∈ entries, entry.Readable maxStrDigits) ∧
      ∀ device, ServesTable device entries →
        (UploadedCompletely maxStrDigits device entries ↔ ∀ entry ∈ entries, entry.Readable maxStrDigits) := by
  constructor
  · have loop := uploadedSymbols_encode maxStrDigits entries [] []
    rw [List.nil_append, List.append_nil, List.length_nil] at loop
    rw [ParsedCompletely, loop]
    exact recorded_iff maxStrDigits entries
  · intro device served
    rw [UploadedCompletely, getAllSymbols_eq served]
    exact recorded_iff maxStrDigits entries

def EncodedText.ofString (text : String) (decoded : decodeWindows1252 (Text.Utf8.encode text.toList) = .ok text.toList)
    (short : (Text.Utf8.encode text.toList).length < 2 ^ 16) : EncodedText where
  data := Text.Utf8.encode text.toList
  chars := text.toList
  decoded := decoded
  short := short

/-- An array whose bounds are the wrong way around, and a number. -/
def reversedTable : List UploadEntry :=
  [⟨0x4040, 0, 0, 2, 0, .ofString "MAIN.values" rfl (by decide), .ofString "ARRAY [5..1] OF INT" rfl (by decide),
      .ofString "" rfl (by decide), 0, 0, 0, [], by decide⟩,
    ⟨0x4040, 0, 2, 2, 0, .ofString "MAIN.count" rfl (by decide), .ofString "INT" rfl (by decide),
      .ofString " of values " rfl (by decide), 0, 0, 0, [0, 0], by decide⟩]

/-- Neither of the symbols is extracted. -/
theorem reversedTable_fails : uploadedSymbols 4300 (reversedTable.flatMap (·.encode)) 2 0 =
    .error (.valueError "Array length must be >= 0, not -3") ∧ ¬ParsedCompletely 4300 reversedTable := by
  have loop := uploadedSymbols_encode 4300 reversedTable [] []
  rw [List.nil_append, List.append_nil, List.length_nil] at loop
  have stripped : stripAds "ARRAY [5..1] OF INT".toList = "ARRAY [5..1] OF INT".toList := by decide
  have raised : uploadedSymbols 4300 (reversedTable.flatMap (·.encode)) 2 0 =
      .error (.valueError "Array length must be >= 0, not -3") := by
    refine loop.trans ?_
    rw [reversedTable, List.mapM_cons]
    simp only [UploadEntry.symbol, EncodedText.ofString, stripped, typeFromStr_reversed]
    rfl
  refine ⟨raised, ?_⟩
  rintro ⟨symbols, extracted, -⟩
  cases raised.symm.trans extracted

/-! ## The table of the test server -/

/-- The entry of a variable has neither texts nor a size. -/
def AdvancedHandler.uploadEntry (indices : UInt32 × UInt32) : UploadEntry :=
  let text : EncodedText := ⟨[], [], rfl, by decide⟩
  ⟨indices.1, indices.2, 0, 0, 0, text, text, text, 0, 0, 0, List.replicate 87 0, by decide⟩

namespace AdvancedHandler

theorem encode_uploadEntry (indices : UInt32 × UInt32) : (uploadEntry indices).encode =
    LittleEndian.ofNat 4 120 ++ (LittleEndian.ofNat 4 indices.1.toNat ++ LittleEndian.ofNat 4 indices.2.toNat) ++
      List.replicate 108 0 := by
  have numbers : LittleEndian.ofNat 4 0 = List.replicate 4 0 := rfl
  have lengths : LittleEndian.ofNat 2 0 = List.replicate 2 0 := rfl
  simp [UploadEntry.encode, UploadEntry.fields, UploadEntry.strings, UploadEntry.entryLength, uploadEntry, numbers,
    lengths]

theorem symbol_uploadEntry (maxStrDigits : Nat) (indices : UInt32 × UInt32) :
    (uploadEntry indices).symbol maxStrDigits = .ok ⟨[], indices.1.toNat, indices.2.toNat, [], [], none⟩ := by
  have unnamed : typeFromStr maxStrDigits [] = .ok none := by
    have array : regexArray [] = none := rfl
    have matrix : regexMatrix [] = none := rfl
    have list : regexList [] = none := rfl
    rw [typeFromStr, typeOfName_attempts (by decide) rfl, arrayType, matrixType, listType, array, matrix, list]
    rfl
  have answered : typeFromStr maxStrDigits (stripAds (uploadEntry indices).typeName.chars) = .ok none := unnamed
  rw [UploadEntry.symbol, answered]
  rfl

theorem handleRead_upload (handler : AdvancedHandler) (length : Nat) :
    handler.handleRead ADSIGRP_SYM_UPLOAD 0 length =
      .ok ((handler.data.keys.map uploadEntry).flatMap (·.encode)) := by
  have written : List.Forall₂ (fun (indices : UInt32 × UInt32) part => (do
        let head ← packNumbers [(4, 120), (4, indices.1.toNat), (4, indices.2.toNat)]
        return head ++ List.replicate 108 0) = .ok part)
      handler.data.keys (handler.data.keys.map fun indices => (uploadEntry indices).encode) := by
    refine List.forall₂_map_right_iff.mpr (List.forall₂_same.mpr fun indices _ => ?_)
    have group := indices.1.toNat_lt
    have offset := indices.2.toNat_lt
    rw [packNumbers_eq (by simp; omega), encode_uploadEntry]
    simp [bind, Except.bind, pure, Except.pure]
  have table := concatM_of_forall₂ written
  rw [handleRead, if_neg (by decide), if_neg (by decide), if_pos rfl, List.flatMap_def, List.map_map]
  exact table

/-- The test server serves a table of its variables. -/
theorem servesTable_handleRead (handler : AdvancedHandler) (few : 120 * handler.data.entries.length < 2 ^ 32) :
    ServesTable (fun indexGroup length => handler.handleRead indexGroup 0 length)
      (handler.data.keys.map uploadEntry) := by
  have count : (handler.data.keys.map uploadEntry).length = handler.data.entries.length := by
    rw [List.length_map, OrderedDict.keys, List.length_map]
  have length :
      ((handler.data.keys.map uploadEntry).flatMap (·.encode)).length = 120 * handler.data.entries.length := by
    have widths : ∀ part ∈ (handler.data.keys.map uploadEntry).map (·.encode), part.length = 120 := by
      intro part member
      obtain ⟨entry, held, rfl⟩ := List.mem_map.mp member
      obtain ⟨indices, -, rfl⟩ := List.mem_map.mp held
      simp [encode_uploadEntry]
    rw [List.flatMap_def, length_flatten_blocks widths, List.length_map, count, Nat.mul_comm]
  refine ⟨by omega, by omega, ⟨[], by simp [STRING_BUFFER], ?_⟩, handler.handleRead_upload _⟩
  rw [count, length, handleRead, if_neg (by decide), if_pos rfl, packNumbers_eq (by simp; omega)]
  rfl

/-- The client finds one symbol for each variable of the test server. -/
theorem getAllSymbols_handleRead (handler : AdvancedHandler) (few : 120 * handler.data.entries.length < 2 ^ 32)
    (maxStrDigits : Nat) :
    getAllSymbols maxStrDigits (fun indexGroup length => handler.handleRead indexGroup 0 length) =
      .ok (handler.data.keys.map fun indices => ⟨[], indices.1.toNat, indices.2.toNat, [], [], none⟩) := by
  rw [getAllSymbols_eq (handler.servesTable_handleRead few)]
  exact mapM_eq_ok.mpr (List.forall₂_map_left_iff.mpr (List.forall₂_map_right_iff.mpr (List.forall₂_same.mpr
    fun indices _ => symbol_uploadEntry maxStrDigits indices)))

end AdvancedHandler

end PyAds
