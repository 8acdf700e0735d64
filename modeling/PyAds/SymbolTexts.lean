import PyAds.HandlerConnection

/-! Symbol information on its way from the test server to a client. The server
encodes the texts as UTF-8, and the client decodes them as windows-1252. -/
namespace PyAds
open Fallible

/-! ## Encodings -/

theorem utf8EncodeChar_ascii {c : Char} (ascii : c.toNat < 128) :
    String.utf8EncodeChar c = [UInt8.ofNat c.toNat] := by
  have small : c.val.toNat ≤ 127 := Nat.le_of_lt_succ ascii
  unfold String.utf8EncodeChar
  simp only [small, ↓reduceIte]
  rfl

/-- ASCII characters have the same bytes in both encodings. -/
theorem decodeWindows1252_encode {chars : List Char} (ascii : ∀ c ∈ chars, c.toNat < 128) :
    decodeWindows1252 (Text.Utf8.encode chars) = .ok chars := by
  unfold decodeWindows1252
  apply mapM_eq_ok.mpr
  induction chars with
  | nil => exact .nil
  | cons c chars ih =>
    obtain ⟨here, others⟩ := List.forall_mem_cons.mp ascii
    have byte : (UInt8.ofNat c.toNat).toNat = c.toNat := by
      rw [UInt8.toNat_ofNat']
      exact Nat.mod_eq_of_lt (by omega)
    rw [Text.Utf8.encode_cons, utf8EncodeChar_ascii here, List.singleton_append]
    refine .cons ?_ (ih others)
    rw [byte, if_pos (Or.inl here), Char.ofNat_toNat]

/-- UTF-8 is decoded as windows-1252 to the same text exactly if it is ASCII. -/
theorem decodeWindows1252_encode_iff (chars : List Char) :
    decodeWindows1252 (Text.Utf8.encode chars) = .ok chars ↔ ∀ c ∈ chars, c.toNat < 128 := by
  refine ⟨fun decoded => ?_, decodeWindows1252_encode⟩
  exact (Text.Utf8.length_encode_eq_iff chars).mp (mapM_eq_ok.mp decoded).length_eq

/-! ## The structure of the client -/

/-- `SAdsSymbolEntry` with all of its fields. -/
structure SymbolInfo where
  entryLength : Nat
  iGroup : Nat
  iOffs : Nat
  size : Nat
  dataType : Nat
  flags : Nat
  nameLength : Nat
  typeLength : Nat
  commentLength : Nat
  stringBuffer : Bytes
  deriving DecidableEq

namespace SymbolInfo

def ofBytes (readData : Bytes) : SymbolInfo where
  entryLength := fieldAt 4 0 readData
  iGroup := fieldAt 4 4 readData
  iOffs := fieldAt 4 8 readData
  size := fieldAt 4 12 readData
  dataType := fieldAt 4 16 readData
  flags := fieldAt 4 20 readData
  nameLength := fieldAt 2 24 readData
  typeLength := fieldAt 2 26 readData
  commentLength := fieldAt 2 28 readData
  stringBuffer := (readData.drop 30).take (256 * 3)

/-- `_get_string` -/
def getString (info : SymbolInfo) (offset length : Nat) : Result (List Char) :=
  decodeWindows1252 ((info.stringBuffer.drop offset).take length)

def name (info : SymbolInfo) : Result (List Char) := info.getString 0 info.nameLength

def symbolType (info : SymbolInfo) : Result (List Char) := info.getString (info.nameLength + 1) info.typeLength

def comment (info : SymbolInfo) : Result (List Char) :=
  info.getString (info.nameLength + info.typeLength + 2) info.commentLength

/-- The fields that the sum commands use are among them. -/
theorem symbolEntryOf_eq (whole : readData.length = sizeofSymbolEntry) :
    symbolEntryOf readData = do
      let symbolType ← (ofBytes readData).symbolType
      return ⟨.ofNat (ofBytes readData).iGroup, .ofNat (ofBytes readData).iOffs, .ofNat (ofBytes readData).size,
        .ofNat (ofBytes readData).dataType, symbolType⟩ := by
  have strings : (readData.drop 30).take (256 * 3) = readData.drop 30 :=
    List.take_of_length_le (by rw [List.length_drop, whole, sizeofSymbolEntry])
  simp only [symbolEntryOf, symbolType, getString, ofBytes, strings]

end SymbolInfo

/-! ## The answer of the server -/

namespace PLCVariable

/-- The texts of the packed information. -/
def strings (var : PLCVariable) : Bytes :=
  Text.Utf8.encode var.name.toList ++ 0x20 :: (Text.Utf8.encode var.symbolType.toList ++
    0x20 :: Text.Utf8.encode var.comment.toList)

theorem length_strings (var : PLCVariable) : var.strings.length = (Text.Utf8.encode var.name.toList).length +
    (Text.Utf8.encode var.symbolType.toList).length + (Text.Utf8.encode var.comment.toList).length + 2 := by
  simp only [strings, List.length_append, List.length_cons]
  omega

/-- The client's buffer with the answer. -/
def received (reply : Bytes) : SymbolInfo := .ofBytes (responseBuffer sizeofSymbolEntry reply)

/-- The client decodes the variable from the answer. -/
structure ArrivesIn (var : PLCVariable) (reply : Bytes) : Prop where
  name : (received reply).name = .ok var.name.toList
  symbolType : (received reply).symbolType = .ok var.symbolType.toList
  comment : (received reply).comment = .ok var.comment.toList
  indexGroup : (received reply).iGroup = var.indexGroup.toNat
  indexOffset : (received reply).iOffs = var.indexOffset.toNat
  size : (received reply).size = var.size
  adsType : (received reply).dataType = var.adsType.toNat
  entryLength : (received reply).entryLength = reply.length
  accepted : checkLength (received reply).entryLength (reply.take sizeofSymbolEntry).length = .ok ()

def Survives (var : PLCVariable) : Prop := ∃ reply, var.getPackedInfo = .ok reply ∧ var.ArrivesIn reply

variable {var : PLCVariable}

/-- What is packed fits the fields and is found in them. -/
theorem getPackedInfo_spec (packed : var.getPackedInfo = .ok reply) :
    ∃ header : Bytes, header.length = 30 ∧ reply = header ++ var.strings ∧ ∀ rest, SymbolInfo.ofBytes (header ++ rest) =
      ⟨30 + var.strings.length, var.indexGroup.toNat, var.indexOffset.toNat, var.size, var.adsType.toNat, 0,
        (Text.Utf8.encode var.name.toList).length, (Text.Utf8.encode var.symbolType.toList).length,
        (Text.Utf8.encode var.comment.toList).length, rest.take (256 * 3)⟩ := by
  obtain ⟨header, written, same⟩ := bind_eq_ok.mp packed
  cases same
  obtain ⟨again, written', length, found⟩ := packNumbers_spec _ fun _ member => bounds_of_packNumbers written member
  cases written.symm.trans written'
  refine ⟨header, length, rfl, fun rest => ?_⟩
  have total : 6 * 4 + 3 * 2 + (Text.Utf8.encode var.name.toList).length + 1 +
      (Text.Utf8.encode var.symbolType.toList).length + 1 + (Text.Utf8.encode var.comment.toList).length =
      30 + var.strings.length := by
    rw [length_strings]
    omega
  have entryLength : fieldAt 4 0 (header ++ rest) = _ := found 0 _ rfl rest
  have indexGroup : fieldAt 4 4 (header ++ rest) = _ := found 1 _ rfl rest
  have indexOffset : fieldAt 4 8 (header ++ rest) = _ := found 2 _ rfl rest
  have size : fieldAt 4 12 (header ++ rest) = _ := found 3 _ rfl rest
  have adsType : fieldAt 4 16 (header ++ rest) = _ := found 4 _ rfl rest
  have flags : fieldAt 4 20 (header ++ rest) = _ := found 5 _ rfl rest
  have name : fieldAt 2 24 (header ++ rest) = _ := found 6 _ rfl rest
  have symbolType : fieldAt 2 26 (header ++ rest) = _ := found 7 _ rfl rest
  have comment : fieldAt 2 28 (header ++ rest) = _ := found 8 _ rfl rest
  have behind : (header ++ rest).drop 30 = rest := List.drop_left' length
  simp only [SymbolInfo.ofBytes, entryLength, indexGroup, indexOffset, size, adsType, flags, name, symbolType,
    comment, behind, total]

theorem length_reply (packed : var.getPackedInfo = .ok reply) : reply.length = 30 + var.strings.length := by
  obtain ⟨header, length, rfl, -⟩ := getPackedInfo_spec packed
  rw [List.length_append, length]

theorem slice_of_take (before part rest : Bytes) (inside : before.length + part.length ≤ n) :
    (((before ++ (part ++ rest)).take n).drop before.length).take part.length = part := by
  rw [List.drop_take, List.take_take, List.drop_left, Nat.min_eq_left (by omega), List.take_left]

/-- An answer that fits the buffer of the client. -/
theorem received_spec (packed : var.getPackedInfo = .ok reply) (fits : reply.length ≤ sizeofSymbolEntry) :
    received reply = ⟨reply.length, var.indexGroup.toNat, var.indexOffset.toNat, var.size, var.adsType.toNat, 0,
        (Text.Utf8.encode var.name.toList).length, (Text.Utf8.encode var.symbolType.toList).length,
        (Text.Utf8.encode var.comment.toList).length,
        (var.strings ++ List.replicate (sizeofSymbolEntry - reply.length) 0).take (256 * 3)⟩ := by
  obtain ⟨header, length, rfl, found⟩ := getPackedInfo_spec packed
  rw [received, responseBuffer_short fits, List.append_assoc, found]
  rw [List.length_append, length]

section Texts
variable (packed : var.getPackedInfo = .ok reply) (fits : reply.length ≤ sizeofSymbolEntry)
include packed fits

theorem length_strings_le : var.strings.length ≤ 256 * 3 := by
  rw [length_reply packed, sizeofSymbolEntry] at fits
  omega

/-- Each text is decoded from its own bytes. -/
theorem received_name : (received reply).name = decodeWindows1252 (Text.Utf8.encode var.name.toList) := by
  have room := length_strings_le packed fits
  rw [length_strings] at room
  have slice := slice_of_take (n := 256 * 3) [] (Text.Utf8.encode var.name.toList)
    (0x20 :: (Text.Utf8.encode var.symbolType.toList ++ 0x20 :: Text.Utf8.encode var.comment.toList) ++
      List.replicate (sizeofSymbolEntry - reply.length) 0) (by simp only [List.length_nil]; omega)
  rw [received_spec packed fits, SymbolInfo.name, SymbolInfo.getString, strings, List.append_assoc]
  exact congrArg decodeWindows1252 slice

theorem received_symbolType :
    (received reply).symbolType = decodeWindows1252 (Text.Utf8.encode var.symbolType.toList) := by
  have room := length_strings_le packed fits
  rw [length_strings] at room
  have slice := slice_of_take (n := 256 * 3) (Text.Utf8.encode var.name.toList ++ [0x20])
    (Text.Utf8.encode var.symbolType.toList)
    (0x20 :: Text.Utf8.encode var.comment.toList ++ List.replicate (sizeofSymbolEntry - reply.length) 0)
    (by simp only [List.length_append, List.length_singleton]; omega)
  rw [received_spec packed fits, SymbolInfo.symbolType, SymbolInfo.getString, strings]
  simp only [List.append_assoc, List.cons_append, List.nil_append, List.length_append, List.length_singleton] at slice ⊢
  rw [slice]

theorem received_comment : (received reply).comment = decodeWindows1252 (Text.Utf8.encode var.comment.toList) := by
  have room := length_strings_le packed fits
  rw [length_strings] at room
  have slice := slice_of_take (n := 256 * 3) (Text.Utf8.encode var.name.toList ++ 0x20 ::
      (Text.Utf8.encode var.symbolType.toList ++ [0x20]))
    (Text.Utf8.encode var.comment.toList) (List.replicate (sizeofSymbolEntry - reply.length) 0)
    (by simp only [List.length_append, List.length_cons, List.length_nil]; omega)
  have offset :
      (Text.Utf8.encode var.name.toList ++ 0x20 :: (Text.Utf8.encode var.symbolType.toList ++ [0x20])).length =
        (Text.Utf8.encode var.name.toList).length + (Text.Utf8.encode var.symbolType.toList).length + 2 := by
    simp only [List.length_append, List.length_cons, List.length_nil]
    omega
  rw [received_spec packed fits, SymbolInfo.comment, SymbolInfo.getString, strings]
  rw [offset] at slice
  simp only [List.append_assoc, List.cons_append, List.nil_append] at slice ⊢
  rw [slice]

end Texts

/-- The texts consist of ASCII characters. -/
def Ascii (var : PLCVariable) : Prop :=
  ∀ c ∈ var.name.toList ++ (var.symbolType.toList ++ var.comment.toList), c.toNat < 128

theorem length_strings_of_ascii (ascii : var.Ascii) :
    var.strings.length = var.name.length + var.symbolType.length + var.comment.length + 2 := by
  obtain ⟨name, others⟩ := List.forall_mem_append.mp ascii
  obtain ⟨symbolType, comment⟩ := List.forall_mem_append.mp others
  rw [length_strings, (Text.Utf8.length_encode_eq_iff _).mpr name, (Text.Utf8.length_encode_eq_iff _).mpr symbolType,
    (Text.Utf8.length_encode_eq_iff _).mpr comment]
  rfl

/-- A size that cannot be packed is not sent. -/
theorem size_of_getPackedInfo (packed : var.getPackedInfo = .ok reply) : var.size < 256 ^ 4 := by
  obtain ⟨header, written, -⟩ := bind_eq_ok.mp packed
  exact bounds_of_packNumbers written (by simp)

theorem exists_getPackedInfo (size : var.size < 2 ^ 32) (room : var.strings.length ≤ 256 * 3) :
    ∃ reply, var.getPackedInfo = .ok reply := by
  rw [length_strings] at room
  obtain ⟨header, written, -⟩ := packNumbers_spec [
      (4, 6 * 4 + 3 * 2 + (Text.Utf8.encode var.name.toList).length + 1 +
        (Text.Utf8.encode var.symbolType.toList).length + 1 + (Text.Utf8.encode var.comment.toList).length),
      (4, var.indexGroup.toNat), (4, var.indexOffset.toNat), (4, var.size), (4, var.adsType.toNat), (4, 0),
      (2, (Text.Utf8.encode var.name.toList).length), (2, (Text.Utf8.encode var.symbolType.toList).length),
      (2, (Text.Utf8.encode var.comment.toList).length)] (by
    simp only [List.forall_mem_cons, List.not_mem_nil, false_implies, implies_true, and_true]
    have group := var.indexGroup.toNat_lt
    have offset := var.indexOffset.toNat_lt
    have adsType := var.adsType.toNat_lt
    omega)
  exact ⟨_, bind_eq_ok.mpr ⟨header, written, rfl⟩⟩

/-- The length check does not pass an answer that is cut off. -/
theorem ArrivesIn.fits (arrives : var.ArrivesIn reply) : reply.length ≤ sizeofSymbolEntry := by
  have accepted := arrives.accepted
  rw [arrives.entryLength, checkLength, List.length_take] at accepted
  split at accepted
  · rename_i same
    omega
  · cases accepted

theorem ArrivesIn.ascii (arrives : var.ArrivesIn reply) (packed : var.getPackedInfo = .ok reply) : var.Ascii := by
  have name := (received_name packed arrives.fits).symm.trans arrives.name
  have symbolType := (received_symbolType packed arrives.fits).symm.trans arrives.symbolType
  have comment := (received_comment packed arrives.fits).symm.trans arrives.comment
  refine List.forall_mem_append.mpr ⟨?_, List.forall_mem_append.mpr ⟨?_, ?_⟩⟩
  · exact (decodeWindows1252_encode_iff _).mp name
  · exact (decodeWindows1252_encode_iff _).mp symbolType
  · exact (decodeWindows1252_encode_iff _).mp comment

theorem arrivesIn_of_ascii (packed : var.getPackedInfo = .ok reply) (fits : reply.length ≤ sizeofSymbolEntry)
    (ascii : var.Ascii) : var.ArrivesIn reply := by
  have whole : reply.take sizeofSymbolEntry = reply := List.take_of_length_le fits
  have found := received_spec packed fits
  obtain ⟨name, others⟩ := List.forall_mem_append.mp ascii
  obtain ⟨symbolType, comment⟩ := List.forall_mem_append.mp others
  constructor
  case name => rw [received_name packed fits, decodeWindows1252_encode name]
  case symbolType => rw [received_symbolType packed fits, decodeWindows1252_encode symbolType]
  case comment => rw [received_comment packed fits, decodeWindows1252_encode comment]
  case accepted => rw [found, whole, checkLength, if_pos rfl]
  all_goals rw [found]

/-- A variable survives the encoding of the server exactly if its texts are ASCII,
have room in the buffer of the client, and its value has a size that is sent. -/
theorem survives_iff (var : PLCVariable) : var.Survives ↔
    var.Ascii ∧ var.name.length + var.symbolType.length + var.comment.length ≤ 766 ∧ var.size < 2 ^ 32 := by
  constructor
  · rintro ⟨reply, packed, arrives⟩
    have ascii := arrives.ascii packed
    have room := length_strings_le packed arrives.fits
    rw [length_strings_of_ascii ascii] at room
    exact ⟨ascii, by omega, (size_of_getPackedInfo packed).trans_eq (by norm_num)⟩
  · rintro ⟨ascii, room, size⟩
    have short := length_strings_of_ascii ascii
    obtain ⟨reply, packed⟩ := exists_getPackedInfo size (by omega)
    have fits : reply.length ≤ sizeofSymbolEntry := by
      rw [length_reply packed, sizeofSymbolEntry]
      omega
    exact ⟨reply, packed, arrivesIn_of_ascii packed fits ascii⟩

/-- A filling level with a German name. -/
def level : PLCVariable := ⟨"Füllstand", [0, 0], 18, "UINT", 10000, 12345, 20000, "", [], none⟩

/-- The two bytes of `ü` arrive as two characters. -/
theorem level_garbled : ¬level.Survives ∧ ∃ reply, level.getPackedInfo = .ok reply ∧
    (received reply).name = .ok "FÃ¼llstand".toList := by
  have value : level.size < 2 ^ 32 := by decide
  have size : level.strings.length = 16 := rfl
  obtain ⟨reply, packed⟩ := exists_getPackedInfo value (by omega)
  have fits : reply.length ≤ sizeofSymbolEntry := by
    rw [length_reply packed, size, sizeofSymbolEntry]
    omega
  have garbled : (received reply).name = .ok "FÃ¼llstand".toList := received_name packed fits
  refine ⟨?_, reply, packed, garbled⟩
  rintro ⟨other, packed', arrives⟩
  cases packed.symm.trans packed'
  have same : "FÃ¼llstand".toList = "Füllstand".toList := Except.ok.inj (garbled.symm.trans arrives.name)
  revert same
  decide

end PLCVariable

end PyAds
