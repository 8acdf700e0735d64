import PyAds.ElementaryTypes
import PyAds.SymbolTexts

/-! The variables of a handler that a client can name. Each is found by its
indices, its handle and its name, and its symbol information arrives as it is. -/
namespace PyAds
open Fallible

/-! ## Texts -/

theorem ElementaryType.ascii_name (type : ElementaryType) : ∀ c ∈ type.name, c.toNat < 128 := by
  have digits (n : Nat) : ∀ c ∈ Nat.toDigits 10 n, c.toNat < 128 := by
    intro c member
    have digit := Nat.isDigit_of_mem_toDigits (by decide) (by decide) member
    have bounds : 48 ≤ c.toNat ∧ c.toNat ≤ 57 := by simpa [Char.isDigit, UInt32.le_iff_toNat_le] using digit
    omega
  have number (t : NumberType) : ∀ c ∈ t.name, c.toNat < 128 := by
    have checked : t.name.all (fun c => decide (c.toNat < 128)) = true := by cases t <;> rfl
    intro c member
    exact of_decide_eq_true (List.all_eq_true.mp checked c member)
  cases type with
  | number t => exact number t
  | string n =>
    simp only [name, List.forall_mem_append]
    exact ⟨by simp, digits n, by simp⟩
  | wstring n =>
    simp only [name, List.forall_mem_append]
    exact ⟨by simp, digits n, by simp⟩
  | array lower upper t =>
    simp only [name, List.forall_mem_append]
    exact ⟨by simp, digits lower, by simp, digits upper, by simp, number t⟩

namespace AdvancedHandler

/-- A terminator behind a name is stripped. -/
theorem stripNul_terminated (name : List Char) :
    stripNul (String.ofList (name ++ ['\x00'])) = stripNul (String.ofList name) := by
  have front : (name ++ ['\x00']).dropWhile (· == '\x00') =
      if name.dropWhile (· == '\x00') = [] then [] else name.dropWhile (· == '\x00') ++ ['\x00'] := by
    rw [List.dropWhile_append]
    cases name.dropWhile (· == '\x00') <;> simp
  unfold stripNul
  rw [String.toList_ofList, String.toList_ofList, front]
  split
  · rename_i none_
    rw [none_]
  · simp

theorem length_stripNul_le (name : List Char) : (stripNul (String.ofList name)).length ≤ name.length := by
  have front := List.length_dropWhile_le (· == '\x00') name
  have back := List.length_dropWhile_le (· == '\x00') (name.dropWhile (· == '\x00')).reverse
  rw [List.length_reverse] at back
  rw [stripNul, String.length_ofList, String.toList_ofList, List.length_reverse]
  omega

/-- What is stripped takes one byte a character. -/
theorem length_encode_stripNul (name : List Char) :
    (Text.Utf8.encode (stripNul (String.ofList name)).toList).length + name.length =
      (Text.Utf8.encode name).length + (stripNul (String.ofList name)).length := by
  have dropped (chars : List Char) : (Text.Utf8.encode (chars.dropWhile (· == '\x00'))).length + chars.length =
      (Text.Utf8.encode chars).length + (chars.dropWhile (· == '\x00')).length := by
    induction chars with
    | nil => rfl
    | cons c chars ih =>
      by_cases nul : c = '\x00'
      · subst nul
        rw [List.dropWhile_cons_of_pos rfl, Text.Utf8.encode_cons, utf8EncodeChar_ascii (by decide)]
        simp only [List.length_cons, List.length_append, List.length_nil]
        omega
      · rw [List.dropWhile_cons_of_neg (by simpa using nul), Nat.add_comm]
  have reversed (chars : List Char) : (Text.Utf8.encode chars.reverse).length = (Text.Utf8.encode chars).length := by
    simp only [Text.Utf8.encode, List.length_flatMap, List.map_reverse, List.sum_reverse]
  have front := dropped name
  have back := dropped (name.dropWhile (· == '\x00')).reverse
  rw [reversed, List.length_reverse] at back
  rw [stripNul, String.length_ofList, String.toList_ofList, String.toList_ofList, reversed, List.length_reverse]
  omega

/-- What is left of a name that is not carried is shorter. -/
theorem requestedName_cut {name : String} (long : name.length + 1 < (Text.Utf8.encode name.toList).length)
    (read : Text.Utf8.decode (requestedName name) = some chars) :
    (Text.Utf8.encode chars).length = name.length + 1 ∧ chars.length < name.length := by
  have cut : Text.Utf8.encode chars = (Text.Utf8.encode name.toList).take (name.length + 1) := by
    rw [Text.Utf8.encode_of_decode read, requestedName, List.take_append_of_le_length long.le]
  have length : (Text.Utf8.encode chars).length = name.length + 1 := by
    rw [cut, List.length_take, Nat.min_eq_left long.le]
  refine ⟨length, ?_⟩
  have front : chars <+: name.toList := Text.Utf8.prefix_of_encode_prefix (cut ▸ List.take_prefix ..)
  have bound := front.length_le
  rw [String.length_toList] at bound
  apply Nat.lt_of_le_of_ne bound
  intro same
  have whole := front.eq_of_length (by rw [same, String.length_toList])
  rw [whole] at length
  omega

end AdvancedHandler

/-! ## Variables -/

/-- A variable of a type; the answer with its symbol fits the client's buffer. -/
structure PLCVariable.WellFormed (type : ElementaryType) (var : PLCVariable) : Prop where
  stripped : AdvancedHandler.stripNul var.name = var.name
  handle : var.handle < 2 ^ 32
  symbolType : var.symbolType.toList = type.name
  adsType : var.adsType.toNat = type.typeId
  nonempty : type.Ordered
  size : type.size < 2 ^ 32
  entry : 30 + (Text.Utf8.encode var.name.toList).length + 1 + (Text.Utf8.encode var.symbolType.toList).length + 1 +
    (Text.Utf8.encode var.comment.toList).length ≤ sizeofSymbolEntry

/-- A request carries the whole name, which has at most one byte more than it
has characters. -/
def PLCVariable.Carried (var : PLCVariable) : Prop := (Text.Utf8.encode var.name.toList).length ≤ var.name.length + 1

instance : DecidablePred PLCVariable.Carried := fun _ => inferInstanceAs (Decidable (_ ≤ _))

/-- The symbol information of a variable. -/
def PLCVariable.symbolEntry (var : PLCVariable) : SAdsSymbolEntry :=
  ⟨var.indexGroup, var.indexOffset, .ofNat var.size, var.adsType, var.symbolType.toList⟩

namespace PLCVariable
variable {type : ElementaryType} {var : PLCVariable}

/-- The packed information is unpacked into the symbol entry. -/
theorem symbolEntryOf_packed (wellFormed : var.WellFormed type) (size : var.size < 2 ^ 32) :
    ∃ reply, var.getPackedInfo = .ok reply ∧
      checkLength (fieldAt 4 0 (responseBuffer sizeofSymbolEntry reply)) reply.length = .ok () ∧
      symbolEntryOf (responseBuffer sizeofSymbolEntry reply) = .ok var.symbolEntry := by
  have entry := wellFormed.entry
  unfold sizeofSymbolEntry at entry
  have total := var.length_strings
  obtain ⟨reply, packed⟩ := exists_getPackedInfo size (by omega)
  have fits : reply.length ≤ sizeofSymbolEntry := by
    rw [length_reply packed, sizeofSymbolEntry]
    omega
  have ascii : ∀ c ∈ var.symbolType.toList, c.toNat < 128 := by
    rw [wellFormed.symbolType]
    exact type.ascii_name
  have symbolType := received_symbolType packed fits
  rw [decodeWindows1252_encode ascii] at symbolType
  have found := received_spec packed fits
  have entryLength : fieldAt 4 0 (responseBuffer sizeofSymbolEntry reply) = reply.length :=
    congrArg SymbolInfo.entryLength found
  refine ⟨reply, packed, ?_, ?_⟩
  · rw [entryLength, checkLength, if_pos rfl]
  · rw [SymbolInfo.symbolEntryOf_eq (length_responseBuffer ..)]
    change (received reply).symbolType >>= _ = _
    rw [symbolType]
    change Except.ok (SAdsSymbolEntry.mk (.ofNat (received reply).iGroup) (.ofNat (received reply).iOffs)
      (.ofNat (received reply).size) (.ofNat (received reply).dataType) var.symbolType.toList) = _
    rw [found]
    simp only [UInt32.ofNat_toNat]
    rfl

end PLCVariable

/-! ## Lookups -/

namespace AdvancedHandler

theorem getVariableByIndices_held {handler : AdvancedHandler} {id : Nat} (held : handler.Holds id) :
    handler.getVariableByIndices (handler.objects id).indexGroup (handler.objects id).indexOffset = .ok id := by
  have there : handler.data.get? ((handler.objects id).indexGroup, (handler.objects id).indexOffset) = some id := held
  rw [getVariableByIndices, there]

/-- Every variable is in `_data` under its own indices and has a name and a
handle of its own. -/
structure Catalogue (types : Nat → ElementaryType) (handler : AdvancedHandler) : Prop where
  keyed : ∀ key id, handler.data.get? key = some id → (handler.objects id).indices = key
  names : ∀ id other, handler.Holds id → handler.Holds other →
    (handler.objects other).name = (handler.objects id).name → other = id
  handles : ∀ id other, handler.Holds id → handler.Holds other →
    (handler.objects other).handle = (handler.objects id).handle → other = id
  wellFormed : ∀ id, handler.Holds id → (handler.objects id).WellFormed (types id)

/-- Variables are added under their own indices. -/
theorem keyed_addVariable {handler : AdvancedHandler} (id : Nat)
    (keyed : ∀ key other, handler.data.get? key = some other → (handler.objects other).indices = key) :
    ∀ key other, (addVariable id handler).data.get? key = some other →
      ((addVariable id handler).objects other).indices = key := by
  intro key other found
  rw [addVariable, OrderedDict.get?_set] at found
  split at found
  · rename_i same
    cases found
    exact same
  · exact keyed key other found

/-- The handle of a variable that is found under a name. -/
theorem adsGetHandle_named {handler : AdvancedHandler} {id : Nat}
    (named : handler.getVariableNamed (requestedName dataName) = .ok id)
    (small : (handler.objects id).handle < 2 ^ 32) :
    handler.adsGetHandle dataName = .ok (.ofNat (handler.objects id).handle) := by
  have bound : (handler.objects id).handle < 256 ^ 4 := small.trans_eq (by norm_num)
  have packed := packNumbers_single bound
  have reply : (handler.handleReadWrite ADSIGRP_SYM_HNDBYNAME 0 4 (requestedName dataName)).1 =
      .ok (LittleEndian.ofNat 4 (handler.objects id).handle) := by
    simp only [handleReadWrite_hndByName, named, bind, Except.bind, packed]
  rw [adsGetHandle, reply]
  simp only [bind, Except.bind, LittleEndian.length_ofNat, checkLength, ↓reduceIte]
  rw [LittleEndian.toNat_ofNat_of_lt bound]
  simp only [pure, Except.pure]

section Lookups
variable {types : Nat → ElementaryType} {handler : AdvancedHandler} {id : Nat} (catalogue : handler.Catalogue types)
include catalogue

theorem getVariableByHandle_held (held : handler.Holds id) :
    handler.getVariableByHandle (handler.objects id).handle = .ok id := by
  apply firstWith_of_unique catalogue.keyed held
  · simp
  · intro other otherHeld same
    exact catalogue.handles id other held otherHeld (of_decide_eq_true same)

theorem getVariableByName_held (held : handler.Holds id) :
    handler.getVariableByName (handler.objects id).name = .ok id := by
  have stripped := (catalogue.wellFormed id held).stripped
  apply firstWith_of_unique catalogue.keyed held
  · simp [stripped]
  · intro other otherHeld same
    rw [stripped] at same
    exact catalogue.names id other held otherHeld (of_decide_eq_true same)

/-- The name arrives with or without its terminator. -/
theorem getVariableNamed_requested (held : handler.Holds id) (carried : (handler.objects id).Carried) :
    handler.getVariableNamed (requestedName (handler.objects id).name) = .ok id := by
  have found := getVariableByName_held catalogue held
  have least := Text.Utf8.length_le_encode (handler.objects id).name.toList
  rw [String.length_toList] at least
  by_cases ascii : (Text.Utf8.encode (handler.objects id).name.toList).length = (handler.objects id).name.length
  · have whole : requestedName (handler.objects id).name =
        Text.Utf8.encode ((handler.objects id).name.toList ++ ['\x00']) := by
      rw [requestedName, List.take_of_length_le (by rw [List.length_append, ascii]; rfl)]
      simp [Text.Utf8.encode, utf8EncodeChar_ascii]
    have terminated : handler.getVariableByName (String.ofList ((handler.objects id).name.toList ++ ['\x00'])) = .ok id := by
      rw [getVariableByName, stripNul_terminated, String.ofList_toList]
      exact found
    rw [getVariableNamed, whole, Text.Utf8.decode_encode]
    exact terminated
  · unfold PLCVariable.Carried at carried
    have whole : requestedName (handler.objects id).name = Text.Utf8.encode (handler.objects id).name.toList :=
      List.take_left' (by omega)
    rw [getVariableNamed, whole, Text.Utf8.decode_encode]
    dsimp only
    rwa [String.ofList_toList]

theorem adsGetHandle_held (held : handler.Holds id) (carried : (handler.objects id).Carried) :
    handler.adsGetHandle (handler.objects id).name = .ok (.ofNat (handler.objects id).handle) :=
  adsGetHandle_named (getVariableNamed_requested catalogue held carried) (catalogue.wellFormed id held).handle

theorem handleReadWrite_symbol (held : handler.Holds id) (carried : (handler.objects id).Carried) :
    (handler.handleReadWrite ADSIGRP_SYM_INFOBYNAMEEX 0 sizeofSymbolEntry
      (requestedName (handler.objects id).name)).1 = (handler.objects id).getPackedInfo := by
  simp only [handleReadWrite_infoByNameEx, getVariableNamed_requested catalogue held carried, bind, Except.bind]

/-- The symbol information of a variable is its symbol entry, if its size can
be packed. -/
theorem adsGetSymbolInfo_eq_ok (held : handler.Holds id) (carried : (handler.objects id).Carried) :
    handler.adsGetSymbolInfo (handler.objects id).name = .ok symbol ↔
      (handler.objects id).size < 2 ^ 32 ∧ symbol = (handler.objects id).symbolEntry := by
  by_cases small : (handler.objects id).size < 2 ^ 32
  · obtain ⟨reply, packed, checked, entry⟩ :=
      PLCVariable.symbolEntryOf_packed (catalogue.wellFormed id held) small
    have answer := (handleReadWrite_symbol catalogue held carried).trans packed
    have returned : handler.adsGetSymbolInfo (handler.objects id).name = .ok (handler.objects id).symbolEntry :=
      bind_eq_ok.mpr ⟨reply, answer, bind_eq_ok.mpr ⟨(), checked, entry⟩⟩
    rw [returned, and_iff_right small, Except.ok.injEq]
    exact eq_comm
  · constructor
    · intro returned
      obtain ⟨reply, answer, -⟩ := bind_eq_ok.mp returned
      have packed := (handleReadWrite_symbol catalogue held carried).symm.trans answer
      exact absurd ((PLCVariable.size_of_getPackedInfo packed).trans_eq (by norm_num)) small
    · rintro ⟨bound, -⟩
      exact absurd bound small

/-- A variable that is found by a name has that name. -/
theorem name_of_getVariableByName (found : handler.getVariableByName name = .ok id) :
    handler.Holds id ∧ (handler.objects id).name = stripNul name := by
  obtain ⟨held, own⟩ := of_firstWith catalogue.keyed found
  exact ⟨held, of_decide_eq_true own⟩

/-- If all variables are found by what a request carries of their names, each
name is carried whole. The shortest name that is not would have to be found as
another one that is not, and is shorter. -/
theorem carried_of_found (found : ∀ id, handler.Holds id →
    ∃ other, handler.getVariableNamed (requestedName (handler.objects id).name) = .ok other)
    (held : handler.Holds id) : (handler.objects id).Carried := by
  induction size : (Text.Utf8.encode (handler.objects id).name.toList).length using Nat.strong_induction_on
    generalizing id with
  | _ size ih =>
    by_contra lost
    have long := Nat.lt_of_not_le lost
    obtain ⟨other, reached⟩ := found id held
    unfold getVariableNamed at reached
    cases read : Text.Utf8.decode (requestedName (handler.objects id).name) with
    | none =>
      rw [read] at reached
      cases reached
    | some chars =>
      rw [read] at reached
      obtain ⟨otherHeld, name⟩ := name_of_getVariableByName catalogue reached
      obtain ⟨cut, fewer⟩ := requestedName_cut long read
      have stripped := length_encode_stripNul chars
      have least := length_stripNul_le chars
      rw [← name] at stripped least
      have carried := ih _ (by omega) otherHeld rfl
      unfold PLCVariable.Carried at carried
      omega

end Lookups

/-! ## Changed values -/

/-- The same variables with other values. -/
structure Revalued (handler later : AdvancedHandler) : Prop where
  data : later.data = handler.data
  objects : ∀ id, ∃ value, later.objects id = { handler.objects id with value := value }

namespace Revalued
variable {handler middle later : AdvancedHandler}

theorem refl (handler : AdvancedHandler) : Revalued handler handler := ⟨rfl, fun _ => ⟨_, rfl⟩⟩

theorem trans (first : Revalued handler middle) (second : Revalued middle later) : Revalued handler later := by
  refine ⟨second.data.trans first.data, ?_⟩
  intro id
  obtain ⟨value, here⟩ := first.objects id
  obtain ⟨other, there⟩ := second.objects id
  exact ⟨other, by rw [there, here]⟩

theorem setValue (id : Nat) (value : Bytes) (handler : AdvancedHandler) :
    Revalued handler (handler.setValue id value) := by
  refine ⟨rfl, ?_⟩
  intro other
  by_cases same : other = id
  · subst same
    exact ⟨value, Function.update_self ..⟩
  · exact ⟨_, Function.update_of_ne same ..⟩

theorem holds_iff (revalued : Revalued handler later) (id : Nat) : later.Holds id ↔ handler.Holds id := by
  obtain ⟨value, same⟩ := revalued.objects id
  rw [Holds, Holds, revalued.data, same]
  exact Iff.rfl

/-- What is read of a variable other than its value is the same. -/
theorem field (revalued : Revalued handler later) {f : PLCVariable → β}
    (same : ∀ var value, f { var with value := value } = f var) (id : Nat) :
    f (later.objects id) = f (handler.objects id) := by
  obtain ⟨value, changed⟩ := revalued.objects id
  rw [changed, same]

theorem name (revalued : Revalued handler later) : ∀ id, (later.objects id).name = (handler.objects id).name :=
  revalued.field fun _ _ => rfl

theorem handle (revalued : Revalued handler later) : ∀ id, (later.objects id).handle = (handler.objects id).handle :=
  revalued.field fun _ _ => rfl

/-! Lookups find the same variables. -/

theorem getVariableByIndices (revalued : Revalued handler later) (indexGroup indexOffset : UInt32) :
    later.getVariableByIndices indexGroup indexOffset = handler.getVariableByIndices indexGroup indexOffset := by
  rw [AdvancedHandler.getVariableByIndices, revalued.data, AdvancedHandler.getVariableByIndices]

theorem firstWith (revalued : Revalued handler later) {p : PLCVariable → Bool}
    (same : ∀ var value, p { var with value := value } = p var) (message : String) :
    later.firstWith p message = handler.firstWith p message := by
  simp only [AdvancedHandler.firstWith, revalued.data, revalued.field same]

theorem getVariableByHandle (revalued : Revalued handler later) (handle : Nat) :
    later.getVariableByHandle handle = handler.getVariableByHandle handle :=
  revalued.firstWith (fun _ _ => rfl) _

theorem getVariableByName (revalued : Revalued handler later) (name : String) :
    later.getVariableByName name = handler.getVariableByName name :=
  revalued.firstWith (fun _ _ => rfl) _

theorem catalogue {types : Nat → ElementaryType} (revalued : Revalued handler later)
    (catalogue : handler.Catalogue types) : later.Catalogue types := by
  refine ⟨?_, ?_, ?_, ?_⟩
  · intro key id found
    obtain ⟨value, same⟩ := revalued.objects id
    rw [revalued.data] at found
    rw [same]
    exact catalogue.keyed key id found
  · intro id other held otherHeld same
    rw [revalued.holds_iff] at held otherHeld
    rw [revalued.name, revalued.name] at same
    exact catalogue.names id other held otherHeld same
  · intro id other held otherHeld same
    rw [revalued.holds_iff] at held otherHeld
    rw [revalued.handle, revalued.handle] at same
    exact catalogue.handles id other held otherHeld same
  · intro id held
    rw [revalued.holds_iff] at held
    obtain ⟨value, same⟩ := revalued.objects id
    rw [same]
    have wellFormed := catalogue.wellFormed id held
    exact ⟨wellFormed.stripped, wellFormed.handle, wellFormed.symbolType, wellFormed.adsType,
      wellFormed.nonempty, wellFormed.size, wellFormed.entry⟩

end Revalued

end AdvancedHandler

end PyAds
