import PyAds.SumStatus

/-! Replies that consist of a status and the data of each item. The loop of a
sum read then treats every item by itself: what it stores for an item follows
from the item's symbol, status and data, whatever position the item has. -/
namespace PyAds
open Fallible

/-- What the device returns for one item of a sum read. -/
structure ItemReply where
  status : UInt32
  data : Bytes
  deriving DecidableEq, Repr

def statusBytes (status : UInt32) : Bytes := LittleEndian.ofNat 4 status.toNat

/-- All statuses, then all data. -/
def sumReply (replies : List ItemReply) : Bytes :=
  replies.flatMap (fun reply => statusBytes reply.status) ++ replies.flatMap (·.data)

/-- The entry of one item, from its own reply. -/
def itemResult (structured : Bool) (symbol : SAdsSymbolEntry) (reply : ItemReply) : Result PyVal :=
  if reply.status ≠ 0 then errorText reply.status.toNat else readItem structured symbol reply.data 0

@[simp] theorem length_statusBytes (status : UInt32) : (statusBytes status).length = 4 :=
  LittleEndian.length_ofNat ..

theorem length_flatMap_statusBytes (replies : List ItemReply) :
    (replies.flatMap fun reply => statusBytes reply.status).length = 4 * replies.length := by
  induction replies with
  | nil => rfl
  | cons reply replies ih =>
    simp only [List.flatMap_cons, List.length_append, length_statusBytes, ih, List.length_cons]
    omega

theorem toNat_statusBytes (status : UInt32) : LittleEndian.toNat (statusBytes status) = status.toNat :=
  LittleEndian.toNat_ofNat_of_lt status.toNat_lt

/-- One item between those before and after it. -/
private theorem entry_eq_itemResult (holds : HoldsElement (dataName ∈ structuredDataNames) symbol)
    (whole : reply.data.length = symbol.size.toNat) (statuses between after : Bytes) (index offset : Nat)
    (index_ : statuses.length = index * 4) (offset_ : offset = statuses.length + 4 + between.length) :
    PlacedItem.entry structuredDataNames
      (statuses ++ (statusBytes reply.status ++ (between ++ (reply.data ++ after))))
      ⟨dataName, symbol, index, offset⟩ = itemResult (dataName ∈ structuredDataNames) symbol reply := by
  have word : statusWord (statuses ++ (statusBytes reply.status ++ (between ++ (reply.data ++ after)))) index =
      reply.status.toNat := by
    rw [statusWord, ← index_, List.drop_left, ← length_statusBytes reply.status, List.take_left,
      toNat_statusBytes]
  have zero : reply.status.toNat ≠ 0 ↔ reply.status ≠ 0 := by
    rw [not_iff_not, ← UInt32.toNat_inj]
    rfl
  have value := readItem_shift (dataName ∈ structuredDataNames) symbol
    (statuses ++ statusBytes reply.status ++ between) (reply.data ++ after) 0
  rw [readItem_window holds whole] at value
  have behind : (statuses ++ statusBytes reply.status ++ between).length + 0 = offset := by
    simp only [List.length_append, length_statusBytes]
    omega
  rw [behind] at value
  simp only [List.append_assoc] at value
  rw [PlacedItem.entry_eq (by simp only [List.length_append, length_statusBytes]; omega), word, itemResult]
  simp only [zero, value]

/-- The loop reads the entries of items whose statuses and data follow one
another. -/
theorem entries_eq {items : List (String × SAdsSymbolEntry)} {replies : List ItemReply}
    (whole : List.Forall₂ (fun item reply => reply.data.length = item.2.size.toNat) items replies)
    (holds : ∀ item ∈ items, HoldsElement (item.1 ∈ structuredDataNames) item.2)
    (statuses data after : Bytes) (index offset : Nat) (index_ : statuses.length = index * 4)
    (offset_ : offset = statuses.length + 4 * replies.length + data.length) :
    (placed items index offset).mapM (·.entry structuredDataNames
      (statuses ++ (replies.flatMap fun reply => statusBytes reply.status) ++
        (data ++ replies.flatMap (·.data) ++ after))) =
      (items.zip replies).mapM fun item => itemResult (item.1.1 ∈ structuredDataNames) item.1.2 item.2 := by
  induction whole generalizing statuses data index offset with
  | nil => rfl
  | @cons item reply items replies here later ih =>
    obtain ⟨dataName, symbol⟩ := item
    dsimp only at here
    obtain ⟨first, rest⟩ := List.forall_mem_cons.mp holds
    have tail := ih rest (statuses ++ statusBytes reply.status) (data ++ reply.data)
      (index + 1) (offset + symbol.size.toNat)
      (by simp only [List.length_append, length_statusBytes]; omega)
      (by simp only [List.length_append, length_statusBytes, List.length_cons] at offset_ ⊢; omega)
    have regroup : statuses ++ ((reply :: replies).flatMap fun reply => statusBytes reply.status) ++
        (data ++ (reply :: replies).flatMap (·.data) ++ after) =
        statuses ++ statusBytes reply.status ++ (replies.flatMap fun reply => statusBytes reply.status) ++
          (data ++ reply.data ++ replies.flatMap (·.data) ++ after) := by
      simp
    have entry := entry_eq_itemResult first here statuses
      ((replies.flatMap fun reply => statusBytes reply.status) ++ data) (replies.flatMap (·.data) ++ after)
      index offset index_ (by simp only [List.length_append, length_flatMap_statusBytes, List.length_cons] at offset_ ⊢; omega)
    simp only [List.append_assoc] at entry tail regroup ⊢
    rw [placed, List.mapM_cons, List.zip_cons_cons, List.mapM_cons, regroup, tail, entry]

theorem length_sumReply {symbols : List SAdsSymbolEntry} {replies : List ItemReply}
    (whole : List.Forall₂ (fun symbol reply => reply.data.length = symbol.size.toNat) symbols replies) :
    (sumReply replies).length = 4 * symbols.length + (symbols.map (·.size.toNat)).sum := by
  have data : (replies.flatMap (·.data)).length = (symbols.map (·.size.toNat)).sum := by
    induction whole with
    | nil => rfl
    | cons here _ ih => rw [List.flatMap_cons, List.length_append, ih, here, List.map_cons, List.sum_cons]
  rw [sumReply, List.length_append, length_flatMap_statusBytes, data, whole.length_eq]

/-- A sum read stores, for each item, what follows from its own reply. -/
theorem adsSumRead_replies {dataNames : List String} {replies : List ItemReply}
    (found : dataNames.mapM (symbolOf dataSymbols) = .ok symbols)
    (whole : List.Forall₂ (fun symbol reply => reply.data.length = symbol.size.toNat) symbols replies)
    (holds : ∀ item ∈ dataNames.zip symbols, HoldsElement (item.1 ∈ structuredDataNames) item.2) :
    adsSumRead (fun _ => .ok (sumReply replies)) dataNames dataSymbols structuredDataNames = .ok result ↔
      ∃ values, ((dataNames.zip symbols).zip replies).mapM (fun item =>
          itemResult (item.1.1 ∈ structuredDataNames) item.1.2 item.2) = .ok values ∧
        (OrderedDict.fromKeys dataNames PyVal.none).setAll (dataNames.zip values) = result := by
  have length := (mapM_eq_ok.mp found).length_eq
  have exact_ : readResponse symbols (sumReply replies) = sumReply replies := by
    rw [readResponse, responseBuffer, ← length_sumReply whole, List.take_left]
  have items : List.Forall₂ (fun item reply => reply.data.length = item.2.size.toNat)
      (dataNames.zip symbols) replies := by
    have second : (dataNames.zip symbols).map Prod.snd = symbols := List.map_snd_zip length.ge
    rw [← second, List.forall₂_map_left_iff] at whole
    exact whole
  have entries := entries_eq items holds [] [] [] 0 (4 * dataNames.length) rfl
    (by simp [length, whole.length_eq])
  simp only [List.nil_append, List.append_nil] at entries
  rw [adsSumRead_eq_ok found, exact_, sumReply, entries]

end PyAds
