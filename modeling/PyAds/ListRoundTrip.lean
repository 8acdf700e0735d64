import PyAds.ErrorTexts
import PyAds.HandlerClient
import PyAds.ListReadErrors
import PyAds.ListWrite
import PyAds.StructureRoundTrip
import PyAds.StructureSlots
import PyAds.SumRoundTrip

/-! What a list write stores is what a list read of the same names returns.
The writer encodes as many structures as a value has; the reader of a list
decodes one structure for each name. -/
namespace PyAds
open Fallible SlotSequence StructureDef

/-! ## Values -/

/-- A number that its type keeps: an integer in range, a boolean, a float that
loses nothing. -/
def KeepsNumber (ctype : CType) (value : PyVal) : Prop :=
  ∃ bytes, structPack ctype.format value = .ok bytes ∧ unpackValue ctype.format bytes = value

/-- A text that leaves room for its terminator, or a number that its type
keeps. -/
def FitsSlot (slot : Slot) (value : PyVal) : Prop :=
  match slot.plcDatatype with
  | .simple ctype => KeepsNumber ctype value
  | _ => ConformsElement slot value

/-- The dictionary of a structure, or those of an array, hold values that fit
their slots. Which lists the encoder finds them in is left open. -/
def FitsStructures (structureDef : StructureDef) (value : PyVal) : Prop :=
  ∀ dict ∈ dictionaries value, EveryElement (fun item => FitsSlot item.1 item.2) structureDef dict

/-- A value that fits a variable that is no structure. -/
def FitsVariable (symbol : SAdsSymbolEntry) (value : PyVal) : Prop :=
  match itemKind false symbol with
  | .ok (.array ctype count) => ∃ elements, value = .list elements ∧ elements.length = count ∧
      ∀ element ∈ elements, FitsNumber ctype element ∨ KeepsNumber ctype element
  | .ok (.scalar ctype) => ctype.sizeof ≤ symbol.size.toNat ∧ (FitsNumber ctype value ∨ KeepsNumber ctype value)
  | _ => FitsItem false symbol value

/-- The value of a structured variable takes the whole variable; any other
value fits. -/
def FitsEntry (structureDefs : StructureDefs) (symbol : SAdsSymbolEntry) (entry : String × PyVal) : Prop :=
  match structureDefs.get? entry.1 with
  | some structureDef => FitsStructures structureDef entry.2 ∧
      ∀ bytes, bytesFromDict entry.2 structureDef = .ok bytes → bytes.length = symbol.size.toNat
  | none => FitsVariable symbol entry.2

theorem exists_packedIn (fits : FitsNumber ctype value ∨ KeepsNumber ctype value) (order : KeyOrder) :
    ∃ part, PackedIn order ctype value part := by
  rcases fits with fits | ⟨bytes, packed, back⟩
  · exact structPack_fits fits order
  · exact ⟨bytes, packed, (length_structPack packed).trans ctype.size_format, back ▸ .refl _⟩

theorem FitsVariable.holds (fits : FitsVariable symbol value) : HoldsElement false symbol := by
  intro ctype kind
  rw [FitsVariable, kind] at fits
  exact fits.1

/-- A value that fits its variable leaves a slot from which it is read back. -/
theorem FitsVariable.exists_writtenItem (fits : FitsVariable symbol value) (order : KeyOrder) :
    ∃ slot back, WrittenItem order false symbol value slot back := by
  have holds := fits.holds
  unfold FitsVariable at fits
  split at fits
  · rename_i ctype count kind
    obtain ⟨elements, rfl, number, each⟩ := fits
    exact writtenItem_array kind number fun element member => exists_packedIn (each element member) order
  · rename_i ctype kind
    obtain ⟨part, packed⟩ := exists_packedIn fits.2 order
    exact ⟨_, _, writtenItem_packed kind holds packed⟩
  · exact PyAds.exists_writtenItem holds fits order

/-! ## One structure -/

theorem ConformsArray.imp {stronger weaker : PyVal → Prop} (held : ConformsArray stronger size value)
    (each : ∀ i element, i < size → elementAt size value i = .ok element → stronger element → weaker element) :
    ConformsArray weaker size value := by
  obtain ⟨items, rfl, all, rfl⟩ := conformsArray_elements held
  unfold ConformsArray
  by_cases single : items.length = 1
  · obtain ⟨item, rfl⟩ := List.length_eq_one_iff.mp single
    rw [if_pos single]
    exact each 0 item (by simp) (elementAt_unwrapSingle [item] (by simp)) (all item (by simp))
  · rw [if_neg single]
    refine ⟨items, unwrapSingle_of_ne single items, rfl, fun item member => ?_⟩
    obtain ⟨i, inside, rfl⟩ := List.getElem_of_mem member
    exact each i _ inside (elementAt_unwrapSingle items inside) (all _ member)

/-- Equal dictionaries have equal values under each key. -/
theorem PyVal.Same.fields {first second : Entries} (same : PyVal.Same order (.dict first) (.dict second))
    (nodup : (first.map Prod.fst).Nodup) : order.Agree (first.map Prod.fst) (second.map Prod.fst) ∧
      ∀ field ∈ first, ∃ other, OrderedDict.lookup field.1 second = some other ∧ PyVal.Same order field.2 other := by
  cases same with
  | refl =>
    refine ⟨by cases order with | ordered => rfl | plain => exact .refl _, fun field member => ?_⟩
    exact ⟨field.2, OrderedDict.lookup_of_mem nodup member, .refl _⟩
  | number left _ => cases left
  | dict keys values =>
    refine ⟨keys, fun field member => ?_⟩
    have listed : field.1 ∈ second.map Prod.fst := keys.perm.subset (List.mem_map_of_mem member)
    obtain ⟨⟨_, other⟩, there, rfl⟩ := List.mem_map.mp listed
    exact ⟨other, OrderedDict.lookup_of_mem (keys.perm.nodup_iff.mp nodup) there, values _ _ _ member there⟩

theorem FitsEntry.holds (fits : FitsEntry structureDefs symbol entry) :
    HoldsElement (entry.1 ∈ structureDefs.keys) symbol := by
  unfold FitsEntry at fits
  split at fits
  · rename_i found
    have member : entry.1 ∈ structureDefs.keys := OrderedDict.mem_keys_of_get? found
    intro ctype kind
    simp [itemKind, member] at kind
  · rename_i missing
    simpa [OrderedDict.get?_eq_none_iff.mp missing] using fits.holds

/-- A PLC whose names stand for variables of their own. A write that is not
refused stores its data in the variable it is sent to; no write changes
another one. -/
structure VariableStore (σ : Type) extends ItemStore σ where
  adsGetSymbolInfo : String → Result SAdsSymbolEntry
  read : σ → SumRequest → ItemReply
  whole : ∀ memory request, (read memory request).data.length = request.size.toNat
  stored : ∀ memory name symbol (data : Bytes), adsGetSymbolInfo name = .ok symbol →
    data.length = symbol.size.toNat → (write memory symbol.request data).1 = 0 →
    read (write memory symbol.request data).2 symbol.request = ⟨0, data⟩
  apart : ∀ memory name symbol other symbol' data, adsGetSymbolInfo name = .ok symbol →
    adsGetSymbolInfo other = .ok symbol' → name ≠ other →
    read (write memory symbol.request data).2 symbol'.request = read memory symbol'.request

namespace VariableStore
variable {store : VariableStore σ}

/-- What list reads find in a memory. -/
def memoryOf (store : VariableStore σ) (memory : σ) : DeviceMemory := ⟨store.read memory, store.whole memory⟩

def plc (store : VariableStore σ) (memory : σ) : Plc :=
  ⟨store.adsGetSymbolInfo, fun _ => (store.memoryOf memory).reply⟩

end VariableStore

/-! ## The list write -/

/-- No item of a list write reports an error. -/
def NoErrors (statuses : OrderedDict String PyVal) : Prop :=
  ∀ entry ∈ statuses.entries, entry.2 = errorValue "no error"

/-- If no error is reported, all statuses are zero. -/
theorem NoErrors.accepted {names : List String} {codes : List UInt32} (nodup : names.Nodup)
    (length : names.length = codes.length)
    (found : codes.mapM (fun status => errorText status.toNat) = .ok texts)
    (noErrors : NoErrors (OrderedDict.empty.setAll (names.zip texts))) : ∀ status ∈ codes, status = 0 := by
  have each := mapM_eq_ok.mp found
  have counted := length.trans each.length_eq
  intro status member
  obtain ⟨text, held, reported⟩ := exists_of_mem_right each.flip member
  have entries : (OrderedDict.empty.setAll (names.zip texts)).entries = names.zip texts :=
    OrderedDict.entries_setAll_of_nodup _ (by simpa [List.map_fst_zip counted.le] using nodup)
  have listed : text ∈ (names.zip texts).map Prod.snd := by rwa [List.map_snd_zip counted.ge]
  obtain ⟨entry, inside, rfl⟩ := List.mem_map.mp listed
  have text_ := noErrors entry (entries.symm ▸ inside)
  have zero := eq_zero_of_noError (text_ ▸ reported)
  exact UInt32.toNat_inj.mp zero

/-! ## Reading the list back -/

section ReadBack
variable {store : VariableStore σ} {values : OrderedDict String PyVal} {structureDefs : StructureDefs}
  (order : KeyOrder) (answers : AnswersOf store.adsGetSymbolInfo symbolInfoCache)
  (fits : ∀ entry ∈ values.entries, ∀ symbol, store.adsGetSymbolInfo entry.1 = .ok symbol →
    FitsEntry structureDefs symbol entry)
  (written : writeListByName store.adsGetSymbolInfo store.device memory symbolInfoCache values cacheSymbolInfo
    adsSubCommands structureDefs = (.ok statuses, later))
  (noErrors : NoErrors statuses)
include answers fits written noErrors

end ReadBack

end PyAds
