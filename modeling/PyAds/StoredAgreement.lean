import PyAds.HandlerClient

/-! What a list read returns after any writes. It returns the values last
written as long as no negative `SINT` is among them, and each text that is
written on its own fills its variable. -/
namespace PyAds
open Runs Fallible AdvancedHandler

/-! ## Definitions -/

namespace ClientCall

/-- Values are valid, and each is for one of the variables. A list names them;
a single write may give a handle instead, and the data type. An address is not
among those that have a meaning of their own. -/
def Lawful (types : Nat → ElementaryType) (client : HandlerClient) : ClientCall → Prop
  | .writeByName dataName value plcDatatype handle _ => ∃ id, client.handler.Holds id ∧ (types id).Valid value ∧
      (∀ given, plcDatatype = some given → (types id).Takes given) ∧
      (handle = none ∨ plcDatatype = none → dataName = (client.handler.objects id).name) ∧
      ∀ known, handle = some known → known.toNat = (client.handler.objects id).handle
  | .write indexGroup indexOffset value plcDatatype => ∃ id, client.handler.Holds id ∧ (types id).Valid value ∧
      (types id).Takes plcDatatype ∧ indexGroup = (client.handler.objects id).indexGroup ∧
      indexOffset = (client.handler.objects id).indexOffset ∧
      indexGroup ≠ ADSIGRP_SYM_RELEASEHND ∧ indexGroup ≠ ADSIGRP_SYM_VALBYHND
  | .writeListByName dataNamesAndValues _ adsSubCommands => 0 < adsSubCommands ∧
      ∀ entry ∈ dataNamesAndValues.entries, ∃ id, client.handler.Holds id ∧
        (client.handler.objects id).name = entry.1 ∧ (types id).Valid entry.2
  | .readListByName .. => True

/-- No value is a negative `SINT`, and a text that is written on its own fills
its variable. -/
def Keeps (types : Nat → ElementaryType) (client : HandlerClient) : ClientCall → Prop
  | .writeByName dataName value _ handle _ => ∀ id, client.addressed dataName handle = .ok id →
      ¬ (types id).Misread value ∧ (types id).Fills value
  | .write indexGroup indexOffset value _ => ∀ id,
      client.handler.getVariableByIndices indexGroup indexOffset = .ok id →
        ¬ (types id).Misread value ∧ (types id).Fills value
  | .writeListByName dataNamesAndValues _ _ => ∀ entry ∈ dataNamesAndValues.entries, ∀ id,
      client.handler.getVariableByName entry.1 = .ok id → ¬ (types id).Misread entry.2
  | .readListByName .. => True

end ClientCall

namespace HandlerClient

/-- A list read of any of the variables returns the value last written to each,
or its initial value. -/
def Agrees (client : HandlerClient) : Prop :=
  ∀ (ids : List Nat) (cacheSymbolInfo : Bool) (adsSubCommands : Nat), (∀ id ∈ ids, client.handler.Holds id) →
    0 < adsSubCommands → ∃ result, (client.readListByName (ids.map fun id => (client.handler.objects id).name)
        cacheSymbolInfo adsSubCommands).1 = .ok result ∧
      result.keys = (ids.map fun id => (client.handler.objects id).name).foldl OrderedDict.addKey [] ∧
      ∀ id ∈ ids, ∃ value, result.get? (client.handler.objects id).name = some value ∧
        PyVal.Same .plain value (client.written id)

/-- A client before its first call. -/
structure Fresh (types : Nat → ElementaryType) (client : HandlerClient) : Prop where
  catalogue : client.handler.Catalogue types
  symbolInfoCache : client.symbolInfoCache = OrderedDict.empty
  stored : ∀ id, client.handler.Holds id → (types id).Stores (client.handler.objects id).value (client.written id)

/-- Each name is carried whole, each variable holds data from which the value
last written is read, and the cache holds what the handler would answer. -/
structure Current (types : Nat → ElementaryType) (client : HandlerClient) : Prop where
  catalogue : client.handler.Catalogue types
  carried : ∀ id, client.handler.Holds id → (client.handler.objects id).Carried
  reads : ∀ id, client.handler.Holds id → (types id).Reads (client.handler.objects id).value (client.written id)
  answers : AnswersOf client.handler.adsGetSymbolInfo client.symbolInfoCache

end HandlerClient

/-! ## Symbols of the variables -/

section Symbols
variable {types : Nat → ElementaryType} {handler : AdvancedHandler} {id : Nat}

theorem symbolEntry_size (small : (handler.objects id).value.length < 2 ^ 32) :
    (handler.objects id).symbolEntry.size.toNat = (handler.objects id).value.length := by
  exact UInt32.toNat_ofNat_of_lt' small

theorem AdvancedHandler.Catalogue.itemKind (catalogue : handler.Catalogue types) (held : handler.Holds id)
    (length : (handler.objects id).value.length = (types id).size) :
    PyAds.itemKind false (handler.objects id).symbolEntry = .ok (types id).itemKind ∧
      (handler.objects id).symbolEntry.size.toNat = (types id).size := by
  have wellFormed := catalogue.wellFormed id held
  have size : (handler.objects id).symbolEntry.size.toNat = (types id).size := by
    rw [symbolEntry_size, length]
    rw [length]
    exact wellFormed.size
  exact ⟨itemKind_elementary wellFormed.symbolType wellFormed.adsType size wellFormed.nonempty, size⟩

end Symbols

/-! ## Calls change values alone -/

namespace ClientCall
variable {types : Nat → ElementaryType} {client later : HandlerClient}

theorem revalued_writeListByName (dataNamesAndValues : OrderedDict String PyVal) (cacheSymbolInfo : Bool)
    (adsSubCommands : Nat) (client : HandlerClient) :
    Revalued client.handler (client.writeListByName dataNamesAndValues cacheSymbolInfo adsSubCommands).2.handler := by
  simp only [HandlerClient.writeListByName, PyAds.writeListByName]
  split
  · exact .refl client.handler
  · split
    · exact .refl client.handler
    · apply writeList_invariant _ (.refl client.handler)
      intro handler slice revalued
      exact revalued.trans (.sumWrite _ _ slice handler)

theorem revalued_after (call : ClientCall) (client : HandlerClient) :
    Revalued client.handler (call.after client).handler := by
  cases call with
  | writeByName dataName value plcDatatype handle cacheSymbolInfo =>
    simp only [after, HandlerClient.writeByName]
    split
    · exact .refl client.handler
    · exact .adsSyncWriteByNameEx ..
  | write indexGroup indexOffset value plcDatatype => exact .adsSyncWriteReqEx ..
  | writeListByName dataNamesAndValues cacheSymbolInfo adsSubCommands => exact revalued_writeListByName ..
  | readListByName dataNames cacheSymbolInfo adsSubCommands => exact .refl client.handler

/-- So a call that is lawful at some time is lawful at any time. -/
theorem lawful_iff (revalued : Revalued client.handler later.handler) (call : ClientCall) :
    call.Lawful types later ↔ call.Lawful types client := by
  have indexGroup := revalued.field (f := PLCVariable.indexGroup) fun _ _ => rfl
  have indexOffset := revalued.field (f := PLCVariable.indexOffset) fun _ _ => rfl
  cases call <;>
    simp only [Lawful, revalued.holds_iff, revalued.name, revalued.handle, indexGroup, indexOffset]

theorem keeps_iff (revalued : Revalued client.handler later.handler) (call : ClientCall) :
    call.Keeps types later ↔ call.Keeps types client := by
  have addressed (dataName : String) (handle : Option UInt32) :
      later.addressed dataName handle = client.addressed dataName handle := by
    cases handle with
    | some known => exact revalued.getVariableByHandle known.toNat
    | none => exact revalued.getVariableByName dataName
  cases call <;>
    simp only [Keeps, addressed, revalued.getVariableByIndices, revalued.getVariableByName]

theorem along_lawful_iff : Along after (Lawful types) client calls ↔ ∀ call ∈ calls, call.Lawful types client :=
  along_iff_forall (fun _ call revalued => lawful_iff revalued call)
    (fun between call revalued => revalued.trans (revalued_after call between)) (.refl client.handler)

theorem along_keeps_iff : Along after (Keeps types) client calls ↔ ∀ call ∈ calls, call.Keeps types client :=
  along_iff_forall (fun _ call revalued => keeps_iff revalued call)
    (fun between call revalued => revalued.trans (revalued_after call between)) (.refl client.handler)

end ClientCall

/-! ## Reading -/

namespace HandlerClient
variable {types : Nat → ElementaryType} {client after : HandlerClient} {id : Nat} {data : Bytes}

theorem readListByName_of_resolved (found : resolveSymbols client.handler.adsGetSymbolInfo cacheSymbolInfo
    client.symbolInfoCache dataNames = .ok (dataSymbols, later)) :
    client.readListByName dataNames cacheSymbolInfo adsSubCommands =
      (readList (fun call => sumRead (client.handler.plc.sumRead call) dataSymbols OrderedDict.empty) dataNames
        adsSubCommands, { client with symbolInfoCache := later }) := by
  have asked : resolveSymbols client.handler.plc.toPlc.adsGetSymbolInfo cacheSymbolInfo client.symbolInfoCache dataNames =
      .ok (dataSymbols, later) := found
  simp only [readListByName, PyAds.readListByName, asked]

theorem readListByName_of_unresolved (failed : resolveSymbols client.handler.adsGetSymbolInfo cacheSymbolInfo
    client.symbolInfoCache dataNames = .error e) :
    client.readListByName dataNames cacheSymbolInfo adsSubCommands = (.error e, client) := by
  have asked : resolveSymbols client.handler.plc.toPlc.adsGetSymbolInfo cacheSymbolInfo client.symbolInfoCache dataNames =
      .error e := failed
  simp only [readListByName, PyAds.readListByName, asked]

theorem Current.symbolInfo (current : client.Current types) (held : client.handler.Holds id) :
    client.handler.adsGetSymbolInfo (client.handler.objects id).name =
      .ok (client.handler.objects id).symbolEntry := by
  apply (adsGetSymbolInfo_eq_ok current.catalogue held (current.carried id held)).mpr
  refine ⟨?_, rfl⟩
  rw [PLCVariable.size, (current.reads id held).1]
  exact (current.catalogue.wellFormed id held).size

/-- A list read of current variables returns what was last written to them. -/
theorem Current.agrees (current : client.Current types) : client.Agrees := by
  intro ids cacheSymbolInfo adsSubCommands held positive
  have asked : ∀ dataName ∈ ids.map (fun id => (client.handler.objects id).name),
      ∃ symbol, client.handler.adsGetSymbolInfo dataName = .ok symbol := by
    rw [List.forall_mem_map]
    intro id member
    exact ⟨_, current.symbolInfo (held id member)⟩
  obtain ⟨dataSymbols, later, found⟩ := exists_resolveSymbols cacheSymbolInfo asked
  obtain ⟨built, -⟩ := current.answers.resolveSymbols found
  obtain ⟨keys, symbols⟩ := dictOf_eq_ok.mp built
  -- Each symbol that has been resolved is the entry of one of the variables.
  have known : ∀ dataName symbol, dataSymbols.get? dataName = some symbol → ∃ id ∈ ids,
      dataName = (client.handler.objects id).name ∧ symbol = (client.handler.objects id).symbolEntry := by
    intro dataName symbol present
    have named : dataName ∈ dataSymbols.keys := OrderedDict.mem_keys_of_get? present
    rw [keys, OrderedDict.mem_foldl_addKey] at named
    obtain ⟨id, member, rfl⟩ := List.mem_map.mp (named.resolve_left List.not_mem_nil)
    obtain ⟨other, answer, same⟩ := symbols _ (List.mem_map_of_mem member)
    cases same.symm.trans present
    cases answer.symm.trans
      (current.symbolInfo (held id member))
    exact ⟨id, member, rfl, rfl⟩
  have shape : ∀ id ∈ ids, itemKind false (client.handler.objects id).symbolEntry = .ok (types id).itemKind ∧
      (client.handler.objects id).symbolEntry.size.toNat = (types id).size := by
    intro id member
    exact current.catalogue.itemKind (held id member) (current.reads id (held id member)).1
  have serves : ∀ id ∈ ids, client.handler.Serves (client.handler.objects id).symbolEntry.request id := by
    intro id member
    have length := (current.reads id (held id member)).1
    exact ⟨getVariableByIndices_held (held id member), length.trans (shape id member).2.symm⟩
  have resolves : client.handler.Resolves dataSymbols := by
    intro dataName symbol present
    obtain ⟨id, member, -, rfl⟩ := known dataName symbol present
    exact ⟨id, serves id member⟩
  have holds : ∀ dataName symbol, dataSymbols.get? dataName = some symbol → HoldsElement false symbol := by
    intro dataName symbol present
    obtain ⟨id, member, -, rfl⟩ := known dataName symbol present
    exact holdsElement_elementary (shape id member).1 (shape id member).2
  let entryOf := fun dataName => do
    let symbol ← symbolOf dataSymbols dataName
    readItem false symbol (client.handler.memory.read symbol.request).data 0
  -- Each item is read from the data of its variable.
  have items : ∀ id ∈ ids, ∃ back, entryOf (client.handler.objects id).name = .ok back ∧
      PyVal.Same .plain back (client.written id) := by
    intro id member
    obtain ⟨symbol, answer, present⟩ := symbols _ (List.mem_map_of_mem member)
    cases answer.symm.trans
      (current.symbolInfo (held id member))
    obtain ⟨back, read, same⟩ := (current.reads id (held id member)).2 _ (shape id member).1 (shape id member).2
    refine ⟨back, bind_eq_ok.mpr ⟨_, symbolOf_eq_ok.mpr present, ?_⟩, same⟩
    rw [memory_read (serves id member)]
    exact read
  obtain ⟨result, returned⟩ : ∃ result, dictOf entryOf (ids.map fun id => (client.handler.objects id).name) =
      .ok result := by
    rw [exists_dictOf_iff, List.forall_mem_map]
    intro id member
    obtain ⟨back, read, -⟩ := items id member
    exact ⟨back, read⟩
  refine ⟨result, ?_, (dictOf_eq_ok.mp returned).1, ?_⟩
  · rw [readListByName_of_resolved found]
    exact (readList_resolved resolves holds positive).mpr returned
  · intro id member
    obtain ⟨value, read, present⟩ := (dictOf_eq_ok.mp returned).2 _ (List.mem_map_of_mem member)
    obtain ⟨back, same, equal⟩ := items id member
    cases same.symm.trans read
    exact ⟨value, present, equal⟩

theorem Agrees.resolved (agrees : client.Agrees) (held : client.handler.Holds id) : ∃ symbol dataSymbols value,
    client.handler.adsGetSymbolInfo (client.handler.objects id).name = .ok symbol ∧
      dataSymbols.get? (client.handler.objects id).name = some symbol ∧
      readList (fun call => sumRead (client.handler.plc.sumRead call) dataSymbols OrderedDict.empty)
        [(client.handler.objects id).name] 1 = .ok value ∧
      ∃ back, value.get? (client.handler.objects id).name = some back ∧
        PyVal.Same .plain back (client.written id) := by
  obtain ⟨result, returned, -, values⟩ := agrees [id] false 1 (by simpa using held) Nat.one_pos
  rw [List.map_singleton] at returned
  cases found : resolveSymbols client.handler.adsGetSymbolInfo false client.symbolInfoCache
      [(client.handler.objects id).name] with
  | error e =>
    rw [readListByName_of_unresolved found] at returned
    cases returned
  | ok resolved =>
    obtain ⟨dataSymbols, later⟩ := resolved
    rw [readListByName_of_resolved found] at returned
    obtain ⟨symbols, built, equal⟩ := bind_eq_ok.mp found
    cases equal
    obtain ⟨symbol, answer, known⟩ := (dictOf_eq_ok.mp built).2 _ (List.mem_singleton.mpr rfl)
    exact ⟨symbol, dataSymbols, result, answer, known, returned, values id (List.mem_singleton.mpr rfl)⟩

theorem Agrees.carried (agrees : client.Agrees) (catalogue : client.handler.Catalogue types)
    (held : client.handler.Holds id) : (client.handler.objects id).Carried := by
  apply carried_of_found catalogue _ held
  intro other otherHeld
  obtain ⟨symbol, -, -, answer, -⟩ := agrees.resolved otherHeld
  obtain ⟨reply, sent, -⟩ := bind_eq_ok.mp answer
  rw [handleReadWrite_infoByNameEx] at sent
  obtain ⟨reached, found, -⟩ := bind_eq_ok.mp sent
  exact ⟨reached, found⟩

/-- A list read of a single variable reads its item with the size that the
variable has now. -/
theorem Agrees.single (agrees : client.Agrees) (catalogue : client.handler.Catalogue types)
    (held : client.handler.Holds id) : ∃ back response, (client.handler.objects id).size < 2 ^ 32 ∧
      readItem false (client.handler.objects id).symbolEntry response 4 = .ok back ∧
      PyVal.Same .plain back (client.written id) := by
  obtain ⟨symbol, dataSymbols, result, answer, known, returned, back, present, same⟩ := agrees.resolved held
  obtain ⟨small, rfl⟩ := (adsGetSymbolInfo_eq_ok catalogue held (agrees.carried catalogue held)).mp answer
  obtain ⟨value, response, there, read⟩ := readItem_of_single known returned
  cases there.symm.trans present
  exact ⟨back, response, small, read, same⟩

theorem not_agrees_of_misread (catalogue : client.handler.Catalogue types) (held : client.handler.Holds id)
    (misread : (types id).Misread (client.written id)) : ¬ client.Agrees := by
  intro agrees
  obtain ⟨back, response, -, read, same⟩ := agrees.single catalogue held
  obtain ⟨sint, i, negative, worth⟩ := misread
  have typeId : (client.handler.objects id).symbolEntry.dataType.toNat = NumberType.sint.typeId := by
    have adsType := (catalogue.wellFormed id held).adsType
    rw [sint] at adsType
    exact adsType
  exact ElementaryType.not_same_of_misread typeId read negative worth same

theorem not_agrees_of_short (catalogue : client.handler.Catalogue types) (held : client.handler.Holds id)
    (valid : (types id).Valid (client.written id)) (unfilled : ¬ (types id).Fills (client.written id))
    (short : (client.handler.objects id).value.length < (types id).size) : ¬ client.Agrees := by
  intro agrees
  obtain ⟨back, response, small, read, same⟩ := agrees.single catalogue held
  have wellFormed := catalogue.wellFormed id held
  have size := symbolEntry_size small
  cases (ElementaryType.readItem_of_short unfilled wellFormed.symbolType wellFormed.adsType
    (size.trans_lt short)).symm.trans read
  obtain ⟨text, written⟩ := ElementaryType.text_of_unfilled valid unfilled
  rw [written] at same
  cases same with
  | number left => cases left

/-! ## Writing -/

/-- A variable whose data has been replaced is current with the value that is
read from it. -/
theorem Current.setValue (current : client.Current types) (held : client.handler.Holds id)
    (reads : (types id).Reads data value) : Current types
      { client with handler := client.handler.setValue id data, written := Function.update client.written id value } := by
  have revalued := Revalued.setValue id data client.handler
  refine ⟨revalued.catalogue current.catalogue, ?_, ?_, ?_⟩
  · intro other otherHeld
    rw [revalued.holds_iff] at otherHeld
    rw [revalued.field (f := PLCVariable.Carried) fun _ _ => rfl]
    exact current.carried other otherHeld
  · intro other otherHeld
    rw [revalued.holds_iff] at otherHeld
    by_cases same : other = id
    · subst same
      have changed : ((client.handler.setValue other data).objects other).value = data := by
        simp only [AdvancedHandler.setValue, setObject, Function.update_self]
      simp only [changed, Function.update_self]
      exact reads
    · have kept : (client.handler.setValue id data).objects other = client.handler.objects other :=
        Function.update_of_ne same ..
      simp only [kept, Function.update_of_ne same]
      exact current.reads other otherHeld
  · have length : data.length = (client.handler.objects id).value.length :=
      reads.1.trans (current.reads id held).1.symm
    rw [adsGetSymbolInfo_setValue length]
    exact current.answers

/-- What a single write of a value leaves behind. -/
structure WritesTo (types : Nat → ElementaryType) (client : HandlerClient) (id : Nat) (value : PyVal)
    (after : HandlerClient) : Prop where
  held : client.handler.Holds id
  valid : (types id).Valid value
  written : after.written = Function.update client.written id value
  answers : AnswersOf client.handler.adsGetSymbolInfo after.symbolInfoCache
  revalued : Revalued client.handler after.handler
  stored : ∃ given, (types id).Takes given ∧ ∀ data, requestData (some given) value = .ok data →
    after.handler = client.handler.setValue id data

theorem WritesTo.current (writes : WritesTo types client id value after) (current : client.Current types)
    (agrees : ¬ (types id).Misread value) (fills : (types id).Fills value) : after.Current types := by
  obtain ⟨given, takes, stored⟩ := writes.stored
  obtain ⟨data, sent, reads⟩ := ElementaryType.requestData_reads takes writes.valid agrees fills
  have cached : Current types { client with symbolInfoCache := after.symbolInfoCache } :=
    ⟨current.catalogue, current.carried, current.reads, writes.answers⟩
  have final := cached.setValue writes.held reads
  rwa [← stored data sent, ← writes.written] at final

theorem WritesTo.not_agrees (writes : WritesTo types client id value after)
    (catalogue : client.handler.Catalogue types) (lost : ¬ (¬ (types id).Misread value ∧ (types id).Fills value)) :
    ¬ after.Agrees := by
  have still := writes.revalued.catalogue catalogue
  have held := (writes.revalued.holds_iff id).mpr writes.held
  have noted : after.written id = value := by rw [writes.written, Function.update_self]
  by_cases misread : (types id).Misread value
  · exact not_agrees_of_misread still held (noted ▸ misread)
  · have unfilled : ¬ (types id).Fills value := fun fills => lost ⟨misread, fills⟩
    obtain ⟨given, takes, stored⟩ := writes.stored
    obtain ⟨data, sent, short⟩ := ElementaryType.requestData_short takes writes.valid unfilled
    have value : (after.handler.objects id).value = data := by
      rw [stored data sent]
      simp only [AdvancedHandler.setValue, setObject, Function.update_self]
    exact not_agrees_of_short still held (noted ▸ writes.valid) (noted ▸ unfilled) (value ▸ short)

/-- The data type is one that the variable takes, whether it is given or asked for. -/
theorem Current.datatypeFor (current : client.Current types) (held : client.handler.Holds id)
    (valid : (types id).Valid value) (takes : ∀ given, plcDatatype = some given → (types id).Takes given)
    (named : plcDatatype = none → dataName = (client.handler.objects id).name) (cacheSymbolInfo : Bool) :
    ∃ given later, (types id).Takes given ∧ AnswersOf client.handler.adsGetSymbolInfo later ∧
      client.datatypeFor dataName cacheSymbolInfo plcDatatype = (.ok (some given), later) := by
  cases plcDatatype with
  | some given => exact ⟨given, client.symbolInfoCache, takes given rfl, current.answers, rfl⟩
  | none =>
    have wellFormed := current.catalogue.wellFormed id held
    have asked := current.symbolInfo held
    rw [← named rfl] at asked
    have plc : client.handler.plc.adsGetSymbolInfo = client.handler.adsGetSymbolInfo := rfl
    obtain ⟨later, found, answers⟩ := current.answers.symbolInfo plc asked cacheSymbolInfo
    have typed : getTypeFromStr (client.handler.objects id).symbolEntry.symbolType =
        .ok (some (types id).plcType) := by
      have known : (client.handler.objects id).symbolEntry.symbolType = (types id).name := wellFormed.symbolType
      rw [known]
      exact getTypeFromStr_name (types id) wellFormed.nonempty wellFormed.size
    refine ⟨(types id).plcType, later, ElementaryType.takes_plcType valid, answers, ?_⟩
    simp only [HandlerClient.datatypeFor, queryPlcDatatype, found, typed]

theorem Current.writesTo_writeByName (current : client.Current types)
    (lawful : (ClientCall.writeByName dataName value plcDatatype handle cacheSymbolInfo).Lawful types client) :
    ∃ id, client.addressed dataName handle = .ok id ∧ WritesTo types client id value
      ((ClientCall.writeByName dataName value plcDatatype handle cacheSymbolInfo).after client) := by
  obtain ⟨id, held, valid, takes, named, given⟩ := lawful
  have addressed : client.addressed dataName handle = .ok id := by
    cases handle with
    | some known =>
      rw [HandlerClient.addressed, given known rfl]
      exact getVariableByHandle_held current.catalogue held
    | none =>
      rw [HandlerClient.addressed, named (Or.inl rfl)]
      exact getVariableByName_held current.catalogue held
  obtain ⟨dataType, later, taken, answers, found⟩ :=
    current.datatypeFor held valid takes (fun none_ => named (Or.inr none_)) cacheSymbolInfo
  refine ⟨id, addressed, held, valid, ?_, ?_, ?_, dataType, taken, ?_⟩
  · simp only [ClientCall.after, noteWritten, addressed]
  · simp only [ClientCall.after, writeByName, found]
    exact answers
  · exact ClientCall.revalued_after ..
  · intro data sent
    simp only [ClientCall.after, writeByName, found]
    rw [adsSyncWriteByNameEx_held current.catalogue held (current.carried id held) (fun none_ => named (Or.inl none_)) given sent]

theorem Current.writesTo_write (current : client.Current types)
    (lawful : (ClientCall.write indexGroup indexOffset value plcDatatype).Lawful types client) :
    ∃ id, client.handler.getVariableByIndices indexGroup indexOffset = .ok id ∧ WritesTo types client id value
      ((ClientCall.write indexGroup indexOffset value plcDatatype).after client) := by
  obtain ⟨id, held, valid, takes, rfl, rfl, notRelease, notHandle⟩ := lawful
  have addressed := getVariableByIndices_held held
  refine ⟨id, addressed, held, valid, ?_, current.answers, ?_, plcDatatype, takes, ?_⟩
  · simp only [ClientCall.after, noteWritten, addressed]
  · exact ClientCall.revalued_after ..
  · intro data sent
    simp only [ClientCall.after, write]
    rw [adsSyncWriteReqEx_indices held notRelease notHandle sent]

/-! ## List writes -/

/-- An entry of a list write is sent as an item, and stored in its variable. -/
structure StoresEntry (types : Nat → ElementaryType) (handler : AdvancedHandler) (dataSymbols : DataSymbols)
    (entry : String × PyVal) (sent : SumRequest × Bytes) (id : Nat) : Prop where
  held : handler.Holds id
  named : handler.getVariableByName entry.1 = .ok id
  sends : Sends dataSymbols [] entry sent
  addressed : handler.getVariableByIndices sent.1.iGroup sent.1.iOffset = .ok id
  reads : (types id).Reads sent.2 entry.2

/-- Entries that are stored one after the other leave all variables current. -/
theorem Current.storeEntries {entries : List (String × PyVal)} {sent : String × PyVal → SumRequest × Bytes}
    {ids : String × PyVal → Nat}
    (each : ∀ entry ∈ entries, StoresEntry types client.handler dataSymbols entry (sent entry) (ids entry))
    (middle : HandlerClient) (current : middle.Current types) (revalued : Revalued client.handler middle.handler) :
    Current types { middle with
      handler := (entries.map fun entry => (ids entry, (sent entry).2)).foldl
        (fun handler slot => handler.setValue slot.1 slot.2) middle.handler
      written := entries.foldl (fun written entry =>
        noteWritten (client.handler.getVariableByName entry.1) entry.2 written) middle.written } ∧
      Revalued client.handler ((entries.map fun entry => (ids entry, (sent entry).2)).foldl
        (fun handler slot => handler.setValue slot.1 slot.2) middle.handler) := by
  induction entries generalizing middle with
  | nil => exact ⟨current, revalued⟩
  | cons entry entries ih =>
    obtain ⟨first, others⟩ := List.forall_mem_cons.mp each
    have held := (revalued.holds_iff (ids entry)).mpr first.held
    have here := current.setValue held first.reads
    have still := revalued.trans (.setValue (ids entry) (sent entry).2 middle.handler)
    have rest := ih others _ here still
    rw [List.map_cons, List.foldl_cons, List.foldl_cons, first.named]
    exact rest

/-- Each entry of a list that is kept is stored in the variable that it names. -/
theorem Current.storesEntry (current : client.Current types)
    (built : dictOf client.handler.adsGetSymbolInfo dataNames = .ok dataSymbols)
    (member : (client.handler.objects id).name ∈ dataNames)
    (held : client.handler.Holds id) (valid : (types id).Valid value) (agrees : ¬ (types id).Misread value) :
    ∃ sent, StoresEntry types client.handler dataSymbols ((client.handler.objects id).name, value) sent id := by
  have length := (current.reads id held).1
  obtain ⟨symbol, answer, present⟩ := (dictOf_eq_ok.mp built).2 _ member
  cases answer.symm.trans (current.symbolInfo held)
  obtain ⟨kind, size⟩ := current.catalogue.itemKind held length
  obtain ⟨slot, fills, reads⟩ := ElementaryType.exists_slot valid agrees kind size
  refine ⟨((client.handler.objects id).symbolEntry.request, slot), held,
    getVariableByName_held current.catalogue held, ?_, ?_, reads⟩
  · exact ⟨_, symbolOf_eq_ok.mpr present, rfl, fills⟩
  · exact getVariableByIndices_held held

/-- A list write without negative `SINT`s keeps all variables current. -/
theorem Current.after_writeListByName (current : client.Current types)
    (lawful : (ClientCall.writeListByName dataNamesAndValues cacheSymbolInfo adsSubCommands).Lawful types client)
    (keeps : (ClientCall.writeListByName dataNamesAndValues cacheSymbolInfo adsSubCommands).Keeps types client) :
    ((ClientCall.writeListByName dataNamesAndValues cacheSymbolInfo adsSubCommands).after client).Current types := by
  obtain ⟨positive, entries⟩ := lawful
  have asked : ∀ dataName ∈ dataNamesAndValues.keys, ∃ symbol, client.handler.adsGetSymbolInfo dataName = .ok symbol := by
    intro dataName member
    obtain ⟨entry, there, rfl⟩ := List.mem_map.mp member
    obtain ⟨id, held, name, -⟩ := entries entry there
    rw [← name]
    exact ⟨_, current.symbolInfo held⟩
  obtain ⟨dataSymbols, later, found⟩ := exists_resolveSymbols cacheSymbolInfo asked
  obtain ⟨built, answers⟩ := current.answers.resolveSymbols found
  have each : ∀ entry ∈ dataNamesAndValues.entries, ∃ sent id,
      StoresEntry types client.handler dataSymbols entry sent id := by
    intro entry member
    obtain ⟨id, held, name, valid⟩ := entries entry member
    have agrees : ¬ (types id).Misread entry.2 := by
      apply keeps entry member id
      rw [← name]
      exact getVariableByName_held current.catalogue held
    have named : (client.handler.objects id).name ∈ dataNamesAndValues.keys := by
      rw [name]
      exact List.mem_map_of_mem member
    obtain ⟨sent, stores⟩ := current.storesEntry built named held valid agrees
    rw [name] at stores
    exact ⟨sent, id, stores⟩
  have : Nonempty SumRequest := ⟨⟨0, 0, 0⟩⟩
  choose! sent ids stores using each
  have slicewise (handler : AdvancedHandler) (written : Nat → PyVal) (slice : OrderedDict String PyVal)
      (part : ∀ entry ∈ slice.entries, entry ∈ dataNamesAndValues.entries)
      (here : Current types ⟨handler, later, written⟩ ∧ Revalued client.handler handler) :
      ∃ result after, sumWrite AdvancedHandler.device dataSymbols [] handler slice = (.ok result, after) ∧
        (Current types ⟨after, later, slice.entries.foldl (fun written entry =>
          noteWritten (client.handler.getVariableByName entry.1) entry.2 written) written⟩ ∧
          Revalued client.handler after) := by
    have all : ∀ entry ∈ slice.entries, StoresEntry types client.handler dataSymbols entry (sent entry) (ids entry) :=
      fun entry member => stores entry (part entry member)
    have sends : List.Forall₂ (Sends dataSymbols []) slice.entries (slice.entries.map sent) := by
      rw [List.forall₂_map_right_iff, List.forall₂_same]
      exact fun entry member => (all entry member).sends
    have finds : List.Forall₂ (fun (item : SumRequest × Bytes) (slot : Nat × Bytes) =>
        handler.getVariableByIndices item.1.iGroup item.1.iOffset = .ok slot.1 ∧ item.2 = slot.2)
        (slice.entries.map sent) (slice.entries.map fun entry => (ids entry, (sent entry).2)) := by
      rw [List.forall₂_map_left_iff, List.forall₂_map_right_iff, List.forall₂_same]
      intro entry member
      refine ⟨?_, rfl⟩
      rw [here.2.getVariableByIndices]
      exact (all entry member).addressed
    obtain ⟨result, run⟩ := sumWrite_stored sends finds
    exact ⟨result, _, run, Current.storeEntries all ⟨handler, later, written⟩ here.1 here.2⟩
  have start : Current types ⟨client.handler, later, client.written⟩ ∧ Revalued client.handler client.handler :=
    ⟨⟨current.catalogue, current.carried, current.reads, answers⟩, .refl client.handler⟩
  obtain ⟨final, -⟩ := writeList_noted slicewise positive start
  have cache : client.cacheAfter dataNamesAndValues.keys cacheSymbolInfo = later := by rw [cacheAfter, found]
  simp only [ClientCall.after, writeListByName, PyAds.writeListByName, found, cache]
  exact final

/-- The value of an entry stays noted if no later entry is for the same variable. -/
theorem foldl_noteWritten_of_not_found {find : String → Result Nat} {entries : List (String × PyVal)}
    (others : ∀ entry ∈ entries, find entry.1 ≠ .ok id) (written : Nat → PyVal) :
    entries.foldl (fun written entry => noteWritten (find entry.1) entry.2 written) written id = written id := by
  induction entries generalizing written with
  | nil => rfl
  | cons entry entries ih =>
    obtain ⟨first, rest⟩ := List.forall_mem_cons.mp others
    rw [List.foldl_cons, ih rest]
    cases found : find entry.1 with
    | error e => rfl
    | ok other =>
      have differ : id ≠ other := by
        rintro rfl
        exact first found
      exact Function.update_of_ne differ ..

/-- A list write with a negative `SINT` is not read back. -/
theorem Current.not_agrees_writeListByName (current : client.Current types)
    (lawful : (ClientCall.writeListByName dataNamesAndValues cacheSymbolInfo adsSubCommands).Lawful types client)
    (lost : ¬ (ClientCall.writeListByName dataNamesAndValues cacheSymbolInfo adsSubCommands).Keeps types client) :
    ¬ ((ClientCall.writeListByName dataNamesAndValues cacheSymbolInfo adsSubCommands).after client).Agrees := by
  simp only [ClientCall.Keeps, not_forall, not_not] at lost
  obtain ⟨entry, member, id, found, misread⟩ := lost
  -- An entry that is found under the same variable has the same name.
  have unique : ∀ other ∈ dataNamesAndValues.entries, client.handler.getVariableByName other.1 = .ok id →
      client.handler.Holds id ∧ (client.handler.objects id).name = other.1 := by
    intro other there same
    obtain ⟨own, held, name, -⟩ := lawful.2 other there
    have named := getVariableByName_held current.catalogue held
    rw [name] at named
    cases named.symm.trans same
    exact ⟨held, name⟩
  obtain ⟨held, name⟩ := unique entry member found
  obtain ⟨before, behind, split⟩ := List.append_of_mem member
  have noted : ((ClientCall.writeListByName dataNamesAndValues cacheSymbolInfo adsSubCommands).after client).written id =
      entry.2 := by
    have distinct := dataNamesAndValues.nodup
    rw [split, List.map_append, List.map_cons, List.nodup_append, List.nodup_cons] at distinct
    obtain ⟨-, ⟨absent, -⟩, -⟩ := distinct
    simp only [ClientCall.after, split, List.foldl_append, List.foldl_cons]
    rw [foldl_noteWritten_of_not_found, found]
    · exact Function.update_self ..
    · intro other there same
      obtain ⟨-, again⟩ := unique other (split ▸ List.mem_append_right _ (List.mem_cons_of_mem _ there)) same
      exact absent (List.mem_map.mpr ⟨other, there, again.symm.trans name⟩)
  have revalued := ClientCall.revalued_writeListByName dataNamesAndValues cacheSymbolInfo adsSubCommands client
  have still := revalued.catalogue current.catalogue
  have stillHeld := (revalued.holds_iff id).mpr held
  exact not_agrees_of_misread still stillHeld (noted ▸ misread)

/-- A list read changes only the cache, which stays true. -/
theorem Current.after_readListByName (current : client.Current types) :
    ((ClientCall.readListByName dataNames cacheSymbolInfo adsSubCommands).after client).Current types := by
  cases found : resolveSymbols client.handler.adsGetSymbolInfo cacheSymbolInfo client.symbolInfoCache dataNames with
  | ok resolved =>
    obtain ⟨dataSymbols, later⟩ := resolved
    obtain ⟨-, answers⟩ := current.answers.resolveSymbols found
    rw [ClientCall.after, readListByName_of_resolved found]
    exact ⟨current.catalogue, current.carried, current.reads, answers⟩
  | error e =>
    rw [ClientCall.after, readListByName_of_unresolved found]
    exact current

/-! ## Runs -/

theorem Current.kept (current : client.Current types) (lawful : ClientCall.Lawful types client call)
    (keeps : call.Keeps types client) : (call.after client).Current types := by
  cases call with
  | writeByName dataName value plcDatatype handle cacheSymbolInfo =>
    obtain ⟨id, addressed, writes⟩ := current.writesTo_writeByName lawful
    obtain ⟨agrees, fills⟩ := keeps id addressed
    exact writes.current current agrees fills
  | write indexGroup indexOffset value plcDatatype =>
    obtain ⟨id, addressed, writes⟩ := current.writesTo_write lawful
    obtain ⟨agrees, fills⟩ := keeps id addressed
    exact writes.current current agrees fills
  | writeListByName dataNamesAndValues cacheSymbolInfo adsSubCommands =>
    exact current.after_writeListByName lawful keeps
  | readListByName dataNames cacheSymbolInfo adsSubCommands => exact current.after_readListByName

theorem Current.lost (current : client.Current types) (lawful : ClientCall.Lawful types client call)
    (lost : ¬ call.Keeps types client) : ¬ (call.after client).Agrees := by
  cases call with
  | writeByName dataName value plcDatatype handle cacheSymbolInfo =>
    obtain ⟨id, addressed, writes⟩ := current.writesTo_writeByName lawful
    apply writes.not_agrees current.catalogue
    intro kept
    apply lost
    intro other same
    cases same.symm.trans addressed
    exact kept
  | write indexGroup indexOffset value plcDatatype =>
    obtain ⟨id, addressed, writes⟩ := current.writesTo_write lawful
    apply writes.not_agrees current.catalogue
    intro kept
    apply lost
    intro other same
    cases same.symm.trans addressed
    exact kept
  | writeListByName dataNamesAndValues cacheSymbolInfo adsSubCommands =>
    exact current.not_agrees_writeListByName lawful lost
  | readListByName dataNames cacheSymbolInfo adsSubCommands => exact absurd trivial lost

theorem Fresh.current (fresh : client.Fresh types)
    (carried : ∀ id, client.handler.Holds id → (client.handler.objects id).Carried)
    (agrees : ∀ id, client.handler.Holds id → ¬ (types id).Misread (client.written id)) : client.Current types := by
  refine ⟨fresh.catalogue, carried, ?_, ?_⟩
  · intro id held
    exact ElementaryType.reads_of_stores (fresh.stored id held) (agrees id held)
  · intro dataName symbol known
    rw [fresh.symbolInfoCache] at known
    cases known

end HandlerClient

/-- In a run of valid calls, list reads return the values last written at any
time exactly if all names are carried whole, no `SINT` is negative, initially or
when it is written, and each text that is written on its own fills its variable. -/
theorem agrees_throughout_iff {types : Nat → ElementaryType} {client : HandlerClient} (fresh : client.Fresh types)
    (lawful : ∀ call ∈ calls, call.Lawful types client) :
    Throughout ClientCall.after HandlerClient.Agrees client calls ↔
      (∀ id, client.handler.Holds id → (client.handler.objects id).Carried ∧ ¬ (types id).Misread (client.written id)) ∧
        ∀ call ∈ calls, call.Keeps types client := by
  rw [← ClientCall.along_lawful_iff] at lawful
  rw [← ClientCall.along_keeps_iff]
  have run (initial : ∀ id, client.handler.Holds id →
      (client.handler.objects id).Carried ∧ ¬ (types id).Misread (client.written id)) :
      Throughout ClientCall.after HandlerClient.Agrees client calls ↔
        Along ClientCall.after (ClientCall.Keeps types) client calls := by
    have current := fresh.current (fun id held => (initial id held).1) fun id held => (initial id held).2
    exact throughout_iff_of_lost (fun _ current => current.agrees) (fun _ _ current => current.kept)
      (fun _ _ current => current.lost) current lawful
  constructor
  · intro throughout
    have agrees := (throughout_iff.mp throughout).1
    have initial : ∀ id, client.handler.Holds id →
        (client.handler.objects id).Carried ∧ ¬ (types id).Misread (client.written id) := by
      intro id held
      refine ⟨agrees.carried fresh.catalogue held, ?_⟩
      intro misread
      exact HandlerClient.not_agrees_of_misread fresh.catalogue held misread agrees
    exact ⟨initial, (run initial).mp throughout⟩
  · rintro ⟨initial, keeps⟩
    exact (run initial).mpr keeps

/-! ## A tank -/

def tankVariables : Nat → PLCVariable
  | 0 => ⟨"MAIN.level", [5, 0], 2, "INT", 10000, 0x4020, 0, "", [], none⟩
  | _ => ⟨"MAIN.name", [104, 101, 108, 108, 111, 0], 30, "STRING(5)", 10001, 0x4020, 2, "", [], none⟩

def tankTypes : Nat → ElementaryType
  | 0 => .number .int
  | _ => .string 5

/-- Both variables have been added. -/
def tankClient : HandlerClient where
  handler := addVariable 1 (addVariable 0 ⟨tankVariables, OrderedDict.empty⟩)
  symbolInfoCache := OrderedDict.empty
  written
    | 0 => .int 5
    | _ => .str (Text.ofChars "hello".toList)

theorem holds_tankClient {id : Nat} (held : tankClient.handler.Holds id) : id = 0 ∨ id = 1 := by
  have member := OrderedDict.mem_of_get? held
  have entries : tankClient.handler.data.entries = [((0x4020, 0), 0), ((0x4020, 2), 1)] := rfl
  rw [entries] at member
  simp only [List.mem_cons, Prod.mk.injEq, List.not_mem_nil, or_false] at member
  exact member.imp And.right And.right

/-- What tells the two variables apart tells any variables apart. -/
theorem tankClient_distinct (trait : Nat → α) (differs : trait 0 ≠ trait 1) (id other : Nat)
    (held : tankClient.handler.Holds id) (otherHeld : tankClient.handler.Holds other)
    (same : trait other = trait id) : other = id := by
  rcases holds_tankClient held with rfl | rfl <;> rcases holds_tankClient otherHeld with rfl | rfl
  · rfl
  · exact absurd same.symm differs
  · exact absurd same differs
  · rfl

theorem tankClient_fresh : tankClient.Fresh tankTypes := by
  refine ⟨⟨?_, ?_, ?_, ?_⟩, rfl, ?_⟩
  · exact keyed_addVariable 1 (keyed_addVariable 0 nofun)
  · exact tankClient_distinct (fun id => (tankClient.handler.objects id).name) (by decide)
  · exact tankClient_distinct (fun id => (tankClient.handler.objects id).handle) (by decide)
  · intro id held
    rcases holds_tankClient held with rfl | rfl
    · exact ⟨by decide +kernel, by decide, by decide +kernel, rfl, trivial, by decide, by decide +kernel⟩
    · exact ⟨by decide +kernel, by decide, by decide +kernel, rfl, trivial, by decide, by decide +kernel⟩
  · intro id held
    rcases holds_tankClient held with rfl | rfl
    · exact ⟨rfl, .refl _⟩
    · exact ⟨rfl, _, [], ⟨_, rfl, rfl, by decide, by decide⟩, rfl⟩

theorem tankClient_found : tankClient.handler.getVariableByName "MAIN.level" = .ok 0 ∧
    tankClient.handler.getVariableByName "MAIN.name" = .ok 1 := by
  have level : (tankClient.handler.objects 0).name = "MAIN.level" := rfl
  have name : (tankClient.handler.objects 1).name = "MAIN.name" := rfl
  rw [← level, ← name]
  have found {id : Nat} (held : tankClient.handler.Holds id) := getVariableByName_held tankClient_fresh.catalogue held
  exact ⟨found (by decide), found (by decide)⟩

theorem not_misread_tank (id : Nat) (value : PyVal) : ¬ (tankTypes id).Misread value := by
  rintro ⟨sint, -⟩
  cases id with
  | zero => cases sint
  | succ id => cases sint

theorem carried_tankClient {id : Nat} (held : tankClient.handler.Holds id) : (tankClient.handler.objects id).Carried := by
  rcases holds_tankClient held with rfl | rfl
  · decide +kernel
  · decide +kernel

theorem tank_text {chars : List Char} (encodes : encodeUtf8 (Text.ofChars chars) = .ok encoded)
    (nulFree : .scalar '\x00' ∉ Text.ofChars chars) (room : encoded.length ≤ 5) :
    (tankTypes 1).Valid (.str (Text.ofChars chars)) :=
  ⟨encoded, _, rfl, encodes, nulFree, Nat.succ_le_succ room⟩

/-- The name is written in a list, and then with all of its characters. -/
theorem filled_name_agrees : Throughout ClientCall.after HandlerClient.Agrees tankClient
    [.writeByName "MAIN.level" (.int 7) none none true,
     .writeListByName ⟨[("MAIN.name", .str (Text.ofChars "ab".toList)), ("MAIN.level", .int (-3))], by decide⟩ true 1,
     .write 0x4020 2 (.str (Text.ofChars "tanks".toList)) (.ctypes .char)] := by
  have level : tankClient.handler.Holds 0 := by decide
  have name : tankClient.handler.Holds 1 := by decide
  obtain ⟨levelFound, nameFound⟩ := tankClient_found
  have short : (tankTypes 1).Valid (.str (Text.ofChars "ab".toList)) := tank_text rfl (by decide) (by decide)
  have filling : (tankTypes 1).Valid (.str (Text.ofChars "tanks".toList)) := tank_text rfl (by decide) (by decide)
  have number (i : Int) (fits : IntFits 2 true i) : (tankTypes 0).Valid (.int i) :=
    ⟨.int i, i, ⟨i, rfl, fits⟩, rfl, rfl⟩
  apply (agrees_throughout_iff tankClient_fresh _).mpr
  · refine ⟨fun id held => ⟨carried_tankClient held, not_misread_tank id _⟩, ?_⟩
    simp only [List.forall_mem_cons]
    refine ⟨?_, ?_, ?_, by simp⟩
    · intro id found
      cases found.symm.trans levelFound
      exact ⟨not_misread_tank 0 _, trivial⟩
    · intro entry member id found
      exact not_misread_tank id _
    · intro id found
      have own : tankClient.handler.getVariableByIndices 0x4020 2 = .ok 1 := getVariableByIndices_held name
      cases found.symm.trans own
      exact ⟨not_misread_tank 1 _, _, _, rfl, rfl, rfl⟩
  · simp only [List.forall_mem_cons]
    refine ⟨⟨0, level, number 7 (by decide), ?_, fun _ => rfl, ?_⟩, ⟨Nat.one_pos, ?_⟩,
      ⟨1, name, filling, rfl, rfl, rfl, by decide, by decide⟩, by simp⟩
    · intro given same
      cases same
    · intro known same
      cases same
    · simp only [List.forall_mem_cons]
      exact ⟨⟨1, name, rfl, short⟩, ⟨0, level, rfl, number (-3) (by decide)⟩, by simp⟩

/-- A name that is shorter than its variable. -/
def writeShortName : ClientCall := .writeByName "MAIN.name" (.str (Text.ofChars "ab".toList)) none none false

/-- It is stored without the bytes behind it. -/
theorem short_name_not_agreed : tankClient.Fresh tankTypes ∧ writeShortName.Lawful tankTypes tankClient ∧
    ¬ Throughout ClientCall.after HandlerClient.Agrees tankClient [writeShortName] := by
  have held : tankClient.handler.Holds 1 := by decide
  have valid : (tankTypes 1).Valid (.str (Text.ofChars "ab".toList)) := tank_text rfl (by decide) (by decide)
  have lawful : writeShortName.Lawful tankTypes tankClient := by
    refine ⟨1, held, valid, ?_, fun _ => rfl, ?_⟩
    · intro given same
      cases same
    · intro known same
      cases same
  refine ⟨tankClient_fresh, lawful, ?_⟩
  intro throughout
  have current := tankClient_fresh.current (fun id => carried_tankClient) fun id _ => not_misread_tank id _
  have agrees := throughout _ (foldl_mem_states ClientCall.after tankClient [writeShortName])
  rw [List.foldl_cons, List.foldl_nil] at agrees
  apply current.lost lawful _ agrees
  intro keeps
  have found : tankClient.addressed "MAIN.name" none = .ok 1 := tankClient_found.2
  have fills : (ElementaryType.string 5).Fills (.str (Text.ofChars "ab".toList)) := (keeps 1 found).2
  have encoding : EncodedIn .utf8 6 (.str (Text.ofChars "ab".toList)) [97, 98] :=
    ⟨_, rfl, rfl, by decide, by decide⟩
  exact absurd ((ElementaryType.fills_string_iff encoding).mp fills) (by decide)

end PyAds
