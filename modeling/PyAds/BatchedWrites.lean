import PyAds.StoredAgreement

/-! Lists that are written entry by entry. A sum write leaves in each variable
what a write by name would have left there, so that a run of calls may be
carried out with single writes in the place of its lists. -/
namespace PyAds
open Runs Fallible AdvancedHandler

/-! ## Single requests and slots -/

/-- A text takes its slot together with the zeros behind it. -/
theorem fillsSlot_text (kind : itemKind structured symbol = .ok (.text coding))
    (encoding : EncodedIn coding symbol.size.toNat value encoded) :
    FillsSlot structured symbol value (paddedText symbol.size.toNat encoded) := by
  obtain ⟨text, rfl, encodes, -, room⟩ := encoding
  refine ⟨?_, fun before m blank => ?_⟩
  · simp only [paddedText, List.length_append, List.length_replicate]
    omega
  · obtain ⟨m', least, written⟩ := writeText_blank encodes before symbol.size.toNat (by omega) blank
    exact ⟨m', least, by simp only [writeItem, kind, bind, Except.bind, written]⟩

namespace ElementaryType
variable {type : ElementaryType} {value : PyVal}

/-- All data types that a variable takes carry the same bytes. -/
theorem requestData_alike (takes : type.Takes first) (also : type.Takes second) (valid : type.Valid value) :
    requestData (some first) value = requestData (some second) value := by
  cases type with
  | number t =>
    cases takes
    cases also
    rfl
  | string n =>
    obtain ⟨encoded, encoding⟩ := valid
    rw [requestData_string takes encoding, requestData_string also encoding]
  | wstring n =>
    obtain ⟨encoded, encoding⟩ := valid
    rw [requestData_wstring takes encoding, requestData_wstring also encoding]
  | array lower upper t => exact valid.elim

/-- The slot of a value that takes all of its variable is what a single request carries. -/
theorem exists_requested_slot (valid : type.Valid value) (agrees : ¬ type.Misread value) (fills : type.Fills value)
    (kind : PyAds.itemKind false symbol = .ok type.itemKind) (size : symbol.size.toNat = type.size) :
    ∃ slot, FillsSlot false symbol value slot ∧ type.Reads slot value ∧
      requestData (some type.plcType) value = .ok slot := by
  have holds := holdsElement_elementary kind size
  cases type with
  | number t =>
    obtain ⟨part, packed⟩ := NumberType.exists_packed valid agrees
    have written := writtenItem_packed kind holds packed
    have whole : symbol.size.toNat - t.idCtype.sizeof = 0 := by
      rw [size, t.sizeof_idCtype]
      exact Nat.sub_self _
    rw [whole, List.replicate_zero, List.append_nil] at written
    refine ⟨part, written.toFillsSlot, reads_number ?_ packed.2.2, requestData_number packed⟩
    rw [packed.2.1, t.sizeof_idCtype]
  | string n =>
    obtain ⟨encoded, encoding⟩ := valid
    have length := (fills_string_iff encoding).mp fills
    have padded : paddedText symbol.size.toNat encoded = encoded ++ [0] := by
      rw [paddedText, size, length, ElementaryType.size, Nat.add_sub_cancel_left]
      rfl
    have slot := fillsSlot_text kind (by rw [size]; exact encoding)
    rw [padded] at slot
    refine ⟨encoded ++ [0], slot, reads_text .utf8 rfl ⟨?_, encoded, [], encoding, rfl⟩,
      requestData_string rfl encoding⟩
    simp [length, ElementaryType.size]
  | wstring n => exact fills.elim
  | array lower upper t => exact valid.elim

end ElementaryType

/-! ## Calls -/

/-- The calls that do one by one what a list write does at once. -/
def ClientCall.singles : ClientCall → List ClientCall
  | .writeListByName dataNamesAndValues cacheSymbolInfo _ =>
    dataNamesAndValues.entries.map fun entry => .writeByName entry.1 entry.2 none none cacheSymbolInfo
  | call => [call]

namespace HandlerClient
variable {types : Nat → ElementaryType} {client : HandlerClient} {id : Nat} {value : PyVal}

/-- A value of a variable is one that a single write may carry. -/
structure Writable (types : Nat → ElementaryType) (client : HandlerClient) (entry : String × PyVal) (id : Nat) : Prop
    where
  held : client.handler.Holds id
  name : (client.handler.objects id).name = entry.1
  valid : (types id).Valid entry.2
  agrees : ¬ (types id).Misread entry.2
  fills : (types id).Fills entry.2

theorem Writable.revalued (writable : Writable types client entry id)
    (revalued : Revalued client.handler later.handler) :
    Writable types later entry id :=
  ⟨(revalued.holds_iff id).mpr writable.held, (revalued.name id).trans writable.name, writable.valid, writable.agrees,
    writable.fills⟩

/-- A write by name stores the data of its request. -/
theorem Current.after_single {data : Bytes} (current : client.Current types) (writable : Writable types client entry id)
    (requested : requestData (some (types id).plcType) entry.2 = .ok data) (cacheSymbolInfo : Bool) :
    let after := (ClientCall.writeByName entry.1 entry.2 none none cacheSymbolInfo).after client
    after.Current types ∧ after.handler = client.handler.setValue id data ∧
      after.written = Function.update client.written id entry.2 := by
  have lawful : (ClientCall.writeByName entry.1 entry.2 none none cacheSymbolInfo).Lawful types client :=
    ⟨id, writable.held, writable.valid, nofun, fun _ => writable.name.symm, nofun⟩
  have named : client.addressed entry.1 none = .ok id := by
    rw [← writable.name]
    exact getVariableByName_held current.catalogue writable.held
  obtain ⟨other, addressed, writes⟩ := current.writesTo_writeByName lawful
  cases named.symm.trans addressed
  obtain ⟨given, takes, stored⟩ := writes.stored
  refine ⟨writes.current current writable.agrees writable.fills, stored data ?_, writes.written⟩
  rw [← requested]
  exact ElementaryType.requestData_alike takes (ElementaryType.takes_plcType writable.valid) writable.valid

/-- The items of a list write carry what single requests carry. -/
theorem Current.requestedEntry (current : client.Current types)
    (built : dictOf client.handler.adsGetSymbolInfo dataNames = .ok dataSymbols) (member : entry.1 ∈ dataNames)
    (writable : Writable types client entry id) :
    ∃ sent, Sends dataSymbols [] entry sent ∧
      client.handler.getVariableByIndices sent.1.iGroup sent.1.iOffset = .ok id ∧
      requestData (some (types id).plcType) entry.2 = .ok sent.2 := by
  have length := (current.reads id writable.held).1
  have known := current.symbolInfo writable.held
  rw [writable.name] at known
  obtain ⟨symbol, answer, present⟩ := (dictOf_eq_ok.mp built).2 _ member
  cases answer.symm.trans known
  obtain ⟨kind, size⟩ := current.catalogue.itemKind writable.held length
  obtain ⟨slot, fills, -, requested⟩ :=
    ElementaryType.exists_requested_slot writable.valid writable.agrees writable.fills kind size
  refine ⟨((client.handler.objects id).symbolEntry.request, slot), ?_, getVariableByIndices_held writable.held,
    requested⟩
  exact ⟨_, symbolOf_eq_ok.mpr present, rfl, fills⟩

/-- Single writes store the entries of a list one after the other. -/
theorem Current.after_singles {entries : List (String × PyVal)} {ids : String × PyVal → Nat}
    {data : String × PyVal → Bytes} (current : client.Current types)
    (writable : ∀ entry ∈ entries, Writable types client entry (ids entry))
    (requested : ∀ entry ∈ entries, requestData (some (types (ids entry)).plcType) entry.2 = .ok (data entry))
    (cacheSymbolInfo : Bool) :
    let after := entries.foldl (fun client entry =>
      (ClientCall.writeByName entry.1 entry.2 none none cacheSymbolInfo).after client) client
    after.Current types ∧ after.handler = (entries.map fun entry => (ids entry, data entry)).foldl
      (fun handler slot => handler.setValue slot.1 slot.2) client.handler := by
  induction entries generalizing client with
  | nil => exact ⟨current, rfl⟩
  | cons entry entries ih =>
    obtain ⟨here, others⟩ := List.forall_mem_cons.mp writable
    obtain ⟨first, later⟩ := List.forall_mem_cons.mp requested
    obtain ⟨next, stored, -⟩ := current.after_single here first cacheSymbolInfo
    have revalued := ClientCall.revalued_after
      (.writeByName entry.1 entry.2 none none cacheSymbolInfo) client
    obtain ⟨last, final⟩ := ih next (fun other member => (others other member).revalued revalued) later
    rw [stored] at final
    exact ⟨last, final⟩

/-! ## Lists -/

/-- Clients of the same handler that have written the same values. -/
structure Alike (types : Nat → ElementaryType) (client other : HandlerClient) : Prop where
  current : client.Current types
  also : other.Current types
  handler : other.handler = client.handler
  written : other.written = client.written

theorem Alike.addressed (alike : Alike types client other) (dataName : String) (handle : Option UInt32) :
    other.addressed dataName handle = client.addressed dataName handle := by
  cases handle <;> simp only [HandlerClient.addressed, alike.handler]

/-- A single write leaves the same in both. -/
theorem Alike.writesTo (alike : Alike types client other) (writes : WritesTo types client id value after)
    (also : WritesTo types other id value otherAfter) (agrees : ¬ (types id).Misread value)
    (fills : (types id).Fills value) : Alike types after otherAfter := by
  obtain ⟨given, takes, stored⟩ := writes.stored
  obtain ⟨otherGiven, otherTakes, otherStored⟩ := also.stored
  obtain ⟨sent, requested, -⟩ := ElementaryType.requestData_reads takes writes.valid agrees fills
  have same := ElementaryType.requestData_alike otherTakes takes writes.valid
  refine ⟨writes.current alike.current agrees fills, also.current alike.also agrees fills, ?_, ?_⟩
  · rw [stored sent requested, otherStored sent (same.trans requested), alike.handler]
  · rw [writes.written, also.written, alike.written]

/-- Single writes note the entries of a list. -/
theorem written_singles (entries : List (String × PyVal)) (cacheSymbolInfo : Bool) (client : HandlerClient) :
    (entries.foldl (fun client entry =>
        (ClientCall.writeByName entry.1 entry.2 none none cacheSymbolInfo).after client) client).written =
      entries.foldl (fun written entry => noteWritten (client.handler.getVariableByName entry.1) entry.2 written)
        client.written := by
  induction entries generalizing client with
  | nil => rfl
  | cons entry entries ih =>
    have revalued := ClientCall.revalued_after (.writeByName entry.1 entry.2 none none cacheSymbolInfo) client
    rw [List.foldl_cons, List.foldl_cons, ih]
    simp only [revalued.getVariableByName]
    rfl

/-- A list write does what its single writes do. -/
theorem Alike.writeListByName (alike : Alike types client other)
    (lawful : (ClientCall.writeListByName dataNamesAndValues cacheSymbolInfo adsSubCommands).Lawful types client)
    (keeps : ∀ entry ∈ dataNamesAndValues.entries,
      (ClientCall.writeByName entry.1 entry.2 none none cacheSymbolInfo).Keeps types client) :
    Alike types ((ClientCall.writeListByName dataNamesAndValues cacheSymbolInfo adsSubCommands).after client)
      ((ClientCall.writeListByName dataNamesAndValues cacheSymbolInfo adsSubCommands).singles.foldl ClientCall.after
        other) := by
  have current := alike.current
  have whole := current.after_writeListByName lawful fun entry member id found => (keeps entry member id found).1
  obtain ⟨positive, entries⟩ := lawful
  have writable : ∀ entry ∈ dataNamesAndValues.entries, ∃ id, Writable types client entry id := by
    intro entry member
    obtain ⟨id, held, name, valid⟩ := entries entry member
    have named : client.addressed entry.1 none = .ok id := by
      rw [← name]
      exact getVariableByName_held current.catalogue held
    obtain ⟨agrees, fills⟩ := keeps entry member id named
    exact ⟨id, held, name, valid, agrees, fills⟩
  have asked : ∀ dataName ∈ dataNamesAndValues.keys, ∃ symbol,
      client.handler.adsGetSymbolInfo dataName = .ok symbol := by
    intro dataName member
    obtain ⟨entry, there, rfl⟩ := List.mem_map.mp member
    obtain ⟨id, here⟩ := writable entry there
    rw [← here.name]
    exact ⟨_, current.symbolInfo here.held⟩
  obtain ⟨dataSymbols, later, found⟩ := exists_resolveSymbols cacheSymbolInfo asked
  obtain ⟨built, -⟩ := current.answers.resolveSymbols found
  choose! ids writable using writable
  have requested : ∀ entry ∈ dataNamesAndValues.entries, ∃ sent, Sends dataSymbols [] entry sent ∧
      client.handler.getVariableByIndices sent.1.iGroup sent.1.iOffset = .ok (ids entry) ∧
      requestData (some (types (ids entry)).plcType) entry.2 = .ok sent.2 := fun entry member =>
    current.requestedEntry built (List.mem_map_of_mem member) (writable entry member)
  have : Nonempty SumRequest := ⟨⟨0, 0, 0⟩⟩
  choose! sent sends addressed requested using requested
  -- the list is written slice by slice, and the single writes follow it entry by entry
  have slicewise (handler : AdvancedHandler) (single : HandlerClient) (slice : OrderedDict String PyVal)
      (part : ∀ entry ∈ slice.entries, entry ∈ dataNamesAndValues.entries)
      (here : (single.Current types ∧ single.handler = handler) ∧ Revalued client.handler handler) :
      ∃ result after, sumWrite AdvancedHandler.device dataSymbols [] handler slice = (.ok result, after) ∧
        ((slice.entries.foldl (fun client entry =>
            (ClientCall.writeByName entry.1 entry.2 none none cacheSymbolInfo).after client) single).Current types ∧
          (slice.entries.foldl (fun client entry =>
            (ClientCall.writeByName entry.1 entry.2 none none cacheSymbolInfo).after client) single).handler = after) ∧
          Revalued client.handler after := by
    obtain ⟨⟨still, rfl⟩, revalued⟩ := here
    have items : List.Forall₂ (Sends dataSymbols []) slice.entries (slice.entries.map sent) := by
      rw [List.forall₂_map_right_iff, List.forall₂_same]
      exact fun entry member => sends entry (part entry member)
    have finds : List.Forall₂ (fun (item : SumRequest × Bytes) (slot : Nat × Bytes) =>
        single.handler.getVariableByIndices item.1.iGroup item.1.iOffset = .ok slot.1 ∧ item.2 = slot.2)
        (slice.entries.map sent) (slice.entries.map fun entry => (ids entry, (sent entry).2)) := by
      rw [List.forall₂_map_left_iff, List.forall₂_map_right_iff, List.forall₂_same]
      intro entry member
      refine ⟨?_, rfl⟩
      rw [revalued.getVariableByIndices]
      exact addressed entry (part entry member)
    obtain ⟨result, run⟩ := sumWrite_stored items finds
    obtain ⟨last, final⟩ := still.after_singles
      (fun entry member => (writable entry (part entry member)).revalued revalued)
      (fun entry member => requested entry (part entry member)) cacheSymbolInfo
    refine ⟨result, _, run, ⟨last, final⟩, ?_⟩
    have stored := Revalued.sumWrite dataSymbols [] slice single.handler
    rw [run] at stored
    exact revalued.trans stored
  have start : (other.Current types ∧ other.handler = client.handler) ∧ Revalued client.handler client.handler :=
    ⟨⟨alike.also, alike.handler⟩, .refl client.handler⟩
  obtain ⟨⟨last, same⟩, -⟩ := writeList_noted slicewise positive start
  have written := written_singles dataNamesAndValues.entries cacheSymbolInfo other
  rw [alike.handler, alike.written] at written
  rw [ClientCall.singles, List.foldl_map]
  refine ⟨whole, last, ?_, written⟩
  rw [same]
  simp only [ClientCall.after, HandlerClient.writeListByName, PyAds.writeListByName, found]
  rfl

theorem Alike.singles (alike : Alike types client other) (lawful : ClientCall.Lawful types client call)
    (keeps : ∀ single ∈ call.singles, single.Keeps types client) :
    Alike types (call.after client) (call.singles.foldl ClientCall.after other) := by
  have revalued : Revalued client.handler other.handler := by
    rw [alike.handler]
    exact .refl client.handler
  cases call with
  | writeByName dataName value plcDatatype handle cacheSymbolInfo =>
    obtain ⟨id, addressed, writes⟩ := alike.current.writesTo_writeByName lawful
    obtain ⟨otherId, otherAddressed, also⟩ :=
      alike.also.writesTo_writeByName ((ClientCall.lawful_iff revalued _).mpr lawful)
    rw [alike.addressed, addressed] at otherAddressed
    cases otherAddressed
    obtain ⟨agrees, fills⟩ := keeps _ (List.mem_singleton.mpr rfl) id addressed
    exact alike.writesTo writes also agrees fills
  | write indexGroup indexOffset value plcDatatype =>
    obtain ⟨id, addressed, writes⟩ := alike.current.writesTo_write lawful
    obtain ⟨otherId, otherAddressed, also⟩ :=
      alike.also.writesTo_write ((ClientCall.lawful_iff revalued _).mpr lawful)
    rw [alike.handler, addressed] at otherAddressed
    cases otherAddressed
    obtain ⟨agrees, fills⟩ := keeps _ (List.mem_singleton.mpr rfl) id addressed
    exact alike.writesTo writes also agrees fills
  | writeListByName dataNamesAndValues cacheSymbolInfo adsSubCommands =>
    exact alike.writeListByName lawful fun entry member => keeps _ (List.mem_map_of_mem member)
  | readListByName dataNames cacheSymbolInfo adsSubCommands =>
    exact ⟨alike.current.after_readListByName, alike.also.after_readListByName, alike.handler, alike.written⟩

/-- So does a run of calls, with single writes in the place of its lists. -/
theorem Alike.run {calls : List ClientCall} (alike : Alike types client other)
    (lawful : ∀ call ∈ calls, call.Lawful types client)
    (keeps : ∀ call ∈ calls.flatMap ClientCall.singles, call.Keeps types client) :
    Alike types (calls.foldl ClientCall.after client) ((calls.flatMap ClientCall.singles).foldl ClientCall.after other) := by
  induction calls generalizing client other with
  | nil => exact alike
  | cons call calls ih =>
    obtain ⟨here, lawfulLater⟩ := List.forall_mem_cons.mp lawful
    rw [List.flatMap_cons, List.forall_mem_append] at keeps
    obtain ⟨keepsHere, keepsLater⟩ := keeps
    have revalued := call.revalued_after client
    rw [List.flatMap_cons, List.foldl_append, List.foldl_cons]
    exact ih (alike.singles here keepsHere)
      (fun later member => (ClientCall.lawful_iff revalued later).mpr (lawfulLater later member))
      (fun later member => (ClientCall.keeps_iff revalued later).mpr (keepsLater later member))

end HandlerClient

/-- In a run of valid calls of a current client whose texts fill their variables,
each list may be written by single writes instead: the handler holds the same in
the end, and the same values have been written. -/
theorem lists_written_singly {types : Nat → ElementaryType} {client : HandlerClient} (current : client.Current types)
    {calls : List ClientCall} (lawful : ∀ call ∈ calls, call.Lawful types client)
    (keeps : ∀ call ∈ calls.flatMap ClientCall.singles, call.Keeps types client) :
    ((calls.flatMap ClientCall.singles).foldl ClientCall.after client).handler =
        (calls.foldl ClientCall.after client).handler ∧
      ((calls.flatMap ClientCall.singles).foldl ClientCall.after client).written =
        (calls.foldl ClientCall.after client).written := by
  have alike : (calls.foldl ClientCall.after client).Alike types
      ((calls.flatMap ClientCall.singles).foldl ClientCall.after client) :=
    HandlerClient.Alike.run ⟨current, current, rfl, rfl⟩ lawful keeps
  exact ⟨alike.handler, alike.written⟩

/-- The tank gets a level, a new name with its level, and is read. -/
def renameTank : List ClientCall :=
  [.writeByName "MAIN.level" (.int 7) none none true,
   .writeListByName ⟨[("MAIN.name", .str (Text.ofChars "basin".toList)), ("MAIN.level", .int (-3))], by decide⟩ true 1,
   .readListByName ["MAIN.level", "MAIN.name"] true 500]

/-- It may be named and levelled with two writes. -/
theorem tank_renamed_singly :
    ((renameTank.flatMap ClientCall.singles).foldl ClientCall.after tankClient).handler =
        (renameTank.foldl ClientCall.after tankClient).handler ∧
      ((renameTank.flatMap ClientCall.singles).foldl ClientCall.after tankClient).written =
        (renameTank.foldl ClientCall.after tankClient).written := by
  have level : tankClient.handler.Holds 0 := by decide
  have name : tankClient.handler.Holds 1 := by decide
  obtain ⟨levelFound, nameFound⟩ := tankClient_found
  have filling : (tankTypes 1).Valid (.str (Text.ofChars "basin".toList)) := tank_text rfl (by decide) (by decide)
  have number (i : Int) (fits : IntFits 2 true i) : (tankTypes 0).Valid (.int i) :=
    ⟨.int i, i, ⟨i, rfl, fits⟩, rfl, rfl⟩
  have current := tankClient_fresh.current (fun id => carried_tankClient) fun id _ => not_misread_tank id _
  apply lists_written_singly current
  · simp only [renameTank, List.forall_mem_cons]
    refine ⟨⟨0, level, number 7 (by decide), ?_, fun _ => rfl, ?_⟩, ⟨Nat.one_pos, ?_⟩, trivial, by simp⟩
    · intro given same
      cases same
    · intro known same
      cases same
    · simp only [List.forall_mem_cons]
      exact ⟨⟨1, name, rfl, filling⟩, ⟨0, level, rfl, number (-3) (by decide)⟩, by simp⟩
  · simp only [renameTank, ClientCall.singles, List.flatMap_cons, List.flatMap_nil, List.map_cons, List.map_nil,
      List.cons_append, List.nil_append, List.forall_mem_cons]
    refine ⟨?_, ?_, ?_, trivial, by simp⟩
    · intro id found
      cases found.symm.trans levelFound
      exact ⟨not_misread_tank 0 _, trivial⟩
    · intro id found
      cases found.symm.trans nameFound
      exact ⟨not_misread_tank 1 _, _, _, rfl, rfl, rfl⟩
    · intro id found
      cases found.symm.trans levelFound
      exact ⟨not_misread_tank 0 _, trivial⟩

end PyAds
