import PyAds.NotificationDelivery
import PyAds.StoredAgreement
import PyAds.SymbolNotifications

/-! Symbols of the advanced handler that are made by name. With auto-update the
buffered value follows the variable, whichever clients write it. -/
namespace PyAds
open Runs WriteLog Fallible

/-! ## Making a symbol -/

/-- What is given for the type of a symbol, or found in its information. -/
inductive SymbolTypeArgument where
  | text (typeStr : List Char)
  | type (type : SymbolType)

/-- `_create_symbol_from_info` -/
def AdsSymbol.createSymbolFromInfo (adsGetSymbolInfo : String → Result SAdsSymbolEntry) (name : String) :
    Result (UInt32 × UInt32 × SymbolTypeArgument) :=
  (adsGetSymbolInfo name).map fun info => (info.iGroup, info.iOffs, .text info.symbolType)

/-- `AdsSymbol.__init__` with a name; whatever is missing is asked for. -/
def AdsSymbol.new (adsGetSymbolInfo : String → Result SAdsSymbolEntry) (name : String)
    (indexGroup indexOffset : Option UInt32) (symbolType : Option SymbolTypeArgument)
    (structureDef : Option (StructureDef × Nat)) : Result AdsSymbol := do
  let structure_ ← match structureDef with
    | none => pure none
    | some (structureDef, arraySize) => do
      let structureSize ← sizeOfStructures structureDef arraySize
      pure (some ⟨structureDef, arraySize, structureSize⟩)
  let (indexGroup, indexOffset, symbolType) ← match indexGroup, indexOffset, symbolType with
    | some indexGroup, some indexOffset, some symbolType => pure (indexGroup, indexOffset, symbolType)
    | _, _, _ => createSymbolFromInfo adsGetSymbolInfo name
  let plcType ← match symbolType with
    | .text typeStr => (getTypeFromStr typeStr).map (·.map SymbolType.plc)
    | .type type => pure (some type)
  return ⟨name, indexGroup, indexOffset, plcType, structure_⟩

/-- The buffered value behind the calls of `_value_callback`. -/
def AdsSymbol.mirrored [DecidableEq κ] (symbol : AdsSymbol) (callback : κ) (notified : List (Notified α κ))
    (buffered : SymbolValue) : SymbolValue :=
  ((notified.filter (·.callback = callback)).map (·.sample)).foldl symbol.valueCallback buffered

/-- The handler as the PLC that symbols read. -/
def AdvancedHandler.symbolPlc (handler : AdvancedHandler) : SymbolPlc :=
  { handler.plc with adsReadAddress := fun indexGroup indexOffset length =>
      handler.handleRead indexGroup indexOffset length }

/-- An address in the data of the PLC. -/
def OfData (indexGroup : UInt32) : Prop :=
  indexGroup ≠ ADSIGRP_SYM_VALBYHND ∧ indexGroup ≠ ADSIGRP_SYM_UPLOADINFO2 ∧ indexGroup ≠ ADSIGRP_SYM_UPLOAD

instance : DecidablePred OfData := fun _ => inferInstanceAs (Decidable (_ ∧ _ ∧ _))

/-! ## The same variables -/

namespace AdvancedHandler

/-- The same variables, with other values and registrations. -/
structure SameVariables (handler later : AdvancedHandler) : Prop where
  data : later.data = handler.data
  objects : ∀ id, ∃ value notifications notificationCount, later.objects id =
    { handler.objects id with value, notifications, notificationCount }

namespace SameVariables
variable {handler middle later : AdvancedHandler} {types : Nat → ElementaryType}

theorem refl (handler : AdvancedHandler) : SameVariables handler handler := ⟨rfl, fun _ => ⟨_, _, _, rfl⟩⟩

theorem trans (first : SameVariables handler middle) (second : SameVariables middle later) :
    SameVariables handler later := by
  refine ⟨second.data.trans first.data, fun id => ?_⟩
  obtain ⟨_, _, _, here⟩ := first.objects id
  obtain ⟨_, _, _, there⟩ := second.objects id
  exact ⟨_, _, _, by rw [there, here]⟩

theorem of_revalued (revalued : Revalued handler later) : SameVariables handler later := by
  refine ⟨revalued.data, fun id => ?_⟩
  obtain ⟨_, same⟩ := revalued.objects id
  exact ⟨_, _, _, same⟩

theorem registered (id : Nat) (notifications : List Nat) (notificationCount : Option Nat) (handler : AdvancedHandler) :
    SameVariables handler (handler.setObject id { handler.objects id with notifications, notificationCount }) := by
  refine ⟨rfl, fun other => ?_⟩
  by_cases same : other = id
  · subst same
    exact ⟨_, _, _, Function.update_self ..⟩
  · exact ⟨_, _, _, Function.update_of_ne same ..⟩

theorem field (same : SameVariables handler later) {f : PLCVariable → β}
    (unchanged : ∀ var value notifications notificationCount,
      f { var with value, notifications, notificationCount } = f var) (id : Nat) :
    f (later.objects id) = f (handler.objects id) := by
  obtain ⟨_, _, _, changed⟩ := same.objects id
  rw [changed, unchanged]

theorem holds_iff (same : SameVariables handler later) (id : Nat) : later.Holds id ↔ handler.Holds id := by
  rw [Holds, Holds, same.data, same.field (f := PLCVariable.indices) fun _ _ _ _ => rfl]

theorem catalogue (same : SameVariables handler later) (catalogue : handler.Catalogue types) :
    later.Catalogue types := by
  have held (id : Nat) (there : later.Holds id) : handler.Holds id := (same.holds_iff id).mp there
  refine ⟨fun key id found => ?_, fun id other here there => ?_, fun id other here there => ?_, fun id here => ?_⟩
  · rw [same.field (f := PLCVariable.indices) fun _ _ _ _ => rfl]
    exact catalogue.keyed key id (same.data ▸ found)
  · rw [same.field (f := (·.name)) fun _ _ _ _ => rfl, same.field (f := (·.name)) fun _ _ _ _ => rfl]
    exact catalogue.names id other (held id here) (held other there)
  · rw [same.field (f := (·.handle)) fun _ _ _ _ => rfl, same.field (f := (·.handle)) fun _ _ _ _ => rfl]
    exact catalogue.handles id other (held id here) (held other there)
  · obtain ⟨_, _, _, changed⟩ := same.objects id
    obtain ⟨stripped, handle, symbolType, adsType, nonempty, size, entry⟩ := catalogue.wellFormed id (held id here)
    rw [changed]
    exact ⟨stripped, handle, symbolType, adsType, nonempty, size, entry⟩

end SameVariables

end AdvancedHandler

/-! ## Reading -/

/-- A number or an array of numbers. -/
def ElementaryType.Numeric : ElementaryType → Prop
  | .number _ | .array .. => True
  | .string _ | .wstring _ => False

/-- Numbers are converted alike by a read and by a notification. -/
theorem ElementaryType.Numeric.decoded {type : ElementaryType} (numeric : type.Numeric) {data : Bytes}
    (length : data.length = type.size) : ∃ value, bufferSize type.plcType = .ok data.length ∧
      getValueFromCtypeData data type.plcType = .ok value ∧
      parseNotification data (some (.plc type.plcType)) = .ok (.plain value) := by
  cases type with
  | number t =>
    refine ⟨.value (unpackValue t.ctype.format data), congrArg Except.ok length.symm, rfl, ?_⟩
    rw [ElementaryType.plcType, parseNotification, structUnpack_of_length (by rw [CType.size_format, length]; rfl)]
    rfl
  | array lower upper t =>
    exact ⟨_, congrArg Except.ok length.symm, rfl, if_pos length⟩
  | string n => cases numeric
  | wstring n => cases numeric

namespace AdvancedHandler
variable {types : Nat → ElementaryType} {handler : AdvancedHandler} {id : Nat}

theorem handleRead_indices (held : handler.Holds id) (ofData : OfData (handler.objects id).indexGroup) (length : Nat) :
    handler.handleRead (handler.objects id).indexGroup (handler.objects id).indexOffset length =
      .ok ((handler.objects id).value.take length) := by
  obtain ⟨notHandle, notInfo, notUpload⟩ := ofData
  simp only [handleRead, notHandle, notInfo, notUpload, ↓reduceIte, getVariableByIndices_held held]
  rfl

section Catalogue
variable (catalogue : handler.Catalogue types) (held : handler.Holds id) (carried : (handler.objects id).Carried)
include catalogue held carried

/-- A symbol for which something is missing is located where its name is. -/
theorem new_named (size : (handler.objects id).size < 2 ^ 32) {indexGroup indexOffset : Option UInt32}
    {symbolType : Option SymbolTypeArgument} (missing : indexGroup = none ∨ indexOffset = none ∨ symbolType = none) :
    AdsSymbol.new handler.adsGetSymbolInfo (handler.objects id).name indexGroup indexOffset symbolType none =
      .ok ⟨(handler.objects id).name, (handler.objects id).indexGroup, (handler.objects id).indexOffset,
        some (.plc (types id).plcType), none⟩ := by
  have asked := (adsGetSymbolInfo_eq_ok catalogue held carried).mpr ⟨size, rfl⟩
  have wellFormed := catalogue.wellFormed id held
  have named : getTypeFromStr (handler.objects id).symbolEntry.symbolType = .ok (some (types id).plcType) := by
    rw [PLCVariable.symbolEntry, wellFormed.symbolType]
    exact getTypeFromStr_name _ wellFormed.nonempty wellFormed.size
  have looked : AdsSymbol.createSymbolFromInfo handler.adsGetSymbolInfo (handler.objects id).name =
      .ok ((handler.objects id).indexGroup, (handler.objects id).indexOffset,
        .text (handler.objects id).symbolEntry.symbolType) := by
    rw [AdsSymbol.createSymbolFromInfo, asked]
    rfl
  unfold AdsSymbol.new
  rcases missing with rfl | rfl | rfl
  · simp only [looked, named, bind, Except.bind, pure, Except.pure, Except.map, Option.map_some]
  · cases indexGroup <;>
      simp only [looked, named, bind, Except.bind, pure, Except.pure, Except.map, Option.map_some]
  · cases indexGroup <;> cases indexOffset <;>
      simp only [looked, named, bind, Except.bind, pure, Except.pure, Except.map, Option.map_some]

theorem of_new_named {indexGroup indexOffset : Option UInt32} {symbolType : Option SymbolTypeArgument}
    (missing : indexGroup = none ∨ indexOffset = none ∨ symbolType = none)
    (made : AdsSymbol.new handler.adsGetSymbolInfo (handler.objects id).name indexGroup indexOffset symbolType none =
      .ok symbol) :
    symbol = ⟨(handler.objects id).name, (handler.objects id).indexGroup, (handler.objects id).indexOffset,
      some (.plc (types id).plcType), none⟩ := by
  cases asked : handler.adsGetSymbolInfo (handler.objects id).name with
  | ok info =>
    have size := ((adsGetSymbolInfo_eq_ok catalogue held carried).mp asked).1
    exact Except.ok.inj (made.symm.trans (new_named catalogue held carried size missing))
  | error e =>
    have failed : AdsSymbol.createSymbolFromInfo handler.adsGetSymbolInfo (handler.objects id).name = .error e := by
      rw [AdsSymbol.createSymbolFromInfo, asked]
      rfl
    unfold AdsSymbol.new at made
    rcases missing with rfl | rfl | rfl
    · simp only [failed, bind, Except.bind, pure, Except.pure, reduceCtorEq] at made
    · cases indexGroup <;> simp only [failed, bind, Except.bind, pure, Except.pure, reduceCtorEq] at made
    · cases indexGroup <;> cases indexOffset <;>
        simp only [failed, bind, Except.bind, pure, Except.pure, reduceCtorEq] at made

/-- A variable of numbers gives the same value to a symbol, to a read by name
and to a notification. -/
theorem read_alike (ofData : OfData (handler.objects id).indexGroup) (numeric : (types id).Numeric)
    (length : (handler.objects id).value.length = (types id).size) : ∃ value,
      parseNotification (handler.objects id).value (some (.plc (types id).plcType)) = .ok (.plain value) ∧
      AdsSymbol.read ⟨(handler.objects id).name, (handler.objects id).indexGroup, (handler.objects id).indexOffset,
        some (.plc (types id).plcType), none⟩ handler.symbolPlc = .ok (.plain value) ∧
      ∀ symbolInfoCache cacheSymbolInfo, AnswersOf handler.adsGetSymbolInfo symbolInfoCache →
        (readByName handler.plc symbolInfoCache (handler.objects id).name cacheSymbolInfo).1 = .ok value := by
  obtain ⟨value, size, converted, parsed⟩ := numeric.decoded length
  have wellFormed := catalogue.wellFormed id held
  refine ⟨value, parsed, ?_, fun symbolInfoCache cacheSymbolInfo answers => ?_⟩
  · have read : adsSyncReadReqEx2 (fun length =>
        handler.handleRead (handler.objects id).indexGroup (handler.objects id).indexOffset length) (types id).plcType =
          .ok value :=
      (adsSyncReadReqEx2_exact size rfl (handleRead_indices held ofData _)).trans converted
    change (do
      let value ← adsSyncReadReqEx2 (fun length =>
        handler.handleRead (handler.objects id).indexGroup (handler.objects id).indexOffset length) (types id).plcType
      return SymbolValue.plain value) = _
    rw [read]
    rfl
  · have handle := adsGetHandle_held catalogue held carried
    have own := getVariableByHandle_held catalogue held
    have whole : handler.handleRead ADSIGRP_SYM_VALBYHND (UInt32.ofNat (handler.objects id).handle)
        (handler.objects id).value.length = .ok ((handler.objects id).value.take (handler.objects id).value.length) := by
      simp only [handleRead, ↓reduceIte, UInt32.toNat_ofNat', Nat.mod_eq_of_lt wellFormed.handle, own, List.take_length]
      rfl
    have read : adsSyncReadReqEx2 (handler.plc.adsSyncRead (UInt32.ofNat (handler.objects id).handle))
        (types id).plcType = .ok value :=
      (adsSyncReadReqEx2_exact size rfl whole).trans converted
    have small : (handler.objects id).size < 2 ^ 32 := length.trans_lt wellFormed.size
    have asked := (adsGetSymbolInfo_eq_ok catalogue held carried).mpr ⟨small, rfl⟩
    have named : getTypeFromStr (handler.objects id).symbolEntry.symbolType = .ok (some (types id).plcType) := by
      rw [PLCVariable.symbolEntry, wellFormed.symbolType]
      exact getTypeFromStr_name _ wellFormed.nonempty wellFormed.size
    have same : handler.plc.adsGetSymbolInfo = handler.adsGetSymbolInfo := rfl
    obtain ⟨later, found, -⟩ := answers.symbolInfo same asked cacheSymbolInfo
    have handled : handler.plc.adsGetHandle (handler.objects id).name =
        .ok (.ofNat (handler.objects id).handle) := handle
    simp only [readByName, found, named, adsSyncReadByNameEx, handled, read, bind, Except.bind]
    rfl

end Catalogue

end AdvancedHandler

/-! ## Runs -/

/-- A client asks for something. -/
def HandlerEvent.IsRequest : HandlerEvent α κ → Prop
  | .addVariable _ => False
  | .asks .. => True

namespace ObservedHandler
variable [DecidableEq α] {s : ObservedHandler α κ}

theorem sameVariables_after {event : HandlerEvent α κ} (asked : event.IsRequest) :
    AdvancedHandler.SameVariables s.server.handler (event.after s).server.handler := by
  have plain (noted : event.note? = none) :
      AdvancedHandler.SameVariables s.server.handler (event.after s).server.handler := by
    rw [HandlerEvent.after, noted]
    exact .of_revalued (AdvancedHandler.revalued_writeAll ..)
  cases event with
  | addVariable id => cases asked
  | asks client request callback =>
    cases request with
    | addDevicenote indexGroup indexOffset =>
      change AdvancedHandler.SameVariables _ (s.server.addNotification client indexGroup indexOffset callback).handler
      rcases addNotification_cases s.server client indexGroup indexOffset callback with
        same | ⟨id, ⟨-, same⟩ | ⟨handle, -, -, same⟩⟩
      · rw [same]
        exact .refl _
      · rw [same]
        exact .registered id _ _ _
      · rw [same]
        exact .registered id _ _ _
    | deleteDevicenote handle =>
      change AdvancedHandler.SameVariables _ (s.server.deleteNotification client handle).handler
      simp only [NotifyingHandler.deleteNotification, AdvancedHandler.handleDeleteDevicenote]
      cases s.server.handler.getVariableByNotificationHandle handle.toNat with
      | error e => exact .refl _
      | ok id => exact .registered id _ _ _
    | _ => exact plain rfl

/-- Requests leave the variables that there are. -/
theorem sameVariables_run {events : List (HandlerEvent α κ)} (requests : ∀ event ∈ events, event.IsRequest) :
    AdvancedHandler.SameVariables s.server.handler (events.foldl HandlerEvent.after s).server.handler := by
  induction events generalizing s with
  | nil => exact .refl _
  | cons event events ih =>
    obtain ⟨here, later⟩ := List.forall_mem_cons.mp requests
    exact (sameVariables_after here).trans (ih later)

/-- A run leaves what was written last. -/
theorem values_run (s : ObservedHandler α κ) (events : List (HandlerEvent α κ)) :
    (events.foldl HandlerEvent.after s).server.handler.values = lastWritten s.server.handler.values (s.writes events) := by
  induction events generalizing s with
  | nil => rfl
  | cons event events ih => rw [List.foldl_cons, ih, values_after, writes, lastWritten_append]

omit [DecidableEq α] in
/-- The last sample decides about the buffered value. -/
theorem mirrored_eq [DecidableEq κ] {symbol : AdsSymbol} {callback : κ} {notified : List (Notified α κ)}
    {samples : List Bytes} {call : Bytes → Notified α κ} {first current : Bytes} {buffered decoded : SymbolValue}
    (heard : notified.filter (·.callback = callback) = samples.map call) (carried : ∀ sample, (call sample).sample = sample)
    (stored : samples.getLast?.getD first = current)
    (parsed : parseNotification current symbol.plcType = .ok decoded) (unchanged : samples = [] → buffered = decoded) :
    symbol.mirrored callback notified buffered = decoded := by
  have same : (samples.map call).map (·.sample) = samples := by
    have each : (fun call : Notified α κ => call.sample) ∘ call = id := funext carried
    rw [List.map_map, each, List.map_id]
  rw [AdsSymbol.mirrored, heard, same]
  cases samples using List.reverseRecOn with
  | nil => exact unchanged rfl
  | append_singleton samples sample =>
    rw [List.getLast?_concat, Option.getD_some] at stored
    rw [List.foldl_concat, AdsSymbol.valueCallback, stored, parsed]

/-- Once auto-update is on, and the symbol has been read then or notified since,
its buffered value is what the symbol reads and what a read by name returns,
whichever clients write the variable, if the handles of registrations are kept
apart and the variable has the size of its type. -/
theorem auto_update_mirrors [DecidableEq κ] {objects : Nat → PLCVariable}
    (unregistered : ∀ id, (objects id).notifications = []) (client : α) (callback : κ)
    (before during : List (HandlerEvent α κ)) (id : Nat) {types : Nat → ElementaryType}
    (catalogue : (observed objects before).server.handler.Catalogue types)
    (held : (observed objects before).server.handler.Holds id)
    (carried : ((observed objects before).server.handler.objects id).Carried)
    (ofData : OfData ((observed objects before).server.handler.objects id).indexGroup) (numeric : (types id).Numeric)
    (indexGroup indexOffset : Option UInt32) (symbolType : Option SymbolTypeArgument)
    (missing : indexGroup = none ∨ indexOffset = none ∨ symbolType = none)
    (made : AdsSymbol.new (observed objects before).server.handler.adsGetSymbolInfo
      ((observed objects before).server.handler.objects id).name indexGroup indexOffset symbolType none = .ok symbol)
    (apart : Along HandlerEvent.after HandlerEvent.KeepsApart (fresh α κ objects)
      (before ++ .adds client symbol.indexGroup symbol.indexOffset callback :: during))
    (answered : ((observed objects before).server.handler.handleAddDevicenote symbol.indexGroup symbol.indexOffset).1 =
      .ok handle)
    (others : ∀ event ∈ before ++ during, ¬ event.Registers callback)
    (kept : ∀ event ∈ during, event.IsRequest ∧ ¬ event.Deletes handle) :
    let last := observed objects (before ++ .adds client symbol.indexGroup symbol.indexOffset callback :: during)
    (last.server.handler.objects id).value.length = (types id).size →
    (symbol.read (observed objects before).server.handler.symbolPlc = .ok buffered ∨
      ∃ call ∈ last.notified, call.callback = callback) →
    ∃ value, symbol.mirrored callback last.notified buffered = .plain value ∧
      symbol.read last.server.handler.symbolPlc = .ok (.plain value) ∧
      ∀ symbolInfoCache cacheSymbolInfo, AnswersOf last.server.handler.adsGetSymbolInfo symbolInfoCache →
        (readByName last.server.handler.plc symbolInfoCache symbol.name cacheSymbolInfo).1 = .ok value := by
  intro last sized updated
  have own := AdvancedHandler.of_new_named catalogue held carried missing made
  have group : symbol.indexGroup = ((observed objects before).server.handler.objects id).indexGroup := by rw [own]
  have offset : symbol.indexOffset = ((observed objects before).server.handler.objects id).indexOffset := by rw [own]
  have name : symbol.name = ((observed objects before).server.handler.objects id).name := by rw [own]
  have plcType : symbol.plcType = some (.plc (types id).plcType) := by rw [own]
  have found : (observed objects before).server.handler.getVariableByIndices symbol.indexGroup symbol.indexOffset =
      .ok id := by
    rw [group, offset]
    exact AdvancedHandler.getVariableByIndices_held held
  obtain ⟨requests, undeleted⟩ := forall₂_and.mp kept
  obtain ⟨-, -, heard⟩ := notified_registered unregistered apart found answered others undeleted
  have split : last = during.foldl HandlerEvent.after (HandlerEvent.after (observed objects before)
      (.adds client symbol.indexGroup symbol.indexOffset callback)) := by
    simp only [last, observed, List.foldl_append, List.foldl_cons]
  have same : AdvancedHandler.SameVariables (observed objects before).server.handler last.server.handler := by
    have registering : (HandlerEvent.adds client symbol.indexGroup symbol.indexOffset callback).IsRequest := trivial
    rw [split]
    exact (sameVariables_after registering).trans (sameVariables_run requests)
  have sameName := same.field (f := (·.name)) (fun _ _ _ _ => rfl) id
  have sameGroup := same.field (f := (·.indexGroup)) (fun _ _ _ _ => rfl) id
  have sameOffset := same.field (f := (·.indexOffset)) (fun _ _ _ _ => rfl) id
  -- what the variable holds is the last change, or what it held at first
  have stored : (changes id ((observed objects before).server.handler.values id) ((observed objects (before ++
      [.adds client symbol.indexGroup symbol.indexOffset callback])).writes during)).getLast?.getD
        ((observed objects before).server.handler.values id) = (last.server.handler.objects id).value := by
    have begun := values_after (observed objects before) (.adds client symbol.indexGroup symbol.indexOffset callback)
    have kept := values_run (HandlerEvent.after (observed objects before)
      (.adds client symbol.indexGroup symbol.indexOffset callback)) during
    rw [← split, begun] at kept
    rw [getLast?_changes]
    change _ = last.server.handler.values id
    rw [kept]
    simp [observed, HandlerEvent.writes, AdsRequest.writes]
  obtain ⟨value, parsed, read, named⟩ := AdvancedHandler.read_alike (same.catalogue catalogue)
    ((same.holds_iff id).mpr held)
    (by rw [PLCVariable.Carried, sameName]; exact carried) (by rw [sameGroup]; exact ofData) numeric sized
  refine ⟨value, ?_, ?_, fun symbolInfoCache cacheSymbolInfo answers => ?_⟩
  · refine mirrored_eq heard (fun _ => rfl) stored (by rw [plcType]; exact parsed) fun unchanged => ?_
    rcases updated with first | ⟨call, member, called⟩
    · rw [unchanged] at stored
      have bytes : ((observed objects before).server.handler.objects id).value =
          (last.server.handler.objects id).value := stored
      obtain ⟨other, alike, before, -⟩ := AdvancedHandler.read_alike catalogue held carried ofData numeric
        (by rw [bytes, sized])
      rw [← own, first] at before
      rw [bytes, parsed] at alike
      cases alike
      exact Except.ok.inj before
    · rw [unchanged, List.map_nil] at heard
      exact absurd (decide_eq_true called) (List.filter_eq_nil_iff.mp heard call member)
  · rw [own, ← sameName, ← sameGroup, ← sameOffset]
    exact read
  · rw [name, ← sameName]
    exact named symbolInfoCache cacheSymbolInfo answers

/-- The handler of the tank with the two variables that it holds. -/
def tankEvents : List (HandlerEvent Bool String) := [.addVariable 0, .addVariable 1]

/-- Two clients write the level of the tank. -/
def levelWrites : List (HandlerEvent Bool String) :=
  [.asks true (.write 0x4020 0 [7, 0]) "", .asks false (.readWrite 0x4020 0 2 [9, 0]) ""]

theorem tank_level_mirrored : ∃ symbol, AdsSymbol.new tankClient.handler.adsGetSymbolInfo "MAIN.level" none none none none =
    .ok symbol ∧
      let last := observed tankClient.handler.objects (tankEvents ++
        .adds false symbol.indexGroup symbol.indexOffset "level" :: levelWrites)
      ∃ value, symbol.mirrored "level" last.notified (.plain (.value .none)) = .plain value ∧
        symbol.read last.server.handler.symbolPlc = .ok (.plain value) ∧
        ∀ symbolInfoCache cacheSymbolInfo, AnswersOf last.server.handler.adsGetSymbolInfo symbolInfoCache →
          (readByName last.server.handler.plc symbolInfoCache symbol.name cacheSymbolInfo).1 = .ok value := by
  have held : tankClient.handler.Holds 0 := by decide
  have carried := carried_tankClient held
  have made : AdsSymbol.new tankClient.handler.adsGetSymbolInfo "MAIN.level" none none none none = .ok _ :=
    AdvancedHandler.new_named tankClient_fresh.catalogue held carried (by decide) (.inl rfl)
  have answered : ((observed tankClient.handler.objects tankEvents).server.handler.handleAddDevicenote 0x4020 0).1 =
      .ok 10 := rfl
  refine ⟨_, made, ?_⟩
  refine auto_update_mirrors (fun id => ?_) false "level" tankEvents levelWrites 0 tankClient_fresh.catalogue held
    carried
    (by decide) trivial none none none (.inl rfl) made ?_ answered ?_ ?_ ?_ ?_
  · cases id <;> rfl
  · refine ⟨?_, ?_, ?_, nofun, nofun, trivial⟩
    · rintro _ ⟨⟩ _ note noted
      cases noted
    · rintro _ ⟨⟩ _ note noted
      cases noted
    · rintro _ ⟨⟩ id handle found next
      refine ⟨?_, fun _ stored => ?_⟩
      · intro note member
        cases member
      · cases stored
  · decide
  · simp [levelWrites, HandlerEvent.IsRequest, HandlerEvent.Deletes]
  · rfl
  · exact .inr ⟨⟨false, 10, "level", [9, 0]⟩, by decide +kernel, rfl⟩

end ObservedHandler

end PyAds
