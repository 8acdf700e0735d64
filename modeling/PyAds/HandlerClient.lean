import PyAds.SessionCache
import PyAds.StoredValues

/-! A connection to the advanced handler. It writes variables by name, by
address and in lists, and keeps symbol information for as long as it is open. -/
namespace PyAds
open Fallible

/-- The handler, the connection's symbol cache, and the value that was last
written to each variable, or its initial value. -/
structure HandlerClient where
  handler : AdvancedHandler
  symbolInfoCache : DataSymbols
  written : Nat → PyVal

inductive ClientCall where
  | writeByName (dataName : String) (value : PyVal) (plcDatatype : Option PlcDataType) (handle : Option UInt32)
    (cacheSymbolInfo : Bool)
  | write (indexGroup indexOffset : UInt32) (value : PyVal) (plcDatatype : PlcDataType)
  | writeListByName (dataNamesAndValues : OrderedDict String PyVal) (cacheSymbolInfo : Bool) (adsSubCommands : Nat)
  | readListByName (dataNames : List String) (cacheSymbolInfo : Bool) (adsSubCommands : Nat)

/-- The value of a variable that is found is noted. -/
def noteWritten (found : Result Nat) (value : PyVal) (written : Nat → PyVal) : Nat → PyVal :=
  match found with
  | .ok id => Function.update written id value
  | .error _ => written

namespace HandlerClient

/-- `_query_plc_datatype_from_name`, and the cache afterwards. -/
def queryPlcDatatype (client : HandlerClient) (dataName : String) (cacheSymbolInfo : Bool) :
    Result (Option PlcDataType) × DataSymbols :=
  match symbolInfo client.handler.plc cacheSymbolInfo client.symbolInfoCache dataName with
  | .error e => (.error e, client.symbolInfoCache)
  | .ok (info, symbolInfoCache) => (getTypeFromStr info.symbolType, symbolInfoCache)

/-- The data type that is given, or asked for. -/
def datatypeFor (client : HandlerClient) (dataName : String) (cacheSymbolInfo : Bool) :
    Option PlcDataType → Result (Option PlcDataType) × DataSymbols
  | some plcDatatype => (.ok (some plcDatatype), client.symbolInfoCache)
  | none => client.queryPlcDatatype dataName cacheSymbolInfo

/-- `write_by_name` -/
def writeByName (dataName : String) (value : PyVal) (plcDatatype : Option PlcDataType) (handle : Option UInt32)
    (cacheSymbolInfo : Bool) (client : HandlerClient) : Result Unit × HandlerClient :=
  match client.datatypeFor dataName cacheSymbolInfo plcDatatype with
  | (.error e, symbolInfoCache) => (.error e, { client with symbolInfoCache := symbolInfoCache })
  | (.ok dataType, symbolInfoCache) =>
    let (result, handler) := client.handler.adsSyncWriteByNameEx dataName value dataType handle
    (result, { client with handler := handler, symbolInfoCache := symbolInfoCache })

/-- `write` -/
def write (indexGroup indexOffset : UInt32) (value : PyVal) (plcDatatype : PlcDataType) (client : HandlerClient) :
    Result Unit × HandlerClient :=
  let (result, handler) := client.handler.adsSyncWriteReqEx indexGroup indexOffset value (some plcDatatype)
  (result, { client with handler := handler })

/-- The cache after a list of names has been resolved; a failed lookup leaves
it as it is. -/
def cacheAfter (client : HandlerClient) (dataNames : List String) (cacheSymbolInfo : Bool) : DataSymbols :=
  match resolveSymbols client.handler.adsGetSymbolInfo cacheSymbolInfo client.symbolInfoCache dataNames with
  | .ok (_, symbolInfoCache) => symbolInfoCache
  | .error _ => client.symbolInfoCache

/-- `write_list_by_name` without structures. -/
def writeListByName (dataNamesAndValues : OrderedDict String PyVal) (cacheSymbolInfo : Bool) (adsSubCommands : Nat)
    (client : HandlerClient) : Result (OrderedDict String PyVal) × HandlerClient :=
  let (result, handler) := PyAds.writeListByName client.handler.adsGetSymbolInfo AdvancedHandler.device client.handler
    client.symbolInfoCache dataNamesAndValues cacheSymbolInfo adsSubCommands OrderedDict.empty
  (result, { client with
    handler := handler
    symbolInfoCache := client.cacheAfter dataNamesAndValues.keys cacheSymbolInfo })

/-- `read_list_by_name` without structures. -/
def readListByName (dataNames : List String) (cacheSymbolInfo : Bool) (adsSubCommands : Nat)
    (client : HandlerClient) : Result (OrderedDict String PyVal) × HandlerClient :=
  let (result, symbolInfoCache) := PyAds.readListByName client.handler.plc.toPlc client.symbolInfoCache dataNames
    cacheSymbolInfo adsSubCommands OrderedDict.empty
  (result, { client with symbolInfoCache := symbolInfoCache })

/-- The variable that a write by name is for. -/
def addressed (client : HandlerClient) (dataName : String) : Option UInt32 → Result Nat
  | some handle => client.handler.getVariableByHandle handle.toNat
  | none => client.handler.getVariableByName dataName

end HandlerClient

/-- A call also notes what it was to write, whether it raises or not. -/
def ClientCall.after (client : HandlerClient) : ClientCall → HandlerClient
  | .writeByName dataName value plcDatatype handle cacheSymbolInfo =>
    { (client.writeByName dataName value plcDatatype handle cacheSymbolInfo).2 with
      written := noteWritten (client.addressed dataName handle) value client.written }
  | .write indexGroup indexOffset value plcDatatype =>
    { (client.write indexGroup indexOffset value plcDatatype).2 with
      written := noteWritten (client.handler.getVariableByIndices indexGroup indexOffset) value client.written }
  | .writeListByName dataNamesAndValues cacheSymbolInfo adsSubCommands =>
    { (client.writeListByName dataNamesAndValues cacheSymbolInfo adsSubCommands).2 with
      written := dataNamesAndValues.entries.foldl (fun written entry =>
        noteWritten (client.handler.getVariableByName entry.1) entry.2 written) client.written }
  | .readListByName dataNames cacheSymbolInfo adsSubCommands =>
    (client.readListByName dataNames cacheSymbolInfo adsSubCommands).2

/-! ## What calls do to the handler -/

namespace AdvancedHandler
variable {types : Nat → ElementaryType} {handler : AdvancedHandler} {id : Nat} {data : Bytes}

theorem adsSyncWriteReqEx_indices (held : handler.Holds id)
    (notRelease : (handler.objects id).indexGroup ≠ ADSIGRP_SYM_RELEASEHND)
    (notHandle : (handler.objects id).indexGroup ≠ ADSIGRP_SYM_VALBYHND)
    (sent : requestData plcDatatype value = .ok data) :
    handler.adsSyncWriteReqEx (handler.objects id).indexGroup (handler.objects id).indexOffset value plcDatatype =
      (.ok (), handler.setValue id data) := by
  have found := getVariableByIndices_held held
  simp only [adsSyncWriteReqEx, sent, handleWrite, notRelease, notHandle, ↓reduceIte, found, writeFound]

theorem adsSyncWriteReqEx_handle (found : handler.getVariableByHandle handle.toNat = .ok id)
    (sent : requestData plcDatatype value = .ok data) :
    handler.adsSyncWriteReqEx ADSIGRP_SYM_VALBYHND handle value plcDatatype = (.ok (), handler.setValue id data) := by
  simp only [adsSyncWriteReqEx, sent, handleWrite_valByHnd, found, writeFound]

theorem adsReleaseHandle_eq (handle : UInt32) (handler : AdvancedHandler) :
    handler.adsReleaseHandle handle = (.ok (), handler) := rfl

/-- A write by name reaches the variable with the name or the handle. -/
theorem adsSyncWriteByNameEx_held (catalogue : handler.Catalogue types) (held : handler.Holds id)
    (carried : (handler.objects id).Carried) (named : handle = none → dataName = (handler.objects id).name)
    (given : ∀ known, handle = some known → known.toNat = (handler.objects id).handle)
    (sent : requestData dataType value = .ok data) :
    handler.adsSyncWriteByNameEx dataName value dataType handle = (.ok (), handler.setValue id data) := by
  have own := getVariableByHandle_held catalogue held
  cases handle with
  | some known =>
    have found : handler.getVariableByHandle known.toNat = .ok id := by rw [given known rfl, own]
    simp only [adsSyncWriteByNameEx, handleFor, adsSyncWriteReqEx_handle found sent, reduceCtorEq, ↓reduceIte]
  | none =>
    have asked := adsGetHandle_held catalogue held carried
    rw [← named rfl] at asked
    have found : handler.getVariableByHandle (UInt32.ofNat (handler.objects id).handle).toNat = .ok id := by
      rw [UInt32.toNat_ofNat', Nat.mod_eq_of_lt (catalogue.wellFormed id held).handle, own]
    simp only [adsSyncWriteByNameEx, handleFor, asked, adsSyncWriteReqEx_handle found sent, ↓reduceIte,
      adsReleaseHandle_eq]

theorem Revalued.writeFound (found : Result Nat) (value : Bytes) (handler : AdvancedHandler) :
    Revalued handler (handler.writeFound found value).2 := by
  cases found with
  | error e => exact .refl handler
  | ok id => exact .setValue id value handler

theorem Revalued.adsSyncWriteReqEx (indexGroup indexOffset : UInt32) (value : PyVal)
    (plcDataType : Option PlcDataType) (handler : AdvancedHandler) :
    Revalued handler (handler.adsSyncWriteReqEx indexGroup indexOffset value plcDataType).2 := by
  unfold AdvancedHandler.adsSyncWriteReqEx
  cases requestData plcDataType value with
  | error e => exact .refl handler
  | ok data =>
    simp only [handleWrite]
    split
    · exact .refl handler
    · split
      · exact .writeFound _ data handler
      · exact .writeFound _ data handler

theorem Revalued.adsSyncWriteByNameEx (dataName : String) (value : PyVal) (dataType : Option PlcDataType)
    (handle : Option UInt32) (handler : AdvancedHandler) :
    Revalued handler (handler.adsSyncWriteByNameEx dataName value dataType handle).2 := by
  unfold AdvancedHandler.adsSyncWriteByNameEx
  cases handler.handleFor dataName handle with
  | error e => exact .refl handler
  | ok found =>
    have written := Revalued.adsSyncWriteReqEx ADSIGRP_SYM_VALBYHND found value dataType handler
    simp only
    split
    · rename_i later same
      rwa [same] at written
    · rename_i later same
      rw [same] at written
      split
      · exact written
      · exact written

/-- The same variables, and values of the same sizes. -/
structure SameSizes (handler later : AdvancedHandler) : Prop where
  revalued : Revalued handler later
  sizes : ∀ id, (later.objects id).value.length = (handler.objects id).value.length

theorem SameSizes.refl (handler : AdvancedHandler) : handler.SameSizes handler := ⟨.refl handler, fun _ => rfl⟩

theorem SameSizes.setValue (same : handler.SameSizes later) (size : data.length = (handler.objects id).value.length) :
    handler.SameSizes (later.setValue id data) := by
  refine ⟨same.revalued.trans (.setValue id data later), fun other => ?_⟩
  by_cases own : other = id
  · subst own
    simpa [AdvancedHandler.setValue, setObject] using size
  · simpa [AdvancedHandler.setValue, setObject, own] using same.sizes other

/-- Symbol information depends on the values by their sizes only. -/
theorem SameSizes.adsGetSymbolInfo (same : handler.SameSizes later) :
    later.adsGetSymbolInfo = handler.adsGetSymbolInfo := by
  have named (writeData : Bytes) : later.getVariableNamed writeData = handler.getVariableNamed writeData := by
    simp only [getVariableNamed, same.revalued.getVariableByName]
  have packed (id : Nat) : (later.objects id).getPackedInfo = (handler.objects id).getPackedInfo := by
    obtain ⟨value, here⟩ := same.revalued.objects id
    have size := same.sizes id
    rw [here] at size ⊢
    simp only [PLCVariable.getPackedInfo, PLCVariable.size, size]
  funext dataName
  simp only [AdvancedHandler.adsGetSymbolInfo, handleReadWrite_infoByNameEx, named, packed]

/-- Symbol information does not change with a value of the same size. -/
theorem adsGetSymbolInfo_setValue (same : data.length = (handler.objects id).value.length) :
    (handler.setValue id data).adsGetSymbolInfo = handler.adsGetSymbolInfo :=
  ((SameSizes.refl handler).setValue same).adsGetSymbolInfo

end AdvancedHandler

/-! ## The cache -/

/-- The cache holds what the PLC would answer. -/
def AnswersOf (adsGetSymbolInfo : String → Result SAdsSymbolEntry) (symbolInfoCache : DataSymbols) : Prop :=
  ∀ dataName symbol, symbolInfoCache.get? dataName = some symbol → adsGetSymbolInfo dataName = .ok symbol

section Cache
variable {adsGetSymbolInfo : String → Result SAdsSymbolEntry} {symbolInfoCache : DataSymbols}
  (answers : AnswersOf adsGetSymbolInfo symbolInfoCache)
include answers

/-- With such a cache all symbols are what the PLC would answer. -/
theorem AnswersOf.resolveSymbols (found : resolveSymbols adsGetSymbolInfo cacheSymbolInfo symbolInfoCache dataNames =
    .ok (dataSymbols, later)) : dictOf adsGetSymbolInfo dataNames = .ok dataSymbols ∧ AnswersOf adsGetSymbolInfo later := by
  cases cacheSymbolInfo with
  | false =>
    obtain ⟨symbols, asked, same⟩ := bind_eq_ok.mp found
    cases same
    exact ⟨asked, answers⟩
  | true =>
    obtain ⟨kept, built⟩ := resolveSymbols_eq_ok found
    have still : AnswersOf adsGetSymbolInfo later := by
      intro dataName symbol known
      rw [kept, resolved] at known
      cases cached : symbolInfoCache.get? dataName with
      | some info =>
        rw [cached, Option.some_or] at known
        cases known
        exact answers dataName symbol cached
      | none =>
        rw [cached, Option.none_or] at known
        split at known
        · cases asked : adsGetSymbolInfo dataName with
          | error e =>
            rw [asked] at known
            cases known
          | ok info =>
            rw [asked] at known
            cases known
            rfl
        · cases known
    refine ⟨dictOf_eq_ok.mpr ⟨(dictOf_eq_ok.mp built).1, ?_⟩, still⟩
    intro dataName member
    obtain ⟨symbol, known, held⟩ := (dictOf_eq_ok.mp built).2 dataName member
    exact ⟨symbol, still dataName symbol (symbolOf_eq_ok.mp known), held⟩

omit answers in
theorem exists_resolveSymbols (cacheSymbolInfo : Bool)
    (asked : ∀ dataName ∈ dataNames, ∃ symbol, adsGetSymbolInfo dataName = .ok symbol) :
    ∃ dataSymbols later, resolveSymbols adsGetSymbolInfo cacheSymbolInfo symbolInfoCache dataNames =
      .ok (dataSymbols, later) := by
  cases cacheSymbolInfo with
  | false =>
    obtain ⟨dataSymbols, built⟩ := exists_dictOf_iff.mpr asked
    exact ⟨dataSymbols, symbolInfoCache, bind_eq_ok.mpr ⟨dataSymbols, built, rfl⟩⟩
  | true =>
    obtain ⟨⟨dataSymbols, later⟩, found⟩ :=
      exists_resolveSymbols_iff.mpr fun dataName member _ => asked dataName member
    exact ⟨dataSymbols, later, found⟩

theorem AnswersOf.symbolInfo {plc : NamePlc} (same : plc.adsGetSymbolInfo = adsGetSymbolInfo)
    (asked : adsGetSymbolInfo dataName = .ok info) (cacheSymbolInfo : Bool) :
    ∃ later, symbolInfo plc cacheSymbolInfo symbolInfoCache dataName = .ok (info, later) ∧
      AnswersOf adsGetSymbolInfo later := by
  cases cacheSymbolInfo with
  | false =>
    refine ⟨symbolInfoCache, ?_, answers⟩
    simp only [PyAds.symbolInfo, Bool.false_eq_true, ↓reduceIte, same, asked, bind, Except.bind, pure, Except.pure]
  | true =>
    cases cached : symbolInfoCache.get? dataName with
    | some known =>
      cases (answers dataName known cached).symm.trans asked
      exact ⟨symbolInfoCache, by simp only [PyAds.symbolInfo, ↓reduceIte, cached], answers⟩
    | none =>
      refine ⟨symbolInfoCache.set dataName info, ?_, ?_⟩
      · simp only [PyAds.symbolInfo, ↓reduceIte, cached, same, asked, bind, Except.bind, pure, Except.pure]
      · intro other symbol known
        rw [OrderedDict.get?_set] at known
        split at known
        · rename_i equal
          cases known
          rw [← equal, asked]
        · exact answers other symbol known

end Cache

end PyAds
