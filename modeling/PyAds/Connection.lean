import PyAds.StructureDef
import PyAds.SumWriteItems

/-! Reading and writing lists of variables by name. Symbol information comes
from a cache or from the PLC; a list longer than the allowed number of
sub-commands is split into slices, one sum command each. -/
namespace PyAds
open SlotSequence (groups)

abbrev StructureDefs := OrderedDict String StructureDef

/-- What the PLC answers: symbol information by name, and the reply to each
sum read, counted from 0 within one call. -/
structure Plc where
  adsGetSymbolInfo : String → Result SAdsSymbolEntry
  sumRead : Nat → List SumRequest → Result Bytes

/-! ## Symbols -/

/-- `{i: f(i) for i in data_names}` -/
def dictOf (f : String → Result β) (dataNames : List String) : Result (OrderedDict String β) := do
  let values ← dataNames.mapM f
  return OrderedDict.empty.setAll (dataNames.zip values)

/-- The symbols of the names, and the cache afterwards. -/
def resolveSymbols (adsGetSymbolInfo : String → Result SAdsSymbolEntry) (cacheSymbolInfo : Bool)
    (symbolInfoCache : DataSymbols) (dataNames : List String) : Result (DataSymbols × DataSymbols) :=
  if cacheSymbolInfo then do
    let newItems := dataNames.filter (· ∉ symbolInfoCache.keys)
    let newCache ← dictOf adsGetSymbolInfo newItems
    let symbolInfoCache := symbolInfoCache.update newCache
    let dataSymbols ← dictOf (symbolOf symbolInfoCache) dataNames
    return (dataSymbols, symbolInfoCache)
  else do
    let dataSymbols ← dictOf adsGetSymbolInfo dataNames
    return (dataSymbols, symbolInfoCache)

/-! ## Slices -/

/-- `_list_slice_generator`; the loop over `range(0, len(list_), size)` has as
many rounds as slices are needed. -/
def listSliceGenerator (list_ : List α) (size : Nat) : Result (List (List α)) :=
  if size = 0 then .error (.valueError "range() arg 3 must not be zero")
  else .ok (groups size ((list_.length + size - 1) / size) list_)

/-- `_dict_slice_generator` -/
def dictSliceGenerator (dict_ : OrderedDict String β) (size : Nat) : Result (List (OrderedDict String β)) := do
  let slices ← listSliceGenerator dict_.entries size
  return slices.map OrderedDict.empty.setAll

/-! ## `read_list_by_name` -/

/-- What `dict_from_bytes` is given as `byte_list`. -/
def byteSource : PyVal → Result ByteSource
  | .list items => do
    let data ← items.mapM PyVal.asByte
    return .bytes data
  | .str text => .ok (.text text)
  | _ => .error .typeError

def decodeStructure (value : PyVal) (structureDef : StructureDef) : Result PyVal := do
  let byteList ← byteSource value
  dictFromBytes byteList structureDef 1

/-- The loop over `structure_defs` after a sum read: bytes, or the error text
of a failed item, are replaced by a dictionary. -/
def decodeStructures : List (String × StructureDef) → OrderedDict String PyVal →
    Result (OrderedDict String PyVal)
  | [], result => .ok result
  | (dataName, structureDef) :: structureDefs, result =>
    match result.get? dataName with
    | some value => do
      let decoded ← decodeStructure value structureDef
      decodeStructures structureDefs (result.set dataName decoded)
    | none => decodeStructures structureDefs result

/-- The inner `sum_read`. -/
def sumRead (device : List SumRequest → Result Bytes) (dataSymbols : DataSymbols)
    (structureDefs : StructureDefs) (dataNames : List String) : Result (OrderedDict String PyVal) := do
  let result ← adsSumRead device dataNames dataSymbols structureDefs.keys
  decodeStructures structureDefs.entries result

/-- The loop over the slices. -/
def readSlices (read : Nat → List String → Result (OrderedDict String PyVal)) :
    List (List String) → Nat → OrderedDict String PyVal → Result (OrderedDict String PyVal)
  | [], _, returnData => .ok returnData
  | dataNamesSlice :: slices, call, returnData => do
    let part ← read call dataNamesSlice
    readSlices read slices (call + 1) (returnData.update part)

/-- Reads the names at once if they are few enough, else slice by slice. -/
def readList (read : Nat → List String → Result (OrderedDict String PyVal)) (dataNames : List String)
    (adsSubCommands : Nat) : Result (OrderedDict String PyVal) :=
  if dataNames.length ≤ adsSubCommands then read 0 dataNames
  else do
    let slices ← listSliceGenerator dataNames adsSubCommands
    readSlices read slices 0 OrderedDict.empty

/-- `read_list_by_name`: the result, and the symbol cache afterwards. -/
def readListByName (plc : Plc) (symbolInfoCache : DataSymbols) (dataNames : List String)
    (cacheSymbolInfo : Bool) (adsSubCommands : Nat) (structureDefs : StructureDefs) :
    Result (OrderedDict String PyVal) × DataSymbols :=
  match resolveSymbols plc.adsGetSymbolInfo cacheSymbolInfo symbolInfoCache dataNames with
  | .error e => (.error e, symbolInfoCache)
  | .ok (dataSymbols, symbolInfoCache) =>
    (readList (fun call => sumRead (plc.sumRead call) dataSymbols structureDefs) dataNames adsSubCommands,
      symbolInfoCache)

/-! ## `write_list_by_name` -/

/-- A device with a memory: the reply to a sum write and the memory afterwards. -/
abbrev SumWriteDevice (σ : Type) := σ → Nat → Bytes → Result Bytes × σ

/-- `adsSumWrite` against such a device, which is reached only if the buffer
can be built. -/
def sumWrite (device : SumWriteDevice σ) (dataSymbols : DataSymbols) (structuredDataNames : List String)
    (memory : σ) (dataNamesAndValues : OrderedDict String PyVal) : Result (OrderedDict String PyVal) × σ :=
  match transmittedBuffer dataNamesAndValues dataSymbols structuredDataNames with
  | .error e => (.error e, memory)
  | .ok buf =>
    let (reply, memory) := device memory dataNamesAndValues.entries.length buf
    (adsSumWrite (fun _ _ => reply) dataNamesAndValues dataSymbols structuredDataNames, memory)

/-- The loop that replaces the values of structured variables by their bytes. -/
def encodeStructures : List (String × StructureDef) → OrderedDict String PyVal →
    Result (OrderedDict String PyVal)
  | [], dataNamesAndValues => .ok dataNamesAndValues
  | (name, structureDef) :: structureDefs, dataNamesAndValues =>
    match dataNamesAndValues.get? name with
    | some value => do
      let bytes ← bytesFromDict value structureDef
      encodeStructures structureDefs (dataNamesAndValues.set name (.ofBytes bytes))
    | none => .error (.keyError name)

/-- The loop over the slices. -/
def writeSlices (write : σ → OrderedDict String PyVal → Result (OrderedDict String PyVal) × σ) :
    List (OrderedDict String PyVal) → σ → OrderedDict String PyVal → Result (OrderedDict String PyVal) × σ
  | [], memory, returnData => (.ok returnData, memory)
  | dataNamesSlice :: slices, memory, returnData =>
    match write memory dataNamesSlice with
    | (.error e, memory) => (.error e, memory)
    | (.ok part, memory) => writeSlices write slices memory (returnData.update part)

/-- Writes the values at once if they are few enough, else slice by slice. -/
def writeList (write : σ → OrderedDict String PyVal → Result (OrderedDict String PyVal) × σ)
    (memory : σ) (dataNamesAndValues : OrderedDict String PyVal) (adsSubCommands : Nat) :
    Result (OrderedDict String PyVal) × σ :=
  if dataNamesAndValues.entries.length ≤ adsSubCommands then write memory dataNamesAndValues
  else
    match dictSliceGenerator dataNamesAndValues adsSubCommands with
    | .error e => (.error e, memory)
    | .ok slices => writeSlices write slices memory OrderedDict.empty

/-- `write_list_by_name`: the result, and the memory of the device afterwards. -/
def writeListByName (adsGetSymbolInfo : String → Result SAdsSymbolEntry) (device : SumWriteDevice σ)
    (memory : σ) (symbolInfoCache : DataSymbols) (dataNamesAndValues : OrderedDict String PyVal)
    (cacheSymbolInfo : Bool) (adsSubCommands : Nat) (structureDefs : StructureDefs) :
    Result (OrderedDict String PyVal) × σ :=
  match resolveSymbols adsGetSymbolInfo cacheSymbolInfo symbolInfoCache dataNamesAndValues.keys with
  | .error e => (.error e, memory)
  | .ok (dataSymbols, _) =>
    match encodeStructures structureDefs.entries dataNamesAndValues with
    | .error e => (.error e, memory)
    | .ok dataNamesAndValues =>
      writeList (sumWrite device dataSymbols structureDefs.keys) memory dataNamesAndValues adsSubCommands

end PyAds
