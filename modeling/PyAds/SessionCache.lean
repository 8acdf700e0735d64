import PyAds.ListRead
import PyAds.PlainRead
import PyAds.Sessions

/-! Symbol information that outlives a session. The cache is filled by the
operations that use it and never emptied, while the address of the connection
can change between two sessions. -/
namespace PyAds
open Runs Fallible

/-- The symbol tables of the devices, by address. -/
abbrev Devices := AmsAddr → String → Option SAdsSymbolEntry

/-- `adsGetSymbolInfo` at one device; a request can fail before it gets there. -/
def Devices.adsGetSymbolInfo (devices : Devices) (faults : String → Option PyError) (adr : AmsAddr)
    (dataName : String) : Result SAdsSymbolEntry :=
  match faults dataName, devices adr dataName with
  | some e, _ => .error e
  | none, some info => .ok info
  | none, none => .error (.adsError 1808)

theorem Devices.adsGetSymbolInfo_eq_ok {devices : Devices} {adr : AmsAddr}
    (found : devices.adsGetSymbolInfo faults adr dataName = .ok info) : devices adr dataName = some info := by
  unfold adsGetSymbolInfo at found
  split at found
  · cases found
  · rename_i known
    cases found
    exact known
  · cases found

/-! ## Operations -/

/-- The symbol information of one name, as `_query_plc_datatype_from_name` and
`_get_symbol_info` find it, and the cache afterwards. -/
def cachedSymbolInfo (adsGetSymbolInfo : String → Result SAdsSymbolEntry) (symbolInfoCache : DataSymbols)
    (dataName : String) : Result (SAdsSymbolEntry × DataSymbols) :=
  match symbolInfoCache.get? dataName with
  | some info => .ok (info, symbolInfoCache)
  | none => do
    let info ← adsGetSymbolInfo dataName
    return (info, symbolInfoCache.set dataName info)

theorem symbolInfo_cached (plc : NamePlc) (symbolInfoCache : DataSymbols) (dataName : String) :
    symbolInfo plc true symbolInfoCache dataName =
      cachedSymbolInfo plc.adsGetSymbolInfo symbolInfoCache dataName := rfl

/-- The operations that take symbol information from the cache: reading and
writing one variable, reading and writing a list, and a call of a method. -/
inductive SymbolUse where
  | byName (dataName : String)
  | list (dataNames : List String)
  | rpc (qualifiedName : String)

namespace SymbolUse

def names : SymbolUse → List String
  | .byName name | .rpc name => [name]
  | .list dataNames => dataNames

/-- Without a port the operation returns, or the library refuses what it asks. -/
def reaches (session : Session) : SymbolUse → Bool
  | .byName _ | .list _ => session.port.any (· != 0)
  | .rpc _ => session.isOpen && session.port.any (· != 0)

/-- The symbols that the operation goes on with, and the cache afterwards. -/
def resolve (adsGetSymbolInfo : String → Result SAdsSymbolEntry) (symbolInfoCache : DataSymbols) :
    SymbolUse → Result (DataSymbols × DataSymbols)
  | .byName name | .rpc name => do
    let (info, symbolInfoCache) ← cachedSymbolInfo adsGetSymbolInfo symbolInfoCache name
    return (OrderedDict.empty.set name info, symbolInfoCache)
  | .list dataNames => resolveSymbols adsGetSymbolInfo true symbolInfoCache dataNames

end SymbolUse

/-! ## Sessions -/

/-- A session with what its cache was filled from: the names that have been
looked up, each with the address of the device. -/
structure CachingSession extends Session where
  lookups : List (String × AmsAddr)

/-- A call on the connection. An operation comes with the requests for symbol
information that fail, and the names that its own requests get to. -/
inductive CacheCall where
  | session (call : SessionCall)
  | setAmsNetid (value : String)
  | setAmsPort (value : Int)
  | operate (use : SymbolUse) (faults : String → Option PyError) (requested : List String)

namespace Session

/-- The setter of `ams_netid` -/
def setAmsNetid (value : String) (session : Session) : Result Unit × Session :=
  if session.isOpen then (.error .attributeError, session)
  else
    match netIdOfText value with
    | .error e => (.error e, session)
    | .ok netId => (.ok (), { session with adr := { session.adr with netId := netId } })

/-- The setter of `ams_port` -/
def setAmsPort (value : Int) (session : Session) : Result Unit × Session :=
  if session.isOpen then (.error .attributeError, session)
  else (.ok (), { session with adr := { session.adr with port := portOfInt value } })

end Session

namespace CachingSession

/-- The symbols of an operation, from the cache and the device addressed. -/
def symbolsFor (devices : Devices) (faults : String → Option PyError) (session : CachingSession)
    (use : SymbolUse) : Result (DataSymbols × DataSymbols) :=
  use.resolve (devices.adsGetSymbolInfo faults session.adr) session.symbolInfoCache

/-- An operation fills the cache with all names that it looks up, or with none. -/
def afterUse (devices : Devices) (faults : String → Option PyError) (session : CachingSession) (use : SymbolUse) :
    CachingSession :=
  if use.reaches session.toSession then
    match session.symbolsFor devices faults use with
    | .error _ => session
    | .ok (_, symbolInfoCache) =>
      let newItems := use.names.filter (· ∉ session.symbolInfoCache.keys)
      { session with
        symbolInfoCache := symbolInfoCache
        lookups := session.lookups ++ newItems.map (·, session.adr) }
  else session

end CachingSession

def CacheCall.after (linux : Bool) (devices : Devices) (session : CachingSession) : CacheCall → CachingSession
  | .session call => { session with toSession := call.after linux session.toSession }
  | .setAmsNetid value => { session with toSession := (session.setAmsNetid value).2 }
  | .setAmsPort value => { session with toSession := (session.setAmsPort value).2 }
  | .operate use faults _ => session.afterUse devices faults use

/-- What the call requests with symbol information agrees with the table of
the device that it addresses. -/
def CacheCall.UsesOwn (devices : Devices) (session : CachingSession) : CacheCall → Prop
  | .operate use faults requested => use.reaches session.toSession = true →
    ∀ symbols later, session.symbolsFor devices faults use = .ok (symbols, later) →
      ∀ dataName ∈ requested, ∀ info, symbols.get? dataName = some info →
        devices session.adr dataName = some info
  | _ => True

/-- Unless one of its lookups fails, each name that the call requests and that
an earlier one has looked up is described by the device looked up then as it is
by the device addressed now. -/
def CacheCall.Agrees (devices : Devices) (session : CachingSession) : CacheCall → Prop
  | .operate use faults requested => use.reaches session.toSession = true →
    (∀ dataName ∈ use.names, dataName ∉ session.lookups.map Prod.fst →
      ∃ info, devices.adsGetSymbolInfo faults session.adr dataName = .ok info) →
    ∀ dataName ∈ use.names, dataName ∈ requested →
      ∀ adr, (dataName, adr) ∈ session.lookups → devices adr dataName = devices session.adr dataName
  | _ => True

/-! ## Resolving symbols -/

section Resolve
variable {adsGetSymbolInfo : String → Result SAdsSymbolEntry} {symbolInfoCache : DataSymbols}

/-- What the cache holds of a name after the operation has resolved it. -/
def resolved (adsGetSymbolInfo : String → Result SAdsSymbolEntry) (symbolInfoCache : DataSymbols)
    (dataNames : List String) (dataName : String) : Option SAdsSymbolEntry :=
  (symbolInfoCache.get? dataName).or (if dataName ∈ dataNames then (adsGetSymbolInfo dataName).toOption else none)

theorem cachedSymbolInfo_eq_ok (found : cachedSymbolInfo adsGetSymbolInfo symbolInfoCache dataName = .ok (info, later)) :
    later.get? dataName = some info ∧
      ∀ other, later.get? other = resolved adsGetSymbolInfo symbolInfoCache [dataName] other := by
  unfold cachedSymbolInfo at found
  cases known : symbolInfoCache.get? dataName with
  | some cached =>
    rw [known] at found
    cases found
    refine ⟨known, ?_⟩
    intro other
    by_cases same : other = dataName
    · simp [resolved, same, known]
    · simp [resolved, same]
  | none =>
    rw [known] at found
    obtain ⟨info, asked, same⟩ := bind_eq_ok.mp found
    cases same
    refine ⟨by simp [OrderedDict.get?_set], ?_⟩
    intro other
    by_cases same : other = dataName
    · simp [resolved, same, known, OrderedDict.get?_set, asked, Except.toOption]
    · simp [resolved, same, OrderedDict.get?_set, Ne.symm same]

theorem resolveSymbols_eq_ok (found : resolveSymbols adsGetSymbolInfo true symbolInfoCache dataNames = .ok (symbols, later)) :
    (∀ other, later.get? other = resolved adsGetSymbolInfo symbolInfoCache dataNames other) ∧
      dictOf (symbolOf later) dataNames = .ok symbols := by
  obtain ⟨newCache, asked, rest⟩ := bind_eq_ok.mp found
  obtain ⟨dataSymbols, built, same⟩ := bind_eq_ok.mp rest
  cases same
  refine ⟨?_, built⟩
  intro other
  obtain ⟨keys, each⟩ := dictOf_eq_ok.mp asked
  have new : other ∈ newCache.keys ↔ other ∈ dataNames ∧ other ∉ symbolInfoCache.keys := by
    rw [keys, OrderedDict.mem_foldl_addKey]
    simp
  rw [OrderedDict.get?_update, resolved]
  by_cases lookedUp : other ∈ dataNames ∧ other ∉ symbolInfoCache.keys
  · obtain ⟨info, answered, kept⟩ := each other (by simpa using lookedUp)
    rw [kept, OrderedDict.get?_eq_none_iff.mpr lookedUp.2, if_pos lookedUp.1, answered]
    rfl
  · rw [OrderedDict.get?_eq_none_iff.mpr (mt new.mp lookedUp), Option.none_or]
    cases known : symbolInfoCache.get? other with
    | some info => rfl
    | none =>
      have unnamed : other ∉ dataNames := fun named => lookedUp ⟨named, OrderedDict.get?_eq_none_iff.mp known⟩
      rw [if_neg unnamed]
      rfl

theorem resolve_eq_ok {use : SymbolUse} (found : use.resolve adsGetSymbolInfo symbolInfoCache = .ok (symbols, later)) :
    (∀ other, later.get? other = resolved adsGetSymbolInfo symbolInfoCache use.names other) ∧
      (∀ dataName, dataName ∈ symbols.keys ↔ dataName ∈ use.names) ∧
      ∀ dataName ∈ use.names, symbols.get? dataName = later.get? dataName := by
  have single {dataName : String} {info : SAdsSymbolEntry}
      (asked : cachedSymbolInfo adsGetSymbolInfo symbolInfoCache dataName = .ok (info, later)) :
      (∀ other, later.get? other = resolved adsGetSymbolInfo symbolInfoCache [dataName] other) ∧
        (∀ name, name ∈ (OrderedDict.empty.set dataName info).keys ↔ name ∈ [dataName]) ∧
        ∀ name ∈ [dataName], (OrderedDict.empty.set dataName info).get? name = later.get? name := by
    obtain ⟨kept, others⟩ := cachedSymbolInfo_eq_ok asked
    refine ⟨others, ?_, ?_⟩
    · simp [OrderedDict.keys_set, OrderedDict.mem_addKey]
    · simp [OrderedDict.get?_set, kept]
  cases use with
  | byName dataName =>
    obtain ⟨⟨info, cache⟩, asked, same⟩ := bind_eq_ok.mp found
    cases same
    exact single asked
  | rpc qualifiedName =>
    obtain ⟨⟨info, cache⟩, asked, same⟩ := bind_eq_ok.mp found
    cases same
    exact single asked
  | list dataNames =>
    obtain ⟨others, built⟩ := resolveSymbols_eq_ok found
    obtain ⟨keys, each⟩ := dictOf_eq_ok.mp built
    refine ⟨others, ?_, ?_⟩
    · intro dataName
      rw [keys, OrderedDict.mem_foldl_addKey]
      simp [SymbolUse.names]
    · intro dataName named
      obtain ⟨info, known, held⟩ := each dataName named
      rw [held, symbolOf_eq_ok.mp known]

theorem exists_dictOf_iff {f : String → Result β} {dataNames : List String} :
    (∃ result, dictOf f dataNames = .ok result) ↔ ∀ dataName ∈ dataNames, ∃ value, f dataName = .ok value := by
  rw [← exists_mapM_eq_ok]
  constructor
  · rintro ⟨result, built⟩
    obtain ⟨values, mapped, _⟩ := bind_eq_ok.mp built
    exact ⟨values, mapped⟩
  · rintro ⟨values, mapped⟩
    exact ⟨_, bind_eq_ok.mpr ⟨values, mapped, rfl⟩⟩

theorem exists_resolveSymbols_iff : (∃ result, resolveSymbols adsGetSymbolInfo true symbolInfoCache dataNames = .ok result) ↔
    ∀ dataName ∈ dataNames, dataName ∉ symbolInfoCache.keys → ∃ info, adsGetSymbolInfo dataName = .ok info := by
  constructor
  · rintro ⟨result, found⟩ dataName named new
    obtain ⟨newCache, asked, _⟩ := bind_eq_ok.mp found
    exact exists_dictOf_iff.mp ⟨newCache, asked⟩ dataName (by simp [named, new])
  · intro answered
    obtain ⟨newCache, asked⟩ : ∃ result, dictOf adsGetSymbolInfo (dataNames.filter (· ∉ symbolInfoCache.keys)) = .ok result := by
      apply exists_dictOf_iff.mpr
      intro dataName new
      rw [List.mem_filter, decide_eq_true_eq] at new
      exact answered dataName new.1 new.2
    obtain ⟨dataSymbols, built⟩ : ∃ result, dictOf (symbolOf (symbolInfoCache.update newCache)) dataNames = .ok result := by
      apply exists_dictOf_iff.mpr
      intro dataName named
      have present : dataName ∈ (symbolInfoCache.update newCache).keys := by
        rw [OrderedDict.keys_update, (dictOf_eq_ok.mp asked).1, OrderedDict.mem_foldl_addKey]
        simp only [OrderedDict.mem_foldl_addKey, List.mem_filter, decide_eq_true_eq, List.not_mem_nil, false_or, named,
          true_and]
        exact Classical.em _
      cases known : (symbolInfoCache.update newCache).get? dataName with
      | some info => exact ⟨info, symbolOf_eq_ok.mpr known⟩
      | none => exact absurd present (OrderedDict.get?_eq_none_iff.mp known)
    exact ⟨_, bind_eq_ok.mpr ⟨newCache, asked, bind_eq_ok.mpr ⟨dataSymbols, built, rfl⟩⟩⟩

theorem exists_cachedSymbolInfo_iff : (∃ result, cachedSymbolInfo adsGetSymbolInfo symbolInfoCache dataName = .ok result) ↔
    (dataName ∉ symbolInfoCache.keys → ∃ info, adsGetSymbolInfo dataName = .ok info) := by
  rw [← OrderedDict.get?_eq_none_iff]
  unfold cachedSymbolInfo
  cases known : symbolInfoCache.get? dataName with
  | some info => simp
  | none => simp [bind_eq_ok, pure, Except.pure]

/-- An operation resolves its symbols exactly if every name that is not in the
cache is found. -/
theorem exists_resolve_iff {use : SymbolUse} : (∃ result, use.resolve adsGetSymbolInfo symbolInfoCache = .ok result) ↔
    ∀ dataName ∈ use.names, dataName ∉ symbolInfoCache.keys → ∃ info, adsGetSymbolInfo dataName = .ok info := by
  have single (dataName : String) : (∃ result, (do
        let (info, cache) ← cachedSymbolInfo adsGetSymbolInfo symbolInfoCache dataName
        return (OrderedDict.empty.set dataName info, cache) : Result (DataSymbols × DataSymbols)) = .ok result) ↔
      ∀ name ∈ [dataName], name ∉ symbolInfoCache.keys → ∃ info, adsGetSymbolInfo name = .ok info := by
    rw [List.forall_mem_singleton, ← exists_cachedSymbolInfo_iff]
    simp only [bind_eq_ok, pure, Except.pure, Except.ok.injEq, Prod.exists]
    constructor
    · rintro ⟨_, _, info, cache, found, _⟩
      exact ⟨info, cache, found⟩
    · rintro ⟨info, cache, found⟩
      exact ⟨_, _, info, cache, found, rfl⟩
  cases use with
  | byName dataName => exact single dataName
  | rpc qualifiedName => exact single qualifiedName
  | list dataNames => exact exists_resolveSymbols_iff

end Resolve

/-! ## The cache and its lookups -/

/-- The cache holds the names that have been looked up, each as the device
described it. -/
structure CachingSession.Recorded (devices : Devices) (session : CachingSession) : Prop where
  cached : ∀ dataName info, session.symbolInfoCache.get? dataName = some info →
    ∃ adr, (dataName, adr) ∈ session.lookups
  logged : ∀ dataName adr, (dataName, adr) ∈ session.lookups →
    ∃ info, session.symbolInfoCache.get? dataName = some info ∧ devices adr dataName = some info

namespace CachingSession

theorem Recorded.new (devices : Devices) (created : Connection.new amsNetId amsNetPort ipAddress = .ok connection) :
    Recorded devices ⟨⟨connection, 0⟩, []⟩ := by
  obtain ⟨adr, _, rest⟩ := bind_eq_ok.mp created
  obtain ⟨ip, _, last⟩ := bind_eq_ok.mp rest
  cases last
  refine ⟨?_, by simp⟩
  intro dataName info held
  cases held

theorem Recorded.known_iff {session : CachingSession} (recorded : session.Recorded devices) (dataName : String) :
    dataName ∈ session.lookups.map Prod.fst ↔ dataName ∈ session.symbolInfoCache.keys := by
  constructor
  · intro lookedUp
    obtain ⟨⟨name, adr⟩, logged, rfl⟩ := List.mem_map.mp lookedUp
    obtain ⟨info, held, _⟩ := recorded.logged name adr logged
    exact OrderedDict.mem_keys_of_get? held
  · intro present
    cases held : session.symbolInfoCache.get? dataName with
    | none => exact absurd present (OrderedDict.get?_eq_none_iff.mp held)
    | some info =>
      obtain ⟨adr, logged⟩ := recorded.cached dataName info held
      exact List.mem_map.mpr ⟨_, logged, rfl⟩

/-- An operation adds the entries of the device addressed, and logs them. -/
theorem Recorded.afterUse {session : CachingSession} (recorded : session.Recorded devices)
    (faults : String → Option PyError) (use : SymbolUse) : (session.afterUse devices faults use).Recorded devices := by
  unfold CachingSession.afterUse
  split
  · cases found : session.symbolsFor devices faults use with
    | error e => exact recorded
    | ok result =>
      obtain ⟨symbols, later⟩ := result
      obtain ⟨entries, named, same⟩ := resolve_eq_ok found
      constructor
      · intro dataName info held
        dsimp only at held ⊢
        rw [entries, resolved] at held
        cases known : session.symbolInfoCache.get? dataName with
        | some cached =>
          obtain ⟨adr, logged⟩ := recorded.cached dataName cached known
          exact ⟨adr, List.mem_append_left _ logged⟩
        | none =>
          rw [known, Option.none_or] at held
          split at held
          · rename_i member
            refine ⟨session.adr, List.mem_append_right _ (List.mem_map.mpr ⟨dataName, ?_, rfl⟩)⟩
            simpa [member] using OrderedDict.get?_eq_none_iff.mp known
          · cases held
      · intro dataName adr logged
        dsimp only at logged ⊢
        rw [entries, resolved]
        cases List.mem_append.mp logged with
        | inl before =>
          obtain ⟨info, held, described⟩ := recorded.logged dataName adr before
          exact ⟨info, by rw [held]; rfl, described⟩
        | inr now =>
          obtain ⟨name, new, same⟩ := List.mem_map.mp now
          cases same
          rw [List.mem_filter, decide_eq_true_eq] at new
          obtain ⟨info, answered⟩ := exists_resolve_iff.mp ⟨_, found⟩ dataName new.1 new.2
          refine ⟨info, ?_, Devices.adsGetSymbolInfo_eq_ok answered⟩
          rw [OrderedDict.get?_eq_none_iff.mpr new.2, Option.none_or, if_pos new.1, answered]
          rfl
  · exact recorded

end CachingSession

/-! ## Calls that leave the cache alone -/

namespace Session

theorem symbolInfoCache_discover (router : Router) (session : Session) :
    (session.discover router).2.symbolInfoCache = session.symbolInfoCache := by
  unfold discover
  cases session.amsNetId with
  | some known => rfl
  | none =>
    cases router.adsGetNetIdForPLC session.ipAddress with
    | error e => rfl
    | ok amsNetId =>
      dsimp only
      cases AmsAddr.new (some amsNetId) session.amsNetPort <;> rfl

theorem symbolInfoCache_addRoute (linux : Bool) (router : Router) (port : Int) (session : Session) :
    (session.addRoute linux router port).2.symbolInfoCache = session.symbolInfoCache := by
  unfold addRoute
  cases linux with
  | false => rfl
  | true =>
    cases router.adsAddRoute session.adr.netId session.ipAddress with
    | ok _ => rfl
    | error e =>
      simp only [↓reduceIte, rollBack]
      split <;> rfl

theorem symbolInfoCache_open (linux : Bool) (router : Router) (session : Session) :
    (session.open_ linux router).2.symbolInfoCache = session.symbolInfoCache := by
  unfold open_
  cases session.isOpen with
  | true => rfl
  | false =>
    have prepared := symbolInfoCache_discover router session
    cases found : session.discover router with
    | mk answer discovered =>
      rw [found] at prepared
      cases answer with
      | error e => exact prepared
      | ok _ =>
        simp only [Bool.false_eq_true, ↓reduceIte, connect]
        cases router.adsPortOpenEx with
        | error e => exact prepared
        | ok port => exact (symbolInfoCache_addRoute linux router port _).trans prepared

theorem symbolInfoCache_close (router : Router) (session : Session) :
    (session.close router).2.symbolInfoCache = session.symbolInfoCache := by
  unfold close
  cases session.isOpen with
  | false => rfl
  | true =>
    cases session.port with
    | none => rfl
    | some port =>
      simp only [↓reduceIte]
      split <;> rfl

theorem symbolInfoCache_setAmsNetid (value : String) (session : Session) :
    (session.setAmsNetid value).2.symbolInfoCache = session.symbolInfoCache := by
  unfold setAmsNetid
  cases session.isOpen with
  | true => rfl
  | false => cases netIdOfText value <;> rfl

theorem symbolInfoCache_setAmsPort (value : Int) (session : Session) :
    (session.setAmsPort value).2.symbolInfoCache = session.symbolInfoCache := by
  unfold setAmsPort
  cases session.isOpen <;> rfl

end Session

/-! ## Runs -/

namespace CachingSession

theorem Recorded.of_cache {session later : CachingSession} (recorded : session.Recorded devices)
    (cache : later.symbolInfoCache = session.symbolInfoCache) (lookups : later.lookups = session.lookups) :
    later.Recorded devices := by
  constructor
  · rw [cache, lookups]
    exact recorded.cached
  · rw [cache, lookups]
    exact recorded.logged

theorem Recorded.after {session : CachingSession} (recorded : session.Recorded devices) (linux : Bool)
    (call : CacheCall) : (call.after linux devices session).Recorded devices := by
  cases call with
  | session call =>
    cases call with
    | open_ router => exact recorded.of_cache (Session.symbolInfoCache_open linux router session.toSession) rfl
    | close router => exact recorded.of_cache (Session.symbolInfoCache_close router session.toSession) rfl
  | setAmsNetid value => exact recorded.of_cache (Session.symbolInfoCache_setAmsNetid value session.toSession) rfl
  | setAmsPort value => exact recorded.of_cache (Session.symbolInfoCache_setAmsPort value session.toSession) rfl
  | operate use faults requested => exact recorded.afterUse faults use

/-- A call uses the information of the device addressed exactly if the devices
looked up before describe its names as this one does. -/
theorem Recorded.usesOwn_iff {session : CachingSession} (recorded : session.Recorded devices) (call : CacheCall) :
    call.UsesOwn devices session ↔ call.Agrees devices session := by
  cases call with
  | session call => exact Iff.rfl
  | setAmsNetid value => exact Iff.rfl
  | setAmsPort value => exact Iff.rfl
  | operate use faults requested =>
    apply imp_congr_right
    intro reaches
    simp only [recorded.known_iff]
    rw [← @exists_resolve_iff _ _ use]
    constructor
    · rintro own ⟨⟨symbols, later⟩, found⟩ dataName named used adr logged
      obtain ⟨entries, _, same⟩ := resolve_eq_ok found
      obtain ⟨info, held, described⟩ := recorded.logged dataName adr logged
      have taken : symbols.get? dataName = some info := by rw [same dataName named, entries, resolved, held]; rfl
      rw [described, own symbols later found dataName used info taken]
    · rintro agrees symbols later found dataName used info taken
      obtain ⟨entries, keys, same⟩ := resolve_eq_ok found
      have named : dataName ∈ use.names :=
        (keys dataName).mp (OrderedDict.mem_keys_of_get? taken)
      rw [same dataName named, entries, resolved] at taken
      cases held : session.symbolInfoCache.get? dataName with
      | some cached =>
        obtain ⟨adr, logged⟩ := recorded.cached dataName cached held
        obtain ⟨entry, known, described⟩ := recorded.logged dataName adr logged
        rw [held] at taken known
        cases taken
        cases known
        rw [← agrees ⟨_, found⟩ dataName named used adr logged, described]
      | none =>
        rw [held, Option.none_or, if_pos named] at taken
        cases answered : devices.adsGetSymbolInfo faults session.adr dataName with
        | error e =>
          rw [answered] at taken
          cases taken
        | ok entry =>
          rw [answered] at taken
          cases taken
          exact Devices.adsGetSymbolInfo_eq_ok answered

end CachingSession

/-- Over a run of calls, each request uses the symbol information of the device
that it addresses exactly if no name is used that has been looked up at another
device and is described differently there. -/
theorem symbols_own_iff {session : CachingSession} (recorded : session.Recorded devices) (linux : Bool)
    (calls : List CacheCall) :
    Along (CacheCall.after linux devices) (CacheCall.UsesOwn devices) session calls ↔
      Along (CacheCall.after linux devices) (CacheCall.Agrees devices) session calls := by
  have same (session : CachingSession) (call : CacheCall) (recorded : session.Recorded devices) (_ : True) :
      call.UsesOwn devices session ↔ call.Agrees devices session := recorded.usesOwn_iff call
  have kept (session : CachingSession) (call : CacheCall) (recorded : session.Recorded devices) (_ : True)
      (_ : call.Agrees devices session) : (call.after linux devices session).Recorded devices :=
    recorded.after linux call
  exact along_iff same kept recorded along_true

/-- Two tasks of one controller, of which only the first describes its level at
the offset 0. -/
def tasks : Devices := fun adr dataName =>
  if dataName = "MAIN.level" then some ⟨0x4020, if adr.port = 851 then 0 else 64, 2, 18, "INT".toList⟩ else none

def noFaults : String → Option PyError := fun _ => none

/-- Both tasks are asked, the second one with another name. -/
theorem separate_names_own : Along (CacheCall.after true tasks) (CacheCall.UsesOwn tasks) ⟨tankSession, []⟩
    [.session (.open_ (answering 30000 0 0)), .operate (.byName "MAIN.level") noFaults ["MAIN.level"],
     .operate (.list ["MAIN.level"]) noFaults ["MAIN.level"], .session (.close (answering 0 0 0)), .setAmsPort 852,
     .session (.open_ (answering 30001 0 0)), .operate (.list ["MAIN.speed"]) noFaults []] := by
  apply (symbols_own_iff (CachingSession.Recorded.new tasks tankSession_new) true _).mpr
  refine ⟨trivial, ?_, ?_, trivial, trivial, trivial, ?_, trivial⟩
  · intro _ _ dataName _ _ adr logged
    cases logged
  · intro _ _ dataName _ _ adr logged
    cases List.mem_singleton.mp logged
    rfl
  · intro _ _ dataName _ used
    cases used

/-- The second task is written at the offset that the first one has told. -/
theorem second_task_written_amiss : ¬ Along (CacheCall.after true tasks) (CacheCall.UsesOwn tasks) ⟨tankSession, []⟩
    [.session (.open_ (answering 30000 0 0)), .operate (.byName "MAIN.level") noFaults ["MAIN.level"],
     .session (.close (answering 0 0 0)), .setAmsPort 852, .session (.open_ (answering 30001 0 0)),
     .operate (.list ["MAIN.level"]) noFaults ["MAIN.level"]] := by
  rintro ⟨_, _, _, _, _, own, _⟩
  have described := own rfl _ _ rfl "MAIN.level" (by simp) _ rfl
  cases described

end PyAds
