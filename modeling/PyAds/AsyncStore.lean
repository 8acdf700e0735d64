import PyAds.AsyncLinearization
import PyAds.StoredAgreement

/-! Clients of one asynchronous connection that share the variables of a
handler. Their reads and writes overlap as they like; a read returns what was
last written by the calls accepted before it. -/
namespace PyAds
open SequentialObject AdvancedHandler

/-- What a call returns; `None` of a single write is an empty dictionary. -/
def ClientCall.returned (client : HandlerClient) : ClientCall → Result (OrderedDict String PyVal)
  | .writeByName dataName value plcDatatype handle cacheSymbolInfo =>
    (client.writeByName dataName value plcDatatype handle cacheSymbolInfo).1.map fun _ => OrderedDict.empty
  | .write indexGroup indexOffset value plcDatatype =>
    (client.write indexGroup indexOffset value plcDatatype).1.map fun _ => OrderedDict.empty
  | .writeListByName dataNamesAndValues cacheSymbolInfo adsSubCommands =>
    (client.writeListByName dataNamesAndValues cacheSymbolInfo adsSubCommands).1
  | .readListByName dataNames cacheSymbolInfo adsSubCommands =>
    (client.readListByName dataNames cacheSymbolInfo adsSubCommands).1

/-- A function of the worker on the connection to the handler; `aclose` queues
its own behind all others. -/
def HandlerClient.perform (client : HandlerClient) :
    Operation ClientCall → Result (OrderedDict String PyVal) × HandlerClient
  | .client call => (call.returned client, call.after client)
  | .closeConnection => (.ok OrderedDict.empty, client)

namespace HandlerClient
variable {types : Nat → ElementaryType} {client : HandlerClient}

/-- Calls that are valid for the variables and keep them readable. -/
def Good (types : Nat → ElementaryType) (client : HandlerClient) (operation : Operation ClientCall) : Prop :=
  ∀ call, operation = .client call → call.Lawful types client ∧ call.Keeps types client

theorem Good.perform (good : Good types client operation) (other : Operation ClientCall) :
    Good types (client.perform other).2 operation := by
  intro call same
  obtain ⟨lawful, keeps⟩ := good call same
  cases other with
  | client before =>
    have revalued := ClientCall.revalued_after before client
    exact ⟨(ClientCall.lawful_iff revalued call).mpr lawful, (ClientCall.keeps_iff revalued call).mpr keeps⟩
  | closeConnection => exact ⟨lawful, keeps⟩

theorem Current.perform (current : client.Current types) (good : Good types client operation) :
    (client.perform operation).2.Current types := by
  cases operation with
  | client call =>
    obtain ⟨lawful, keeps⟩ := good call rfl
    exact current.kept lawful keeps
  | closeConnection => exact current

/-- The variables stay readable, under the names that they have. -/
theorem Current.run (current : client.Current types) {operations : List (Operation ClientCall)}
    (good : ∀ operation ∈ operations, Good types client operation) :
    (run HandlerClient.perform client operations).2.Current types ∧
      Revalued client.handler (run HandlerClient.perform client operations).2.handler := by
  induction operations generalizing client with
  | nil => exact ⟨current, .refl _⟩
  | cons operation operations ih =>
    obtain ⟨first, others⟩ := List.forall_mem_cons.mp good
    obtain ⟨last, same⟩ := ih (current.perform first) fun other member => (others other member).perform operation
    refine ⟨last, Revalued.trans ?_ same⟩
    cases operation with
    | client call => exact ClientCall.revalued_after call client
    | closeConnection => exact .refl _

end HandlerClient

namespace ServedConnection
variable {types : Nat → ElementaryType} {client : HandlerClient}
  {s : ServedConnection HandlerClient ClientCall PyError (OrderedDict String PyVal)}

/-- The functions of calls with these numbers. -/
def Functions (s : ServedConnection σ ω ε ρ) (ids : List Nat) (operations : List (Operation ω)) : Prop :=
  List.Forall₂ (fun i operation => s.connection.operation? i = some operation) ids operations

/-- Where the submitted calls are valid and keep the variables readable, a
finished list read has returned the values that were last written by the calls
accepted before it and not left out, or the initial ones. -/
theorem async_reads_agree (ids : List Nat) (current : client.Current types)
    (good : ∀ i operation, s.connection.operation? i = some operation → HandlerClient.Good types client operation)
    (reached : Reaches HandlerClient.perform (fresh client) s)
    (read : s.connection.operation? i = some (.client (.readListByName
      (ids.map fun id => (client.handler.objects id).name) cacheSymbolInfo adsSubCommands)))
    (held : ∀ id ∈ ids, client.handler.Holds id) (positive : 0 < adsSubCommands)
    (finished : s.connection.future? i = some (.finished outcome)) :
    ∃ operations result, s.Functions (s.executedIds.filter (· < i)) operations ∧ outcome = .ok result ∧
      result.keys = (ids.map fun id => (client.handler.objects id).name).foldl OrderedDict.addKey [] ∧
      ∀ id ∈ ids, ∃ value, result.get? (client.handler.objects id).name = some value ∧
        PyVal.Same .plain value ((run HandlerClient.perform client operations).2.written id) := by
  obtain ⟨operations, found, same⟩ := sequential_of_reaches reached
  obtain ⟨k, place, returned⟩ := answered_executed reached finished
  -- the functions before the read leave a client whose reads agree
  have before : s.Functions (s.executedIds.filter (· < i)) (operations.take k) := by
    rw [← take_eq_filter (executedIds_growing reached) place]
    exact List.forall₂_take k found
  have function {m : Nat} {j : Nat} (there : s.executedIds[m]? = some j) :
      operations[m]? = s.connection.operation? j := by
    obtain ⟨inside, rfl⟩ := List.getElem?_eq_some_iff.mp there
    obtain ⟨lengths, each⟩ := List.forall₂_iff_get.mp found
    have bound : m < operations.length := lengths ▸ inside
    rw [List.getElem?_eq_getElem bound]
    exact (each m inside bound).symm
  have known : ∀ operation ∈ operations.take k, HandlerClient.Good types client operation := by
    intro operation member
    obtain ⟨j, -, called⟩ := Fallible.exists_of_mem_right before member
    exact good j operation called
  obtain ⟨last, revalued⟩ := current.run known
  have result := @getElem?_run _ _ _ HandlerClient.perform client operations k
  rw [same, returned, function place, read, Option.map_some] at result
  have names : (ids.map fun id => (client.handler.objects id).name) =
      ids.map fun id => ((run HandlerClient.perform client (operations.take k)).2.handler.objects id).name :=
    List.map_congr_left fun id _ => (revalued.name id).symm
  obtain ⟨values, succeeded, keys, agree⟩ := last.agrees ids cacheSymbolInfo adsSubCommands
    (fun id member => (revalued.holds_iff id).mpr (held id member)) positive
  rw [← names] at succeeded keys
  refine ⟨operations.take k, values, before, (Option.some.inj result).trans succeeded, keys, ?_⟩
  intro id member
  rw [← revalued.name id]
  exact agree id member

/-- One client writes a level, and another one reads it. -/
theorem written_level_read : ∃ s : ServedConnection HandlerClient ClientCall PyError (OrderedDict String PyVal),
    s.executedIds = [0, 1] ∧ ∃ result, s.connection.future? 1 = some (.finished (.ok result)) ∧
      ∃ value, result.get? "MAIN.level" = some value ∧ PyVal.Same .plain value (.int 7) := by
  have current := tankClient_fresh.current (fun id => carried_tankClient) fun id _ => not_misread_tank id _
  have level : tankClient.handler.Holds 0 := by decide
  have found : tankClient.addressed "MAIN.level" none = .ok 0 := tankClient_found.1
  let write : ClientCall := .writeByName "MAIN.level" (.int 7) none none true
  have good : HandlerClient.Good tankTypes tankClient (.client write) := by
    rintro call ⟨rfl⟩
    refine ⟨⟨0, level, ⟨.int 7, 7, ⟨7, rfl, by decide⟩, rfl, rfl⟩, nofun, fun _ => rfl, nofun⟩, ?_⟩
    intro id same
    cases same.symm.trans found
    exact ⟨not_misread_tank 0 _, trivial⟩
  let read : ClientCall := .readListByName ["MAIN.level"] true 1
  obtain ⟨s, reached, order, calls, outcome, finished⟩ : ∃ s, Reaches HandlerClient.perform (fresh tankClient) s ∧
      s.executedIds = [0, 1] ∧ s.connection.calls.map (·.operation) = [.client write, .client read] ∧
      ∃ outcome, s.connection.future? 1 = some (.finished outcome) := by
    have first : Reaches HandlerClient.perform (fresh tankClient) _ := reaches_answered rfl rfl rfl rfl write
    exact ⟨_, first.trans (reaches_answered rfl rfl rfl rfl read), rfl, rfl, _, rfl⟩
  have functions (i : Nat) : s.connection.operation? i = [.client write, .client read][i]? := by
    rw [← calls, List.getElem?_map]
    rfl
  have all (i : Nat) (operation : Operation ClientCall) (called : s.connection.operation? i = some operation) :
      HandlerClient.Good tankTypes tankClient operation := by
    rw [functions] at called
    rcases i with - | - | i
    · cases called
      exact good
    · cases called
      rintro call ⟨rfl⟩
      exact ⟨trivial, trivial⟩
    · cases called
  obtain ⟨operations, result, before, succeeded, -, values⟩ := async_reads_agree [0] current all reached
    (functions 1) (by simpa using level) Nat.one_pos finished
  obtain ⟨value, there, same⟩ := values 0 (List.mem_singleton.mpr rfl)
  have only : operations = [.client write] := by
    rw [order] at before
    cases before with
    | cons first others =>
      cases others
      rw [functions 0] at first
      rw [← Option.some.inj first]
  have noted : (run HandlerClient.perform tankClient operations).2.written 0 = .int 7 := by
    rw [only]
    change noteWritten (tankClient.addressed "MAIN.level" none) (.int 7) tankClient.written 0 = _
    rw [found]
    rfl
  rw [noted] at same
  exact ⟨s, order, result, succeeded ▸ finished, value, there, same⟩

end ServedConnection

end PyAds
