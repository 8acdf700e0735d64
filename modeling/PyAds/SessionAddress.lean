import PyAds.SessionCache

/-! The address of a connection. The constructor, two setters and the discovery
in `open` write it, in any order between two sessions; the last assignment is
what the requests and the route should go by. -/
namespace PyAds
open Runs

/-! ## What has been assigned -/

/-- The assignments of one component of the address: the last one, and the one
that a discovery has replaced, until the next. -/
structure Assigned (α : Type) where
  last : Option α
  replaced : Option α

namespace Assigned
variable {α : Type}

def never : Assigned α := ⟨none, none⟩

def assign (value : α) : Assigned α := ⟨some value, none⟩

def discover (assigned : Assigned α) : Assigned α := ⟨assigned.last, assigned.last⟩

/-- The value that a component has: the one assigned last, unless a discovery
has put back what is used without an assignment. -/
structure Kept (assigned : Assigned α) (unassigned current : α) : Prop where
  value : current = if assigned.replaced.isSome then unassigned else assigned.last.getD unassigned
  same : ∀ value ∈ assigned.replaced, assigned.last = some value

theorem kept_never (unassigned : α) : never.Kept unassigned unassigned := ⟨rfl, by simp [never]⟩

theorem kept_assign (unassigned value : α) : (assign value).Kept unassigned value := ⟨rfl, by simp [assign]⟩

theorem kept_discover (assigned : Assigned α) (unassigned : α) : assigned.discover.Kept unassigned unassigned := by
  refine ⟨?_, fun value member => member⟩
  cases last : assigned.last <;> simp [discover, last]

/-- A component has the value assigned last exactly if a discovery has replaced
no other. -/
theorem Kept.last_iff {assigned : Assigned α} (kept : assigned.Kept unassigned current) :
    current = assigned.last.getD unassigned ↔ ∀ value ∈ assigned.replaced, value = unassigned := by
  cases replaced : assigned.replaced with
  | none => simp [kept.value, replaced]
  | some value =>
    have last := kept.same value (by simp [replaced])
    simp [kept.value, replaced, last, eq_comm]

end Assigned

/-! ## Calls -/

/-- A session with the assignments made so far, and the net id of the route
that its last `open` has added. -/
structure AssignedSession extends CachingSession where
  netid : Assigned NetId
  amsPort : Assigned UInt16
  route : Option NetId

/-- The net id that a connection uses without an assignment: the constructor's
or the discovered one, zero as long as there is neither. -/
def Connection.unassignedNetid (connection : Connection) : NetId :=
  (connection.amsNetId.bind fun amsNetId => (netIdOfText amsNetId).toOption).getD (Vector.replicate 6 0)

def Connection.unassignedPort (connection : Connection) : UInt16 := connection.amsNetPort.elim 0 portOfInt

/-- The net id of the route that `open` adds. -/
def Session.routeAdded (linux : Bool) (router : Router) (session : Session) : Option NetId :=
  if linux && !session.isOpen then
    match session.discover router with
    | (.error _, _) => none
    | (.ok (), session) => do
      let _ ← router.adsPortOpenEx.toOption
      let _ ← (router.adsAddRoute session.adr.netId session.ipAddress).toOption
      return session.adr.netId
  else none

namespace AssignedSession

def new (connection : Connection) : AssignedSession := ⟨⟨⟨connection, 0⟩, []⟩, .never, .never, none⟩

/-- The records after a discovery that has replaced the address. -/
def discovered (router : Router) (session : AssignedSession) : AssignedSession :=
  if session.isOpen = false ∧ session.amsNetId = none ∧ (session.discover router).2.amsNetId ≠ none then
    { session with netid := session.netid.discover, amsPort := session.amsPort.discover }
  else session

end AssignedSession

/-- The records that a call changes. -/
def CacheCall.recorded (linux : Bool) (session : AssignedSession) : CacheCall → AssignedSession
  | .session (.open_ router) =>
    { session.discovered router with route := (session.routeAdded linux router).or session.route }
  | .session (.close _) => session
  | .setAmsNetid value =>
    if session.isOpen then session
    else
      match netIdOfText value with
      | .error _ => session
      | .ok netId => { session with netid := .assign netId }
  | .setAmsPort value => if session.isOpen then session else { session with amsPort := .assign (portOfInt value) }
  | .operate .. => session

def CacheCall.afterAssigned (linux : Bool) (devices : Devices) (session : AssignedSession) (call : CacheCall) :
    AssignedSession :=
  { call.recorded linux session with toCachingSession := call.after linux devices session.toCachingSession }

namespace AssignedSession

/-- While the connection is open, its requests and its route use the values
assigned last. -/
def UsesAssigned (linux : Bool) (session : AssignedSession) : Prop :=
  session.isOpen = true →
    session.adr = ⟨session.netid.last.getD session.unassignedNetid, session.amsPort.last.getD session.unassignedPort⟩ ∧
      (linux = true → session.route = some (session.netid.last.getD session.unassignedNetid))

end AssignedSession

/-- When `open` completes, whatever had been assigned at the discovery (now or
in an earlier call) has been assigned again, or is what the discovery put in
its place. -/
def CacheCall.Restores (linux : Bool) (session : AssignedSession) : CacheCall → Prop
  | .session (.open_ router) => session.isOpen = false →
    ∀ prepared, session.discover router = (.ok (), prepared) → router.portOpenEx ≠ 0 →
      (linux = true → router.addRoute prepared.adr.netId prepared.ipAddress = 0) →
      (∀ netId ∈ (session.discovered router).netid.replaced, netId = prepared.unassignedNetid) ∧
        ∀ port ∈ (session.discovered router).amsPort.replaced, port = prepared.unassignedPort
  | _ => True

/-! ## Discovery -/

theorem adsGetNetIdForPLC_eq_ok {router : Router} (found : router.adsGetNetIdForPLC ipAddress = .ok amsNetId) :
    ∃ netId, netIdOfText amsNetId = .ok netId := by
  obtain ⟨data, _, answered⟩ := Fallible.bind_eq_ok.mp found
  dsimp only at answered
  split at answered
  · cases answered
  · split at answered
    · split at answered
      · rename_i six
        cases answered
        exact ⟨_, netIdOfText_dotted six⟩
      · cases answered
    · cases answered

namespace Session

/-- A discovery puts the address together anew, or leaves the connection as it is. -/
theorem discover_cases (router : Router) (session : Session) :
    (session.discover router).2 = session ∨
      session.amsNetId = none ∧ (session.discover router).2.amsNetId ≠ none ∧
        (session.discover router).2.isOpen = session.isOpen ∧
        (session.discover router).2.adr =
          ⟨(session.discover router).2.unassignedNetid, (session.discover router).2.unassignedPort⟩ := by
  unfold discover
  cases named : session.amsNetId with
  | some amsNetId => exact .inl rfl
  | none =>
    cases found : router.adsGetNetIdForPLC session.ipAddress with
    | error e => exact .inl rfl
    | ok amsNetId =>
      obtain ⟨netId, parsed⟩ := adsGetNetIdForPLC_eq_ok found
      have address : AmsAddr.new (some amsNetId) session.amsNetPort =
          .ok ⟨netId, session.amsNetPort.elim 0 portOfInt⟩ := by
        simp [AmsAddr.new, parsed, bind, Except.bind, pure, Except.pure]
      right
      simp only [address]
      exact ⟨trivial, by simp, trivial, by simp [Connection.unassignedNetid, Connection.unassignedPort, parsed,
        Except.toOption]⟩

/-- What follows the discovery leaves the address alone. -/
theorem connect_address (linux : Bool) (router : Router) (session : Session) :
    (session.connect linux router).2.adr = session.adr ∧
      (session.connect linux router).2.amsNetId = session.amsNetId ∧
      (session.connect linux router).2.amsNetPort = session.amsNetPort := by
  unfold connect
  cases router.adsPortOpenEx with
  | error e => exact ⟨rfl, rfl, rfl⟩
  | ok port =>
    dsimp only
    unfold addRoute
    cases linux with
    | false => exact ⟨rfl, rfl, rfl⟩
    | true =>
      dsimp only [↓reduceIte]
      cases router.adsAddRoute session.adr.netId session.ipAddress with
      | ok _ => exact ⟨rfl, rfl, rfl⟩
      | error e =>
        dsimp only [rollBack]
        obtain ⟨_ | _, ports⟩ := router.adsPortCloseEx port (port ::ₘ session.routerPorts)
        · exact ⟨rfl, rfl, rfl⟩
        · exact ⟨rfl, rfl, rfl⟩

/-- From the net id on, a closed connection is opened exactly if its port and,
on Linux, its route are granted. -/
theorem connect_isOpen_iff {session : Session} (closed : session.isOpen = false) (linux : Bool) (router : Router) :
    (session.connect linux router).2.isOpen = true ↔ router.portOpenEx ≠ 0 ∧
      (linux = true → router.addRoute session.adr.netId session.ipAddress = 0) := by
  unfold connect
  by_cases refused : router.portOpenEx = 0
  · simp [Router.adsPortOpenEx, refused, closed]
  · simp only [Router.adsPortOpenEx, refused, ↓reduceIte, addRoute]
    cases linux with
    | false => simp [refused]
    | true =>
      by_cases added : router.addRoute session.adr.netId session.ipAddress = 0
      · simp [Router.adsAddRoute, added, refused]
      · simp only [Router.adsAddRoute, added, rollBack, ne_eq, not_false_eq_true, ↓reduceIte, forall_const, and_false]
        split <;> simp [closed]

theorem open_address {session : Session} (closed : session.isOpen = false) (linux : Bool) (router : Router) :
    (session.open_ linux router).2.adr = (session.discover router).2.adr ∧
      (session.open_ linux router).2.amsNetId = (session.discover router).2.amsNetId ∧
      (session.open_ linux router).2.amsNetPort = (session.discover router).2.amsNetPort := by
  simp only [open_, closed, Bool.false_eq_true, ↓reduceIte]
  obtain ⟨_ | _, prepared⟩ := session.discover router
  · exact ⟨rfl, rfl, rfl⟩
  · exact connect_address linux router prepared

theorem open_unassigned {session : Session} (closed : session.isOpen = false) (linux : Bool) (router : Router) :
    (session.open_ linux router).2.unassignedNetid = (session.discover router).2.unassignedNetid ∧
      (session.open_ linux router).2.unassignedPort = (session.discover router).2.unassignedPort := by
  obtain ⟨_, named, port⟩ := open_address closed linux router
  constructor
  · rw [Connection.unassignedNetid, named]
    rfl
  · rw [Connection.unassignedPort, port]
    rfl

theorem open_isOpen_iff {session : Session} (closed : session.isOpen = false) (linux : Bool) (router : Router) :
    (session.open_ linux router).2.isOpen = true ↔ ∃ prepared, session.discover router = (.ok (), prepared) ∧
      router.portOpenEx ≠ 0 ∧ (linux = true → router.addRoute prepared.adr.netId prepared.ipAddress = 0) := by
  have still := (discover_frame router session).2.1.trans closed
  simp only [open_, closed, Bool.false_eq_true, ↓reduceIte]
  cases found : session.discover router with
  | mk answer prepared =>
    rw [found] at still
    cases answer with
    | error e =>
      have closed : prepared.isOpen = false := still
      simp [closed]
    | ok _ => simpa using connect_isOpen_iff still linux router

/-- The route of an `open` that completes is for the address that it leaves. -/
theorem routeAdded_of_open {session : Session} {router : Router} (closed : session.isOpen = false)
    (opened : (session.open_ true router).2.isOpen = true) :
    session.routeAdded true router = some (session.open_ true router).2.adr.netId := by
  obtain ⟨prepared, found, granted, added⟩ := (open_isOpen_iff closed true router).mp opened
  rw [(open_address closed true router).1]
  simp [routeAdded, closed, found, Router.adsPortOpenEx, granted, Router.adsAddRoute, added rfl, Except.toOption]

theorem close_address (router : Router) (session : Session) :
    (session.close router).2.adr = session.adr ∧ (session.close router).2.amsNetId = session.amsNetId ∧
      (session.close router).2.amsNetPort = session.amsNetPort ∧
      ((session.close router).2.isOpen = true → session.isOpen = true) := by
  unfold close
  cases isOpen : session.isOpen with
  | false => simp [isOpen]
  | true =>
    cases session.port with
    | none => simp
    | some port =>
      dsimp only
      obtain ⟨_ | _, ports⟩ := router.adsPortCloseEx port session.routerPorts
      · simp
      · simp

end Session

/-! ## The records -/

namespace AssignedSession

/-- The records agree with the address, and with the route once it is installed. -/
structure Tracks (linux : Bool) (session : AssignedSession) : Prop where
  netid : session.netid.Kept session.unassignedNetid session.adr.netId
  amsPort : session.amsPort.Kept session.unassignedPort session.adr.port
  route : linux = true → session.isOpen = true → session.route = some session.adr.netId

/-- An open connection uses what was assigned last exactly if no discovery has
replaced another value. -/
theorem Tracks.usesAssigned_iff {session : AssignedSession} (tracks : session.Tracks linux) :
    session.UsesAssigned linux ↔ (session.isOpen = true →
      (∀ netId ∈ session.netid.replaced, netId = session.unassignedNetid) ∧
        ∀ port ∈ session.amsPort.replaced, port = session.unassignedPort) := by
  unfold UsesAssigned
  apply imp_congr_right
  intro isOpen
  rw [← tracks.netid.last_iff, ← tracks.amsPort.last_iff]
  constructor
  · rintro ⟨address, _⟩
    rw [address]
    exact ⟨rfl, rfl⟩
  · rintro ⟨netId, port⟩
    refine ⟨?_, ?_⟩
    · rw [← netId, ← port]
    · intro onLinux
      rw [tracks.route onLinux isOpen, ← netId]

theorem Tracks.new (created : Connection.new amsNetId amsNetPort ipAddress = .ok connection) (linux : Bool) :
    (AssignedSession.new connection).Tracks linux := by
  obtain ⟨adr, address, rest⟩ := Fallible.bind_eq_ok.mp created
  obtain ⟨ip, _, last⟩ := Fallible.bind_eq_ok.mp rest
  cases last
  obtain ⟨netId, parsed, last⟩ := Fallible.bind_eq_ok.mp address
  cases last
  have given : netId = (amsNetId.bind fun text => (netIdOfText text).toOption).getD (Vector.replicate 6 0) := by
    cases amsNetId with
    | none =>
      cases parsed
      rfl
    | some text =>
      have named : netIdOfText text = .ok netId := parsed
      simp [named, Except.toOption]
  refine ⟨?_, Assigned.kept_never _, by simp [AssignedSession.new]⟩
  have never := Assigned.kept_never netId
  rw [given] at never ⊢
  exact never

theorem discovered_eq_self {session : AssignedSession} (isOpen : session.isOpen = true) (router : Router) :
    session.discovered router = session := by
  simp [discovered, isOpen]

/-- After a discovery the records agree with the address that it has left. -/
theorem Tracks.discover {session : AssignedSession} (tracks : session.Tracks linux) (closed : session.isOpen = false)
    (router : Router) :
    (session.discovered router).netid.Kept (session.discover router).2.unassignedNetid
        (session.discover router).2.adr.netId ∧
      (session.discovered router).amsPort.Kept (session.discover router).2.unassignedPort
        (session.discover router).2.adr.port := by
  rcases session.discover_cases router with same | ⟨unnamed, named, _, address⟩
  · have unchanged : session.discovered router = session := by
      rw [AssignedSession.discovered, same, if_neg (by tauto)]
    rw [unchanged, same]
    exact ⟨tracks.netid, tracks.amsPort⟩
  · rw [AssignedSession.discovered, if_pos ⟨closed, unnamed, named⟩, address]
    exact ⟨Assigned.kept_discover _ _, Assigned.kept_discover _ _⟩

theorem open_again {session : AssignedSession} (isOpen : session.isOpen = true) (linux : Bool) (devices : Devices)
    (router : Router) : (CacheCall.session (.open_ router)).afterAssigned linux devices session = session := by
  have same : (session.open_ linux router).2 = session.toSession := by simp [Session.open_, isOpen]
  have noRoute : session.routeAdded linux router = none := by simp [Session.routeAdded, isOpen]
  simp only [CacheCall.afterAssigned, CacheCall.recorded, CacheCall.after, SessionCall.after, same,
    discovered_eq_self isOpen, noRoute, Option.none_or]

theorem Tracks.open_ {session : AssignedSession} (tracks : session.Tracks linux) (devices : Devices)
    (router : Router) : ((CacheCall.session (.open_ router)).afterAssigned linux devices session).Tracks linux := by
  cases isOpen : session.isOpen with
  | true =>
    rw [open_again isOpen]
    exact tracks
  | false =>
    obtain ⟨address, _⟩ := Session.open_address isOpen linux router
    obtain ⟨unassignedNetid, unassignedPort⟩ := Session.open_unassigned isOpen linux router
    obtain ⟨netid, amsPort⟩ := tracks.discover isOpen router
    refine ⟨?_, ?_, ?_⟩
    · show ((session.discovered router).netid).Kept (session.open_ linux router).2.unassignedNetid _
      rw [unassignedNetid]
      exact address ▸ netid
    · show ((session.discovered router).amsPort).Kept (session.open_ linux router).2.unassignedPort _
      rw [unassignedPort]
      exact address ▸ amsPort
    · rintro rfl opened
      show (session.routeAdded true router).or session.route = _
      rw [Session.routeAdded_of_open isOpen opened]
      rfl

theorem Tracks.close {session : AssignedSession} (tracks : session.Tracks linux) (devices : Devices)
    (router : Router) : ((CacheCall.session (.close router)).afterAssigned linux devices session).Tracks linux := by
  obtain ⟨address, named, port, opened⟩ := session.close_address router
  refine ⟨?_, ?_, ?_⟩
  · show session.netid.Kept (session.close router).2.unassignedNetid (session.close router).2.adr.netId
    rw [address, Connection.unassignedNetid, named]
    exact tracks.netid
  · show session.amsPort.Kept (session.close router).2.unassignedPort (session.close router).2.adr.port
    rw [address, Connection.unassignedPort, port]
    exact tracks.amsPort
  · intro onLinux still
    show session.route = some (session.close router).2.adr.netId
    rw [address]
    exact tracks.route onLinux (opened still)

theorem Tracks.setAmsNetid {session : AssignedSession} (tracks : session.Tracks linux) (devices : Devices)
    (value : String) : ((CacheCall.setAmsNetid value).afterAssigned linux devices session).Tracks linux := by
  simp only [CacheCall.afterAssigned, CacheCall.recorded, CacheCall.after, Session.setAmsNetid]
  by_cases isOpen : session.isOpen = true
  · simp only [isOpen, ↓reduceIte]
    exact tracks
  · simp only [isOpen, Bool.false_eq_true, ↓reduceIte]
    cases netIdOfText value with
    | error e => exact tracks
    | ok netId =>
      refine ⟨Assigned.kept_assign _ netId, tracks.amsPort, ?_⟩
      intro _ opened
      exact absurd opened Bool.false_ne_true

theorem Tracks.setAmsPort {session : AssignedSession} (tracks : session.Tracks linux) (devices : Devices)
    (value : Int) : ((CacheCall.setAmsPort value).afterAssigned linux devices session).Tracks linux := by
  simp only [CacheCall.afterAssigned, CacheCall.recorded, CacheCall.after, Session.setAmsPort]
  by_cases isOpen : session.isOpen = true
  · simp only [isOpen, ↓reduceIte]
    exact tracks
  · simp only [isOpen, Bool.false_eq_true, ↓reduceIte]
    refine ⟨tracks.netid, Assigned.kept_assign _ (portOfInt value), ?_⟩
    intro _ opened
    exact absurd opened Bool.false_ne_true

theorem Tracks.operate {session : AssignedSession} (tracks : session.Tracks linux) (devices : Devices)
    (use : SymbolUse) (faults : String → Option PyError) (requested : List String) :
    ((CacheCall.operate use faults requested).afterAssigned linux devices session).Tracks linux := by
  simp only [CacheCall.afterAssigned, CacheCall.recorded, CacheCall.after, CachingSession.afterUse]
  split
  · cases session.symbolsFor devices faults use with
    | error e => exact tracks
    | ok result => exact ⟨tracks.netid, tracks.amsPort, tracks.route⟩
  · exact tracks

theorem Tracks.step {session : AssignedSession} (tracks : session.Tracks linux) (devices : Devices)
    (call : CacheCall) : (call.afterAssigned linux devices session).Tracks linux := by
  match call with
  | .session (.open_ router) => exact tracks.open_ devices router
  | .session (.close router) => exact tracks.close devices router
  | .setAmsNetid value => exact tracks.setAmsNetid devices value
  | .setAmsPort value => exact tracks.setAmsPort devices value
  | .operate use faults requested => exact tracks.operate devices use faults requested

end AssignedSession

/-! ## Runs -/

/-- Whether a call leaves an open connection with another address than the one
assigned is decided when the connection is opened. -/
theorem afterAssigned_usesAssigned_iff {session : AssignedSession} (tracks : session.Tracks linux)
    (before : session.UsesAssigned linux) (devices : Devices) (call : CacheCall) :
    (call.afterAssigned linux devices session).UsesAssigned linux ↔ call.Restores linux session := by
  match call with
  | .session (.open_ router) =>
    cases isOpen : session.isOpen with
    | true =>
      rw [AssignedSession.open_again isOpen]
      exact iff_of_true before (by simp [CacheCall.Restores, isOpen])
    | false =>
      obtain ⟨unassignedNetid, unassignedPort⟩ := Session.open_unassigned isOpen linux router
      rw [(tracks.open_ devices router).usesAssigned_iff]
      show ((session.open_ linux router).2.isOpen = true →
        (∀ netId ∈ (session.discovered router).netid.replaced,
          netId = (session.open_ linux router).2.unassignedNetid) ∧
        ∀ port ∈ (session.discovered router).amsPort.replaced,
          port = (session.open_ linux router).2.unassignedPort) ↔ _
      rw [unassignedNetid, unassignedPort, Session.open_isOpen_iff isOpen]
      constructor
      · rintro kept _ prepared found granted added
        have both := kept ⟨prepared, found, granted, added⟩
        rw [found] at both
        exact both
      · rintro restores ⟨prepared, found, granted, added⟩
        rw [found]
        exact restores isOpen prepared found granted added
  | .session (.close router) =>
    obtain ⟨address, named, port, opened⟩ := session.close_address router
    refine iff_of_true ?_ trivial
    intro still
    show (session.close router).2.adr = ⟨session.netid.last.getD (session.close router).2.unassignedNetid,
      session.amsPort.last.getD (session.close router).2.unassignedPort⟩ ∧
      (linux = true → session.route = some (session.netid.last.getD (session.close router).2.unassignedNetid))
    rw [address, Connection.unassignedNetid, Connection.unassignedPort, named, port]
    exact before (opened still)
  | .setAmsNetid value =>
    refine iff_of_true ?_ trivial
    simp only [CacheCall.afterAssigned, CacheCall.recorded, CacheCall.after, Session.setAmsNetid]
    by_cases isOpen : session.isOpen = true
    · simp only [isOpen, ↓reduceIte]
      exact before
    · simp only [isOpen, Bool.false_eq_true, ↓reduceIte]
      cases netIdOfText value with
      | error e => exact before
      | ok netId => exact fun opened => absurd opened Bool.false_ne_true
  | .setAmsPort value =>
    refine iff_of_true ?_ trivial
    simp only [CacheCall.afterAssigned, CacheCall.recorded, CacheCall.after, Session.setAmsPort]
    by_cases isOpen : session.isOpen = true
    · simp only [isOpen, ↓reduceIte]
      exact before
    · simp only [isOpen, Bool.false_eq_true, ↓reduceIte]
      exact fun opened => absurd opened Bool.false_ne_true
  | .operate use faults requested =>
    refine iff_of_true ?_ trivial
    simp only [CacheCall.afterAssigned, CacheCall.recorded, CacheCall.after, CachingSession.afterUse]
    split
    · cases session.symbolsFor devices faults use with
      | error e => exact before
      | ok result => exact before
    · exact before

/-- From its construction on, an open connection uses the address assigned last
exactly if every `open` that completes finds nothing assigned that a discovery
replaces by something else. -/
theorem usesAssigned_throughout_iff (created : Connection.new amsNetId amsNetPort ipAddress = .ok connection)
    (linux : Bool) (devices : Devices) (calls : List CacheCall) :
    Throughout (CacheCall.afterAssigned linux devices) (AssignedSession.UsesAssigned linux) (.new connection) calls ↔
      Along (CacheCall.afterAssigned linux devices) (CacheCall.Restores linux) (.new connection) calls := by
  have tracks := AssignedSession.Tracks.new created linux
  have start : (AssignedSession.new connection).UsesAssigned linux := by
    apply tracks.usesAssigned_iff.mpr
    simp [AssignedSession.new, Assigned.never]
  have kept (session : AssignedSession) (call : CacheCall) (held : session.Tracks linux ∧ session.UsesAssigned linux)
      (_ : True) (restores : call.Restores linux session) : (call.afterAssigned linux devices session).Tracks linux ∧
        (call.afterAssigned linux devices session).UsesAssigned linux := by
    obtain ⟨tracks, uses⟩ := held
    exact ⟨tracks.step devices call, (afterAssigned_usesAssigned_iff tracks uses devices call).mpr restores⟩
  have lost (session : AssignedSession) (call : CacheCall) (held : session.Tracks linux ∧ session.UsesAssigned linux)
      (_ : True) (replaced : ¬ call.Restores linux session) :
      ¬ (call.afterAssigned linux devices session).UsesAssigned linux :=
    mt (afterAssigned_usesAssigned_iff held.1 held.2 devices call).mp replaced
  exact throughout_iff_of_lost (fun _ held => held.2) kept lost ⟨tracks, start⟩ along_true

/-- The connection to the device at an address of which only the host is known. -/
def plantSession : AssignedSession :=
  .new ⟨"192.168.0.20", none, none, ⟨Vector.replicate 6 0, 0⟩, none, false, OrderedDict.empty⟩

theorem plantSession_new : Connection.new none none (some "192.168.0.20") = .ok plantSession.toConnection := by
  rfl

/-- A router that also finds the net id of a device. -/
def finding (netId : NetId) (port : Int) (addRoute portClose : Nat) : Router :=
  ⟨fun _ => .ok ([3, 102, 20, 113, 0, 0, 0, 0, 1, 0, 0, 0x80] ++ netId.toList), port, fun _ _ => addRoute,
    fun _ => portClose⟩

/-- A port that is assigned again after the discovery, whose own `open` could
get no port from the router, and a net id assigned between two sessions. -/
theorem assigned_again_used : Throughout (CacheCall.afterAssigned true fun _ _ => none)
    (AssignedSession.UsesAssigned true) plantSession
    [.setAmsPort 801, .session (.open_ (finding #v[5, 18, 27, 36, 1, 1] 0 0 0)), .setAmsPort 801,
     .session (.open_ (finding #v[5, 18, 27, 36, 1, 1] 30000 0 0)), .session (.close (answering 0 0 0)),
     .setAmsNetid "5.18.27.40.1.1", .session (.open_ (answering 30001 0 0))] := by
  apply (usesAssigned_throughout_iff plantSession_new true (fun _ _ => none) _).mpr
  refine ⟨trivial, fun _ _ _ granted => absurd rfl granted, trivial, ?_, trivial, trivial, ?_, trivial⟩
  · intro _ prepared found _ _
    exact ⟨nofun, nofun⟩
  · intro _ prepared found _ _
    exact ⟨nofun, nofun⟩

/-- The discovery puts the port of the constructor, none, in the place of the
assigned one. -/
theorem discovery_replaces_port : ¬ Throughout (CacheCall.afterAssigned true fun _ _ => none)
    (AssignedSession.UsesAssigned true) plantSession
    [.setAmsPort 801, .session (.open_ (finding #v[5, 18, 27, 36, 1, 1] 30000 0 0))] := by
  intro all
  have uses := all _ (by simp [states, List.mem_cons]; right; right; rfl)
  have port := congrArg AmsAddr.port (uses rfl).1
  cases port

end PyAds
