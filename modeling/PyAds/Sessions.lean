import Mathlib.Data.List.Basic
import Mathlib.Data.Multiset.AddSub
import PyAds.Base.Runs
import PyAds.Numerals
import PyAds.SumCommands

/-! Opening and closing a connection. Each call makes several requests of the
library, of which every one but the last can fail; what has been done before
is kept or taken back. -/
namespace PyAds
open Runs

/-! ## Addresses -/

abbrev NetId := Vector UInt8 6

/-- `AmsAddr`, as its `SAmsAddr`. -/
structure AmsAddr where
  netId : NetId
  port : UInt16
  deriving DecidableEq

/-- The setter of `AmsAddr.netid`, given a text. -/
def netIdOfText (value : String) : Result NetId := do
  let idNumbers ← (value.toList.splitOn '.').mapM fun part => intOfText (Text.ofChars part)
  if length : idNumbers.length = 6 then
    return ⟨(idNumbers.map fun number => UInt8.ofNat (number % 256).toNat).toArray, by simp [length]⟩
  else .error (.valueError "no valid netid")

/-- The numbers of a dotted text, as `int` reads them back. -/
theorem mapM_intOfText_dotted {numbers : Bytes} (nonempty : numbers ≠ []) :
    ((".".intercalate (numbers.map fun number => toString number.toNat)).toList.splitOn '.').mapM
      (fun part => intOfText (Text.ofChars part)) = .ok (numbers.map fun number => (number.toNat : Int)) := by
  have noDots : ∀ part ∈ (numbers.map fun number => toString number.toNat).map String.toList, '.' ∉ part := by
    simp only [List.mem_map]
    rintro _ ⟨_, ⟨number, _, rfl⟩, rfl⟩ dot
    have digit := Nat.isDigit_of_mem_toDigits (b := 10) (by decide) (by decide) (String.toList_ofList ▸ dot)
    cases digit
  have parts : (".".intercalate (numbers.map fun number => toString number.toNat)).toList.splitOn '.' =
      (numbers.map fun number => toString number.toNat).map String.toList := by
    rw [String.toList_intercalate]
    exact List.splitOn_intercalate '.' noDots (by simpa using nonempty)
  rw [parts, Fallible.mapM_eq_ok, List.forall₂_map_left_iff, List.forall₂_map_left_iff, List.forall₂_map_right_iff]
  exact List.forall₂_same.mpr fun number _ => intOfText_toString number.toNat

/-- Six numbers between dots are a net id. -/
theorem netIdOfText_dotted {numbers : Bytes} (six : numbers.length = 6) :
    netIdOfText (".".intercalate (numbers.map fun number => toString number.toNat)) =
      .ok ⟨numbers.toArray, by simp [six]⟩ := by
  have nonempty : numbers ≠ [] := by
    rintro rfl
    cases six
  have length : (numbers.map fun number => (number.toNat : Int)).length = 6 := by simp [six]
  have back : (numbers.map fun number => (number.toNat : Int)).map (fun number => UInt8.ofNat (number % 256).toNat) =
      numbers.map id := by
    rw [List.map_map]
    apply List.map_congr_left
    intro number _
    have small : ((number.toNat : Int) % 256).toNat = number.toNat := by
      have bound := number.toNat_lt
      omega
    simp [small]
  unfold netIdOfText
  rw [mapM_intOfText_dotted nonempty]
  simp only [bind, Except.bind, length, ↓reduceDIte, pure, Except.pure]
  congr 2
  rw [back, List.map_id]

/-- The setter of `AmsAddr.port`. -/
def portOfInt (value : Int) : UInt16 := UInt16.ofNat (value % 65536).toNat

/-- `AmsAddr(netid, port)`; what is not given stays zero. -/
def AmsAddr.new (netid : Option String) (port : Option Int) : Result AmsAddr := do
  let netId ← netid.elim (.ok (Vector.replicate 6 0)) netIdOfText
  return ⟨netId, port.elim 0 portOfInt⟩

/-! ## The library -/

/-- What the library answers during one call. -/
structure Router where
  sendRawUdpMessage : String → Result Bytes
  portOpenEx : Int
  addRoute : NetId → String → Nat
  portCloseEx : Int → Nat

namespace Router

/-- `adsGetNetIdForPLC` -/
def adsGetNetIdForPLC (router : Router) (ipAddress : String) : Result String := do
  let data ← router.sendRawUdpMessage ipAddress
  match (data.take 12).getLast? with
  | none => throw .structError
  | some last =>
    if last = 0x80 then
      let amsIdTuple := (data.drop 12).take 6
      if amsIdTuple.length = 6 then return ".".intercalate (amsIdTuple.map fun number => toString number.toNat)
      else throw .structError
    else throw (.runtimeError "Unexpected response from PLC")

/-- `adsPortOpenEx` -/
def adsPortOpenEx (router : Router) : Result Int :=
  if router.portOpenEx = 0 then .error (.runtimeError "Failed to open port on AMS router.")
  else .ok router.portOpenEx

/-- `adsAddRoute` -/
def adsAddRoute (router : Router) (netId : NetId) (ipAddress : String) : Result Unit :=
  if router.addRoute netId ipAddress ≠ 0 then .error (.adsError (router.addRoute netId ipAddress)) else .ok ()

/-- `adsPortCloseEx`: a port that is closed is no longer among the open ones. -/
def adsPortCloseEx (router : Router) (port : Int) (ports : Multiset Int) : Result Unit × Multiset Int :=
  if router.portCloseEx port ≠ 0 then (.error (.adsError (router.portCloseEx port)), ports)
  else (.ok (), ports.erase port)

end Router

/-! ## The connection -/

structure Connection where
  ipAddress : String
  amsNetId : Option String
  amsNetPort : Option Int
  adr : AmsAddr
  port : Option Int
  isOpen : Bool
  symbolInfoCache : DataSymbols

/-- The address that the constructor keeps: the given one, or the first four
parts of the net id. -/
def ipAddressOf (amsNetId : Option String) : Option String → Result String
  | some ipAddress => .ok ipAddress
  | none =>
    match amsNetId with
    | none => .error .typeError
    | some amsNetId => .ok (".".intercalate (((amsNetId.toList.splitOn '.').take 4).map String.ofList))

/-- `Connection(ams_net_id, ams_net_port, ip_address)` -/
def Connection.new (amsNetId : Option String) (amsNetPort : Option Int) (ipAddress : Option String) :
    Result Connection := do
  let adr ← AmsAddr.new amsNetId amsNetPort
  let ipAddress ← ipAddressOf amsNetId ipAddress
  return ⟨ipAddress, amsNetId, amsNetPort, adr, none, false, OrderedDict.empty⟩

/-- A connection and its router: the ports that `adsPortOpenEx` has returned
and `adsPortCloseEx` has not closed. -/
structure Session extends Connection where
  routerPorts : Multiset Int

namespace Session

/-- The discovery of the net id, in a connection that has none. -/
def discover (router : Router) (session : Session) : Result Unit × Session :=
  match session.amsNetId with
  | some _ => (.ok (), session)
  | none =>
    match router.adsGetNetIdForPLC session.ipAddress with
    | .error e => (.error e, session)
    | .ok amsNetId =>
      let session := { session with amsNetId := some amsNetId }
      match AmsAddr.new (some amsNetId) session.amsNetPort with
      | .error e => (.error e, session)
      | .ok adr => (.ok (), { session with adr := adr })

/-- The handler of a failed route: the port is closed and the error raised
again, unless closing raises one of its own. -/
def rollBack (router : Router) (port : Int) (e : PyError) (session : Session) : Result Unit × Session :=
  match router.adsPortCloseEx port session.routerPorts with
  | (.error e', ports) => (.error e', { session with routerPorts := ports })
  | (.ok (), ports) => (.error e, { session with port := none, routerPorts := ports })

/-- `open` from the port that the router has opened on; a route is added on Linux. -/
def addRoute (linux : Bool) (router : Router) (port : Int) (session : Session) : Result Unit × Session :=
  if linux then
    match router.adsAddRoute session.adr.netId session.ipAddress with
    | .error e => rollBack router port e session
    | .ok () => (.ok (), { session with isOpen := true })
  else (.ok (), { session with isOpen := true })

/-- `open` from the net id on. -/
def connect (linux : Bool) (router : Router) (session : Session) : Result Unit × Session :=
  match router.adsPortOpenEx with
  | .error e => (.error e, session)
  | .ok port =>
    addRoute linux router port { session with port := some port, routerPorts := port ::ₘ session.routerPorts }

/-- `open` -/
def open_ (linux : Bool) (router : Router) (session : Session) : Result Unit × Session :=
  if session.isOpen then (.ok (), session)
  else
    match discover router session with
    | (.error e, session) => (.error e, session)
    | (.ok (), session) => connect linux router session

/-- `close`; deleting the route cannot fail. -/
def close (router : Router) (session : Session) : Result Unit × Session :=
  if session.isOpen then
    match session.port with
    | none => (.ok (), { session with isOpen := false })
    | some port =>
      match router.adsPortCloseEx port session.routerPorts with
      | (.error e, ports) => (.error e, { session with routerPorts := ports })
      | (.ok (), ports) => (.ok (), { session with port := none, isOpen := false, routerPorts := ports })
  else (.ok (), session)

end Session

/-- A call of one of the two, and what the library answers during it. -/
inductive SessionCall where
  | open_ (router : Router)
  | close (router : Router)

def SessionCall.after (linux : Bool) (session : Session) : SessionCall → Session
  | .open_ router => (session.open_ linux router).2
  | .close router => (session.close router).2

/-! ## Staying in step -/

namespace Session

/-- The connection has a port exactly if it is open, and every port that the
router has given out is this one or has been closed. -/
structure InStep (session : Session) : Prop where
  open_iff : session.isOpen = true ↔ session.port ≠ none
  closed : session.routerPorts ≤ session.port.elim 0 ({·})

theorem InStep.new (created : Connection.new amsNetId amsNetPort ipAddress = .ok connection) :
    InStep ⟨connection, 0⟩ := by
  obtain ⟨adr, _, rest⟩ := Fallible.bind_eq_ok.mp created
  obtain ⟨ip, _, last⟩ := Fallible.bind_eq_ok.mp rest
  cases last
  exact ⟨by simp, Multiset.zero_le _⟩

/-- A discovery leaves the port and the router alone. -/
theorem discover_frame (router : Router) (session : Session) :
    (discover router session).2.port = session.port ∧ (discover router session).2.isOpen = session.isOpen ∧
      (discover router session).2.routerPorts = session.routerPorts := by
  unfold discover
  cases session.amsNetId with
  | some known => exact ⟨rfl, rfl, rfl⟩
  | none =>
    cases router.adsGetNetIdForPLC session.ipAddress with
    | error e => exact ⟨rfl, rfl, rfl⟩
    | ok amsNetId =>
      dsimp only
      cases AmsAddr.new (some amsNetId) session.amsNetPort with
      | error e => exact ⟨rfl, rfl, rfl⟩
      | ok adr => exact ⟨rfl, rfl, rfl⟩

theorem InStep.of_closed {session : Session} (inStep : session.InStep) (closed : session.isOpen = false) :
    session.port = none ∧ session.routerPorts = 0 := by
  have noPort : session.port = none := by
    by_contra port
    rw [← ne_eq, ← inStep.open_iff, closed] at port
    cases port
  have none := inStep.closed
  rw [noPort] at none
  exact ⟨noPort, Multiset.le_zero.mp none⟩

end Session

/-- A failed route is followed by closing the port that was opened for it. -/
def SessionCall.RollsBack (linux : Bool) (session : Session) : SessionCall → Prop
  | .open_ router => linux = true → session.isOpen = false →
    ∀ prepared, session.discover router = (.ok (), prepared) → router.portOpenEx ≠ 0 →
      router.addRoute prepared.adr.netId prepared.ipAddress ≠ 0 → router.portCloseEx router.portOpenEx = 0
  | .close _ => True

namespace Session

/-- With the port just opened as its only one, a connection ends up in step
exactly if a failed route is rolled back. -/
theorem addRoute_inStep_iff {session : Session} (linux : Bool) (router : Router) {port : Int}
    (opened : session.port = some port) (closed : session.isOpen = false) (only : session.routerPorts = {port}) :
    (session.addRoute linux router port).2.InStep ↔
      (linux = true → router.addRoute session.adr.netId session.ipAddress ≠ 0 → router.portCloseEx port = 0) := by
  have completed : InStep { session with isOpen := true } := by
    refine ⟨by simp [opened], ?_⟩
    simp [only, opened]
  unfold addRoute
  cases linux with
  | false => exact iff_of_true completed (by simp)
  | true =>
    by_cases added : router.addRoute session.adr.netId session.ipAddress = 0
    · simpa [Router.adsAddRoute, added] using completed
    · simp only [Router.adsAddRoute, ne_eq, added, not_false_eq_true, ↓reduceIte, rollBack, Router.adsPortCloseEx,
        forall_const]
      by_cases rolledBack : router.portCloseEx port = 0
      · refine iff_of_true ?_ rolledBack
        simp only [rolledBack, not_true_eq_false, ↓reduceIte, only]
        exact ⟨by simp [closed], by simp⟩
      · refine iff_of_false ?_ rolledBack
        simp only [rolledBack, not_false_eq_true, ↓reduceIte]
        intro inStep
        have isOpen := inStep.open_iff.mpr (by simp [opened])
        cases closed.symm.trans isOpen

theorem connect_inStep_iff {session : Session} (inStep : session.InStep) (closed : session.isOpen = false)
    (linux : Bool) (router : Router) : (session.connect linux router).2.InStep ↔
      (linux = true → router.portOpenEx ≠ 0 → router.addRoute session.adr.netId session.ipAddress ≠ 0 →
        router.portCloseEx router.portOpenEx = 0) := by
  unfold connect
  by_cases refused : router.portOpenEx = 0
  · simpa [Router.adsPortOpenEx, refused] using inStep
  · have only : router.portOpenEx ::ₘ session.routerPorts = {router.portOpenEx} := by
      rw [(inStep.of_closed closed).2]
      rfl
    simp only [Router.adsPortOpenEx, refused, ↓reduceIte, ne_eq, not_false_eq_true, forall_const]
    exact addRoute_inStep_iff linux router rfl closed only

theorem open_inStep_iff {session : Session} (inStep : session.InStep) (linux : Bool) (router : Router) :
    (session.open_ linux router).2.InStep ↔ SessionCall.RollsBack linux session (.open_ router) := by
  unfold open_ SessionCall.RollsBack
  cases isOpen : session.isOpen with
  | true => exact iff_of_true inStep (by simp)
  | false =>
    have still : (session.discover router).2.InStep := by
      obtain ⟨port, openFlag, ports⟩ := discover_frame router session
      constructor
      · rw [port, openFlag]
        exact inStep.open_iff
      · rw [port, ports]
        exact inStep.closed
    have closed := (discover_frame router session).2.1.trans isOpen
    cases found : session.discover router with
    | mk answer prepared =>
      rw [found] at still closed
      cases answer with
      | error e => exact iff_of_true still (by simp [found])
      | ok _ => simpa [found] using connect_inStep_iff still closed linux router

theorem close_inStep {session : Session} (inStep : session.InStep) (router : Router) :
    (session.close router).2.InStep := by
  unfold close
  cases isOpen : session.isOpen with
  | false => exact inStep
  | true =>
    cases held : session.port with
    | none => exact absurd held (inStep.open_iff.mp isOpen)
    | some port =>
      have ports := inStep.closed
      rw [held] at ports
      by_cases closed : router.portCloseEx port = 0
      · have emptied : session.routerPorts.erase port ≤ 0 := by simpa using Multiset.erase_le_erase port ports
        simp only [Router.adsPortCloseEx, closed, ne_eq, not_true_eq_false, ↓reduceIte]
        exact ⟨by simp, emptied⟩
      · simp only [Router.adsPortCloseEx, closed, ne_eq, not_false_eq_true, ↓reduceIte]
        exact ⟨by simp [isOpen, held], by simpa [held] using ports⟩

end Session

/-- Over a run of calls, a connection and its router stay in step exactly if no
call leaves behind the port of a route that failed. -/
theorem sessions_inStep_iff {session : Session} (inStep : session.InStep) (linux : Bool) (calls : List SessionCall) :
    Throughout (SessionCall.after linux) Session.InStep session calls ↔
      Along (SessionCall.after linux) (SessionCall.RollsBack linux) session calls := by
  have exact_ (session : Session) (call : SessionCall) (inStep : session.InStep) (_ : True) :
      (call.after linux session).InStep ↔ call.RollsBack linux session := by
    cases call with
    | open_ router => exact Session.open_inStep_iff inStep linux router
    | close router => exact iff_of_true (Session.close_inStep inStep router) trivial
  exact invariant_iff exact_ inStep along_true

/-- A connection as its constructor leaves it. -/
def tankSession : Session :=
  ⟨⟨"5.18.27.36", some "5.18.27.36.1.1", some 851, ⟨#v[5, 18, 27, 36, 1, 1], 851⟩, none, false, OrderedDict.empty⟩, 0⟩

theorem tankSession_new : Connection.new (some "5.18.27.36.1.1") (some 851) none = .ok tankSession.toConnection := by
  rfl

/-- A router that opens one port and answers with these error codes. -/
def answering (port : Int) (addRoute portClose : Nat) : Router :=
  ⟨fun _ => .error (.runtimeError "timed out"), port, fun _ _ => addRoute, fun _ => portClose⟩

/-- A route that fails and is rolled back, a session that is closed at the
second attempt, and a port that cannot be opened. -/
theorem rolled_back_inStep : Throughout (SessionCall.after true) Session.InStep tankSession
    [.open_ (answering 30000 1813 0), .open_ (answering 30001 0 0), .close (answering 0 0 1864),
     .close (answering 0 0 0), .open_ (answering 0 0 0)] := by
  apply (sessions_inStep_iff (Session.InStep.new tankSession_new) true _).mpr
  refine ⟨fun _ _ _ _ _ _ => rfl, fun _ _ _ _ _ _ => rfl, trivial, trivial, fun _ _ _ _ _ _ => rfl, trivial⟩

/-- A port whose route and whose closing fail stays open when the next `open`
replaces it. -/
theorem failed_rollback_loses_port : ¬ Throughout (SessionCall.after true) Session.InStep tankSession
    [.open_ (answering 30000 1813 1864), .open_ (answering 30001 0 0)] := by
  intro all
  have last : Session.InStep ⟨{ tankSession with port := some 30001, isOpen := true }, {30001, 30000}⟩ :=
    all _ (by simp [states, List.mem_cons]; right; right; rfl)
  have both := Multiset.card_le_card last.closed
  simp at both

end PyAds
