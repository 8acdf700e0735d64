import Mathlib.Data.Finset.Insert
import Mathlib.Data.Finset.Erase
import PyAds.SessionAddress

/-! The routes of the library, which all connections of a process share. A route
belongs to a net id and not to the connection that has added it, so `close`
takes it away from every other connection to the same device. -/
namespace PyAds
open Runs

variable {κ : Type}

/-- The connections of a process and the net ids that have a route. -/
structure SharedRoutes (κ : Type) where
  sessions : κ → CachingSession
  routes : Finset NetId

/-- The routes after a call. `close` deletes before it closes the port. -/
def CacheCall.routesAfter (session : Session) (routes : Finset NetId) : CacheCall → Finset NetId
  | .session (.open_ router) => (session.routeAdded true router).elim routes (insert · routes)
  | .session (.close _) => if session.isOpen then routes.erase session.adr.netId else routes
  | .setAmsNetid _ | .setAmsPort _ | .operate .. => routes

namespace SharedRoutes

/-- A call on one of the connections. -/
def after [DecidableEq κ] (devices : Devices) (shared : SharedRoutes κ) (call : κ × CacheCall) : SharedRoutes κ :=
  ⟨Function.update shared.sessions call.1 (call.2.after true devices (shared.sessions call.1)),
    call.2.routesAfter (shared.sessions call.1).toSession shared.routes⟩

/-- A connection is open at the net id. -/
def OpenAt (shared : SharedRoutes κ) (netId : NetId) (key : κ) : Prop :=
  (shared.sessions key).isOpen = true ∧ (shared.sessions key).adr.netId = netId

/-- The routes are those of the open connections. -/
def Exact (shared : SharedRoutes κ) : Prop := ∀ netId, netId ∈ shared.routes ↔ ∃ key, shared.OpenAt netId key

/-- `close` completes, and no other connection is open at the same net id. -/
def Alone (shared : SharedRoutes κ) : κ × CacheCall → Prop
  | (key, .session (.close router)) => (shared.sessions key).isOpen = true →
    (∀ port ∈ (shared.sessions key).port, router.portCloseEx port = 0) ∧
      ∀ other, shared.OpenAt (shared.sessions key).adr.netId other → other = key
  | _ => True

end SharedRoutes

/-! ## One connection -/

namespace Session

theorem close_isOpen_iff {session : Session} (isOpen : session.isOpen = true) (router : Router) :
    (session.close router).2.isOpen = false ↔ ∀ port ∈ session.port, router.portCloseEx port = 0 := by
  unfold close
  cases held : session.port with
  | none => simp [isOpen]
  | some port =>
    by_cases closed : router.portCloseEx port = 0
    · simp [isOpen, Router.adsPortCloseEx, closed]
    · simp [isOpen, Router.adsPortCloseEx, closed]

/-- A route is added exactly by an `open` that opens. -/
theorem routeAdded_eq {session : Session} (closed : session.isOpen = false) (router : Router) :
    session.routeAdded true router = if (session.open_ true router).2.isOpen then
      some (session.open_ true router).2.adr.netId else none := by
  cases opened : (session.open_ true router).2.isOpen with
  | true => simpa using routeAdded_of_open closed opened
  | false =>
    have refused := mt (open_isOpen_iff closed true router).mpr (by simp [opened])
    unfold routeAdded
    simp only [closed, Bool.not_false, Bool.and_self, ↓reduceIte, Bool.false_eq_true]
    split
    · rfl
    · rename_i prepared found
      by_cases granted : router.portOpenEx = 0
      · simp [Router.adsPortOpenEx, granted, Except.toOption]
      · have failed : router.addRoute prepared.adr.netId prepared.ipAddress ≠ 0 := by
          intro added
          exact refused ⟨prepared, found, granted, fun _ => added⟩
        simp [Router.adsPortOpenEx, granted, Router.adsAddRoute, failed, Except.toOption]

end Session

namespace SharedRoutes

theorem openAt_after [DecidableEq κ] {devices : Devices} {shared : SharedRoutes κ} {key other : κ} {call : CacheCall} :
    (shared.after devices (key, call)).OpenAt netId other ↔
      if other = key then (call.after true devices (shared.sessions key)).isOpen = true ∧
        (call.after true devices (shared.sessions key)).adr.netId = netId
      else shared.OpenAt netId other := by
  unfold OpenAt after
  by_cases same : other = key
  · subst same
    simp
  · simp [same]

/-- A call that leaves its connection open at the same place, or closed, leaves
the others there as well. -/
theorem openAt_after_same [DecidableEq κ] {devices : Devices} {shared : SharedRoutes κ} {key : κ} {call : CacheCall}
    (isOpen : (call.after true devices (shared.sessions key)).isOpen = (shared.sessions key).isOpen)
    (netId : (shared.sessions key).isOpen = true →
      (call.after true devices (shared.sessions key)).adr.netId = (shared.sessions key).adr.netId) (place : NetId)
    (other : κ) : (shared.after devices (key, call)).OpenAt place other ↔ shared.OpenAt place other := by
  rw [openAt_after]
  split
  · rename_i same
    subst same
    unfold OpenAt
    rw [isOpen]
    apply and_congr_right
    intro opened
    rw [netId opened]
  · exact Iff.rfl

/-! ## Calls -/

/-- What a call does to the routes and to the places of the open connections. -/
inductive Effect (shared later : SharedRoutes κ) (key : κ) : CacheCall → Prop where
  | kept (routes : later.routes = shared.routes)
      (places : ∀ netId other, later.OpenAt netId other ↔ shared.OpenAt netId other)
      (alone : shared.Alone (key, call)) : Effect shared later key call
  | opened (router : Router) (place : NetId) (routes : later.routes = insert place shared.routes)
      (places : ∀ netId other, later.OpenAt netId other ↔ shared.OpenAt netId other ∨ other = key ∧ place = netId) :
      Effect shared later key (.session (.open_ router))
  | closed (router : Router) (isOpen : (shared.sessions key).isOpen = true)
      (routes : later.routes = shared.routes.erase (shared.sessions key).adr.netId)
      (places : ∀ netId other, later.OpenAt netId other ↔ shared.OpenAt netId other ∧
        (other = key → ¬ ∀ port ∈ (shared.sessions key).port, router.portCloseEx port = 0)) :
      Effect shared later key (.session (.close router))

section Calls
variable [DecidableEq κ] {shared : SharedRoutes κ} (devices : Devices) (key : κ)

theorem effect_open (router : Router) : Effect shared (shared.after devices (key, .session (.open_ router))) key
    (.session (.open_ router)) := by
  cases isOpen : (shared.sessions key).isOpen with
  | true =>
    have still : ((shared.sessions key).toSession.open_ true router).2 = (shared.sessions key).toSession := by
      simp [Session.open_, isOpen]
    refine .kept ?_ (openAt_after_same ?_ ?_) trivial
    · simp [after, CacheCall.routesAfter, Session.routeAdded, isOpen]
    · simp [CacheCall.after, SessionCall.after, still]
    · intro _
      simp [CacheCall.after, SessionCall.after, still]
  | false =>
    have added := Session.routeAdded_eq isOpen router
    cases opened : ((shared.sessions key).toSession.open_ true router).2.isOpen with
    | false =>
      refine .kept ?_ (openAt_after_same ?_ ?_) trivial
      · simp [after, CacheCall.routesAfter, added, opened]
      · simp [CacheCall.after, SessionCall.after, opened, isOpen]
      · simp [isOpen]
    | true =>
      refine .opened router ((shared.sessions key).toSession.open_ true router).2.adr.netId ?_ ?_
      · simp [after, CacheCall.routesAfter, added, opened]
      · intro netId other
        rw [openAt_after]
        split
        · rename_i same
          subst same
          simp [CacheCall.after, SessionCall.after, opened, OpenAt, isOpen]
        · rename_i apart
          simp [apart]

theorem effect_close (router : Router) : Effect shared (shared.after devices (key, .session (.close router))) key
    (.session (.close router)) := by
  cases isOpen : (shared.sessions key).isOpen with
  | false =>
    refine .kept (by simp [after, CacheCall.routesAfter, isOpen]) (openAt_after_same ?_ (by simp [isOpen])) ?_
    · simp [CacheCall.after, SessionCall.after, Session.close, isOpen]
    · simp [Alone, isOpen]
  | true =>
    refine .closed router isOpen (by simp [after, CacheCall.routesAfter, isOpen]) ?_
    intro netId other
    rw [openAt_after]
    split
    · rename_i same
      subst same
      have address := (Session.close_address router (shared.sessions other).toSession).1
      rw [← Session.close_isOpen_iff isOpen router]
      simp [OpenAt, CacheCall.after, SessionCall.after, address, isOpen, and_comm]
    · rename_i apart
      simp [apart]

/-- The setters are refused while the connection is open, and the operations
leave its address alone. -/
theorem effect (call : CacheCall) : Effect shared (shared.after devices (key, call)) key call := by
  cases call with
  | session call =>
    cases call with
    | open_ router => exact effect_open devices key router
    | close router => exact effect_close devices key router
  | setAmsNetid value =>
    refine .kept rfl (openAt_after_same ?_ ?_) trivial
    · simp only [CacheCall.after, Session.setAmsNetid]
      split
      · rfl
      · split <;> rfl
    · intro isOpen
      simp [CacheCall.after, Session.setAmsNetid, isOpen]
  | setAmsPort value =>
    refine .kept rfl (openAt_after_same ?_ ?_) trivial
    · simp only [CacheCall.after, Session.setAmsPort]
      split <;> rfl
    · intro isOpen
      simp [CacheCall.after, Session.setAmsPort, isOpen]
  | operate use faults requested =>
    have frame : ((shared.sessions key).afterUse devices faults use).isOpen = (shared.sessions key).isOpen ∧
        ((shared.sessions key).afterUse devices faults use).adr = (shared.sessions key).adr := by
      unfold CachingSession.afterUse
      split
      · split <;> exact ⟨rfl, rfl⟩
      · exact ⟨rfl, rfl⟩
    refine .kept rfl (openAt_after_same frame.1 ?_) trivial
    intro _
    simp [CacheCall.after, frame.2]

end Calls

/-! ## Runs -/

/-- No route is left of a connection that is not open. -/
def Backed (shared : SharedRoutes κ) : Prop := ∀ netId ∈ shared.routes, ∃ key, shared.OpenAt netId key

theorem Backed.after {shared later : SharedRoutes κ} (backed : shared.Backed) (effect : Effect shared later key call) :
    later.Backed := by
  intro netId member
  cases effect with
  | kept routes places alone =>
    rw [routes] at member
    obtain ⟨other, there⟩ := backed netId member
    exact ⟨other, (places netId other).mpr there⟩
  | opened router place routes places =>
    rw [routes, Finset.mem_insert] at member
    cases member with
    | inl same => exact ⟨key, (places netId key).mpr (.inr ⟨rfl, same.symm⟩)⟩
    | inr member =>
      obtain ⟨other, there⟩ := backed netId member
      exact ⟨other, (places netId other).mpr (.inl there)⟩
  | closed router isOpen routes places =>
    rw [routes, Finset.mem_erase] at member
    obtain ⟨other, there⟩ := backed netId member.2
    refine ⟨other, (places netId other).mpr ⟨there, ?_⟩⟩
    rintro rfl
    exact absurd there.2.symm member.1

/-- The call of `close` deletes the route of every connection at its net id,
and keeps its own one open if the port cannot be closed. -/
theorem Exact.after_iff {shared later : SharedRoutes κ} (exact_ : shared.Exact)
    (effect : Effect shared later key call) : later.Exact ↔ shared.Alone (key, call) := by
  cases effect with
  | kept routes places alone =>
    refine iff_of_true ?_ alone
    intro netId
    simp only [routes, places]
    exact exact_ netId
  | opened router place routes places =>
    refine iff_of_true ?_ trivial
    intro netId
    rw [routes, Finset.mem_insert, exact_ netId]
    simp [places, exists_or, or_comm, eq_comm]
  | closed router isOpen routes places =>
    have own : shared.OpenAt (shared.sessions key).adr.netId key := ⟨isOpen, rfl⟩
    simp only [Alone, isOpen, forall_const]
    unfold Exact
    simp only [routes, places, Finset.mem_erase]
    constructor
    · intro held
      have gone := (held (shared.sessions key).adr.netId).mpr.mt (by simp)
      constructor
      · by_contra fails
        exact gone ⟨key, own, fun _ => fails⟩
      · intro other there
        by_contra apart
        exact gone ⟨other, there, fun same => absurd same apart⟩
    · rintro ⟨completes, alone⟩ netId
      rw [exact_ netId]
      constructor
      · rintro ⟨apart, other, there⟩
        refine ⟨other, there, ?_⟩
        rintro rfl
        exact absurd there.2.symm apart
      · rintro ⟨other, there, stays⟩
        refine ⟨?_, other, there⟩
        rintro rfl
        exact stays (alone other there) completes

/-- Connections as their constructor leaves them. -/
theorem Exact.new {shared : SharedRoutes κ} (noRoutes : shared.routes = ∅)
    (closed : ∀ key, (shared.sessions key).isOpen = false) : shared.Exact := by
  intro netId
  simp [noRoutes, OpenAt, closed]

/-- Over a run of calls on any number of connections, no route is left of a
connection that is closed. All open connections keep theirs exactly if each
`close` of an open connection completes and is called while no other connection
is open at the same net id. -/
theorem routes_exact_iff [DecidableEq κ] {shared : SharedRoutes κ} (start : shared.Exact) (devices : Devices)
    (calls : List (κ × CacheCall)) : Throughout (after devices) Backed shared calls ∧
      (Throughout (after devices) Exact shared calls ↔ Along (after devices) Alone shared calls) := by
  constructor
  · have kept (shared : SharedRoutes κ) (call : κ × CacheCall) (backed : shared.Backed) (_ : True) :
        (shared.after devices call).Backed := backed.after (effect devices call.1 call.2)
    exact throughout_of_kept kept (fun netId => (start netId).mp) along_true
  · have exact_ (shared : SharedRoutes κ) (call : κ × CacheCall) (held : shared.Exact) (_ : True) :
        (shared.after devices call).Exact ↔ shared.Alone call := held.after_iff (effect devices call.1 call.2)
    exact invariant_iff exact_ start along_true

/-- Two connections to one controller, at different tasks. -/
def twoTasks : SharedRoutes Bool :=
  ⟨fun second => ⟨if second then { tankSession with adr := ⟨tankSession.adr.netId, 852⟩ } else tankSession, []⟩, ∅⟩

theorem twoTasks_exact : twoTasks.Exact :=
  Exact.new rfl (fun second => by cases second <;> rfl)

/-- One after the other, with a `close` that is repeated on a closed connection. -/
theorem one_after_other : Throughout (after tasks) Backed twoTasks
      [(false, .session (.open_ (answering 30000 0 0))), (false, .session (.close (answering 0 0 0))),
       (true, .session (.open_ (answering 30001 0 0))), (false, .session (.close (answering 0 0 0)))] ∧
    (Throughout (after tasks) Exact twoTasks
      [(false, .session (.open_ (answering 30000 0 0))), (false, .session (.close (answering 0 0 0))),
       (true, .session (.open_ (answering 30001 0 0))), (false, .session (.close (answering 0 0 0)))]) := by
  obtain ⟨backed, same⟩ := routes_exact_iff twoTasks_exact tasks
    [(false, .session (.open_ (answering 30000 0 0))), (false, .session (.close (answering 0 0 0))),
     (true, .session (.open_ (answering 30001 0 0))), (false, .session (.close (answering 0 0 0)))]
  refine ⟨backed, same.mpr ⟨trivial, ?_, trivial, ?_, trivial⟩⟩
  · intro _
    refine ⟨fun _ _ => rfl, ?_⟩
    rintro (_ | _) ⟨isOpen, _⟩
    · rfl
    · cases isOpen
  · intro isOpen
    cases isOpen

/-- The first connection to close leaves the other one open without a route. -/
theorem closing_takes_route : ¬ Throughout (after tasks) Exact twoTasks
    [(false, .session (.open_ (answering 30000 0 0))), (true, .session (.open_ (answering 30001 0 0))),
     (false, .session (.close (answering 0 0 0)))] := by
  intro all
  have last := all _ (foldl_mem_states _ _ _) tankSession.adr.netId
  have gone : tankSession.adr.netId ∉ (List.foldl (after tasks) twoTasks
      [(false, .session (.open_ (answering 30000 0 0))), (true, .session (.open_ (answering 30001 0 0))),
       (false, .session (.close (answering 0 0 0)))]).routes := by decide
  exact gone (last.mpr ⟨true, rfl, rfl⟩)

end SharedRoutes

end PyAds
