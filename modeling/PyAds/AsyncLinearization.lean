import PyAds.AsyncWorkerRuns
import PyAds.Base.SequentialObject

/-! The connection behind an asynchronous one. Its state is changed by the
functions that the worker executes and by nothing else, so clients that share it
see the results of some sequential use of it. -/
namespace PyAds
open SequentialObject

/-- An asynchronous connection, and the object that the functions of its calls
work on. -/
structure ServedConnection (σ ω ε ρ : Type) where
  connection : AsyncConnection ω ε ρ
  object : σ

namespace ServedConnection
variable {σ ω ε ρ : Type}

def fresh (x : σ) : ServedConnection σ ω ε ρ := ⟨.fresh ω ε ρ, x⟩

/-- The worker executes a function on the object; all other steps are steps of
the connection in which no function returns. -/
inductive Step (perform : σ → Operation ω → Except ε ρ × σ) :
    ServedConnection σ ω ε ρ → ServedConnection σ ω ε ρ → Prop
  | execute (own : s.connection.worker = .executing i) (call : s.connection.operation? i = some operation) :
    Step perform s
      ⟨{ s.connection with worker := .executed i (perform s.object operation).1 }.record
        (.ended i (perform s.object operation).1), (perform s.object operation).2⟩
  | other (step : s.connection.Step t)
    (none_ : AsyncConnection.endedCalls t.history = AsyncConnection.endedCalls s.connection.history) :
    Step perform s ⟨t, s.object⟩

/-- Any number of steps. -/
def Reaches (perform : σ → Operation ω → Except ε ρ × σ) (s t : ServedConnection σ ω ε ρ) : Prop :=
  Relation.ReflTransGen (Step perform) s t

variable {perform : σ → Operation ω → Except ε ρ × σ} {s t : ServedConnection σ ω ε ρ}

theorem Step.connection (step : Step perform s t) : s.connection.Step t.connection := by
  cases step with
  | execute own call => exact .execute own _
  | other step none_ => exact step

theorem Reaches.connection (reached : Reaches perform s t) : s.connection.Reaches t.connection := by
  induction reached with
  | refl => exact .refl
  | tail _ step held => exact held.tail step.connection

/-- The calls whose functions have returned, in this order. -/
def executedIds (s : ServedConnection σ ω ε ρ) : List Nat :=
  (AsyncConnection.endedCalls s.connection.history).map Prod.fst

def outcomes (s : ServedConnection σ ω ε ρ) : List (Except ε ρ) :=
  (AsyncConnection.endedCalls s.connection.history).map Prod.snd

/-- The functions were executed one after the other, each on what the one before
has left. -/
def Sequential (perform : σ → Operation ω → Except ε ρ × σ) (x : σ) (s : ServedConnection σ ω ε ρ) : Prop :=
  ∃ operations, List.Forall₂ (fun i operation => s.connection.operation? i = some operation) s.executedIds operations ∧
    run perform x operations = (s.outcomes, s.object)

theorem Sequential.step (held : Sequential perform x s) (step : Step perform s t) : Sequential perform x t := by
  obtain ⟨operations, found, same⟩ := held
  have kept : List.Forall₂ (fun i operation => t.connection.operation? i = some operation) s.executedIds operations :=
    found.imp fun _ _ known => AsyncConnection.operation?_step step.connection known
  cases step with
  | @execute operation _ i own call =>
    have more : AsyncConnection.endedCalls ({ s.connection with
        worker := .executed i (perform s.object operation).1 }.record
          (.ended i (perform s.object operation).1)).history =
        AsyncConnection.endedCalls s.connection.history ++ [(i, (perform s.object operation).1)] := by
      simp [AsyncConnection.endedCalls, AsyncConnection.record]
    refine ⟨operations ++ [operation], ?_, ?_⟩
    · rw [executedIds, more, List.map_append]
      exact List.rel_append kept (.cons call .nil)
    · rw [run_concat, same, Prod.mk.injEq]
      refine ⟨?_, rfl⟩
      rw [outcomes, outcomes, more, List.map_append]
      rfl
  | other step none_ =>
    refine ⟨operations, ?_, ?_⟩
    · rw [executedIds, none_]
      exact kept
    · rw [outcomes, none_]
      exact same

theorem sequential_of_reaches (reached : Reaches perform (fresh x) s) : Sequential perform x s := by
  induction reached with
  | refl => exact ⟨[], .nil, rfl⟩
  | tail _ step held => exact held.step step

/-! ## The order of acceptance -/

/-- In some state of the run the first call was answered and the second one not
accepted yet. -/
def AnsweredBefore (perform : σ → Operation ω → Except ε ρ × σ) (x : σ) (s : ServedConnection σ ω ε ρ)
    (i j : Nat) : Prop :=
  ∃ u, Reaches perform (fresh x) u ∧ Reaches perform u s ∧
    (∃ outcome, u.connection.future? i = some (.finished outcome)) ∧ u.connection.calls.length ≤ j

theorem AnsweredBefore.lt (before : AnsweredBefore perform x s i j) : i < j := by
  obtain ⟨u, -, -, ⟨outcome, finished⟩, late⟩ := before
  obtain ⟨call, accepted, -⟩ := Option.map_eq_some_iff.mp finished
  have inside := (List.getElem?_eq_some_iff.mp accepted).1
  omega

/-- The calls executed, the one being executed and the waiting ones are the
accepted calls that were not left out, in the order of their acceptance. -/
theorem executedIds_complete (reached : Reaches perform (fresh x) s) :
    s.executedIds ++ s.connection.executing.toList ++ s.connection.waitingIds =
      (List.range s.connection.calls.length).filter (· ∉ AsyncConnection.skippedIds s.connection.history) := by
  have order := (AsyncConnection.ordered_of_reaches reached.connection).order
  have begun := (AsyncConnection.serial_of_reaches reached.connection).begunIds_eq
  rw [order, begun]
  rfl

theorem executedIds_growing (reached : Reaches perform (fresh x) s) : s.executedIds.Pairwise (· < ·) := by
  have growing : ((List.range s.connection.calls.length).filter
      (· ∉ AsyncConnection.skippedIds s.connection.history)).Pairwise (· < ·) := List.pairwise_lt_range.filter _
  rw [← executedIds_complete reached, List.append_assoc] at growing
  exact (List.pairwise_append.mp growing).1

/-- The outcome in a future is the one at the place of its call. -/
theorem answered_executed (reached : Reaches perform (fresh x) s)
    (finished : s.connection.future? i = some (.finished outcome)) :
    ∃ k : Nat, s.executedIds[k]? = some i ∧ s.outcomes[k]? = some outcome := by
  have ended := (AsyncConnection.delivered_of_reaches reached.connection).own i outcome finished
  obtain ⟨k, inside, found⟩ := List.getElem_of_mem (AsyncConnection.mem_endedCalls.mpr ended)
  have there := List.getElem?_eq_some_iff.mpr ⟨inside, found⟩
  exact ⟨k, by rw [executedIds, List.getElem?_map, there]; rfl, by rw [outcomes, List.getElem?_map, there]; rfl⟩

/-- What clients see of the object is explained by the order in which their
calls were accepted: no accepted call is missing from it or overtaken unless it
was left out, the object is in the state that this order leaves, and each
outcome in a future is the result of its call there. -/
structure Linearizable (perform : σ → Operation ω → Except ε ρ × σ) (x : σ) (s : ServedConnection σ ω ε ρ) :
    Prop where
  linearizes : Linearizes perform x s.connection.operation? (AnsweredBefore perform x s)
    (fun i outcome => s.connection.future? i = some (.finished outcome)) s.executedIds
  complete : s.executedIds ++ s.connection.executing.toList ++ s.connection.waitingIds =
    (List.range s.connection.calls.length).filter (· ∉ AsyncConnection.skippedIds s.connection.history)
  sequential : Sequential perform x s

theorem async_linearizable (reached : Reaches perform (fresh x) s) : Linearizable perform x s where
  linearizes := by
    obtain ⟨operations, found, same⟩ := sequential_of_reaches reached
    have growing := executedIds_growing reached
    refine ⟨growing.imp Nat.ne_of_lt, ⟨operations, found, ?_⟩, ?_⟩
    · intro i outcome finished
      rw [same]
      exact answered_executed reached finished
    · intro i j before m k first second
      exact lt_of_growing growing first second before.lt
  complete := executedIds_complete reached
  sequential := sequential_of_reaches reached

theorem endedCalls_concat {events : List (CallEvent ε ρ)} (other : ∀ i outcome, event ≠ .ended i outcome) :
    AsyncConnection.endedCalls (events ++ [event]) = AsyncConnection.endedCalls events := by
  cases event with
  | ended i outcome => exact absurd rfl (other i outcome)
  | _ => simp [AsyncConnection.endedCalls]

/-- A call that is submitted to an idle connection can be executed and answered
at once. -/
theorem reaches_answered (idle : s.connection.worker = .idle) (empty : s.connection.queue = [])
    (none_ : s.connection.callbacks = []) (opened : s.connection.closed = false) (op : ω) :
    Reaches perform s
      ⟨{ s.connection with
          calls := s.connection.calls ++ [⟨.client op, .finished (perform s.object (.client op)).1⟩]
          history := s.connection.history ++ [.dequeued s.connection.calls.length] ++
            [.began s.connection.calls.length] ++
            [.ended s.connection.calls.length (perform s.object (.client op)).1] },
        (perform s.object (.client op)).2⟩ := by
  obtain ⟨⟨closed, calls, queue, worker, callbacks, closings, history⟩, object⟩ := s
  cases idle
  cases empty
  cases none_
  cases opened
  have pending : (calls ++ [(⟨.client op, .pending⟩ : Call ω ε ρ)])[calls.length]?.map (·.future) = some .pending := by
    simp
  have function : (calls ++ [(⟨.client op, .pending⟩ : Call ω ε ρ)])[calls.length]?.map (·.operation) =
      some (.client op) := by simp
  have accepted : Reaches perform ⟨⟨false, calls, [], .idle, [], closings, history⟩, object⟩
      ⟨⟨false, calls ++ [⟨.client op, .pending⟩], [.call calls.length], .idle, [], closings, history⟩, object⟩ :=
    .single (.other (.submit op) rfl)
  have dequeued := accepted.tail (.other (.dequeue rfl rfl) (endedCalls_concat nofun))
  have began := dequeued.tail (.other (AsyncConnection.step_begin rfl pending) (endedCalls_concat nofun))
  have ended := began.tail (.execute rfl function)
  have sent := ended.tail (.other (.callSoon rfl) rfl)
  have delivered := sent.tail (.other (AsyncConnection.step_deliver rfl pending) rfl)
  have answered : (calls ++ [(⟨.client op, .pending⟩ : Call ω ε ρ)]).modify calls.length (fun call =>
      { call with future := .finished (perform object (.client op)).1 }) =
      calls ++ [⟨.client op, .finished (perform object (.client op)).1⟩] := by
    rw [List.modify_eq_set_getElem?]
    simp
  rw [← answered]
  exact delivered

/-- A counter that each call increments. -/
def count (n : Nat) (_ : Operation Unit) : Except Unit Nat × Nat := (.ok n, n + 1)

/-- Two calls, of which the first is answered before the second is accepted. -/
theorem counter_linearizable : ∃ s : ServedConnection Nat Unit Unit Nat,
    s.connection.future? 0 = some (.finished (.ok 0)) ∧ s.object = 2 ∧ Linearizable count 0 s := by
  have first : Reaches count (fresh 0) _ := reaches_answered rfl rfl rfl rfl ()
  have second := first.trans (reaches_answered rfl rfl rfl rfl ())
  exact ⟨_, rfl, rfl, async_linearizable second⟩

end ServedConnection

end PyAds
