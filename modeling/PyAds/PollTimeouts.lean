import PyAds.Base.Polling
import PyAds.TimedFunctionBlock

/-! Waiting for a step chain with a timeout, on the clock of the PLC. All times
are whole milliseconds. -/
namespace PyAds
open Polling Runs

namespace StepChainObject

/-- What `_wait_until_done` makes of a status read at some instant. -/
def statusDecision (obj : StepChainObject) (methodName : String) (requestId : Int)
    (sumRead : Nat → Result (OrderedDict String PyVal)) (instant : Nat) :
    Option (Except StepChainError (OrderedDict String PyVal)) :=
  match sumRead instant with
  | .error e => some (.error (.raised e))
  | .ok values =>
    match obj.isCompleted values methodName requestId with
    | .error e => some (.error e)
    | .ok true => some (.ok values)
    | .ok false => none

/-- `_wait_until_done` from the instant at which the start call was answered: how
it ends, and when. -/
def waitUntilDone (obj : StepChainObject) (methodName : String) (requestId : Int) (accepted : Result PyVal)
    (answered : Nat) (timeout : Option Nat) (sumRead : Nat → Result (OrderedDict String PyVal)) (turns : List Turn) :
    Option (Nat × Except StepChainError (OrderedDict String PyVal)) :=
  match accepted with
  | .error e => some (answered, .error (.raised e))
  | .ok (.bool false) => some (answered, .error (.rejected methodName))
  | .ok _ =>
    match poll (obj.statusDecision methodName requestId sumRead) (timeout.map (answered + ·)) turns with
    | .decided clock result => some (clock, result)
    | .expired clock => some (clock, .error (.timedOut methodName requestId))
    | .waiting => none

end StepChainObject

namespace PlcTask

/-- The PLC at some instant. -/
def at_ (events : List (Nat × PlcEvent)) (instant : Nat) : PlcTask :=
  (events.takeWhile (·.1 ≤ instant)).foldl step {}

/-- Other starts are refused. -/
def Undisturbed (task : PlcTask) (event : Nat × PlcEvent) : Prop :=
  match event.2 with
  | .cycle => True
  | .start .. => task.fb.block.busy = true
  | .abort => False

instance : Decidable (Undisturbed task event) := by
  unfold Undisturbed
  split <;> infer_instance

section
variable {task : PlcTask} {cycleTime now : Nat}

/-- The result of a chain stays. -/
theorem result_kept {events : List (Nat × PlcEvent)} (idle : task.fb.block.busy = false)
    (alone : Along step Undisturbed task events) {chain : FunctionBlock.Chain}
    (shown : task.fb.block.Shows requestId chain) : (events.foldl step task).fb.block.Shows requestId chain ∧
      (events.foldl step task).fb.block.stStepStatus.diErrorCode = task.fb.block.stStepStatus.diErrorCode := by
  induction events generalizing task with
  | nil => exact ⟨shown, rfl⟩
  | cons event events ih =>
    obtain ⟨instant, event⟩ := event
    obtain ⟨here, later⟩ := alone
    cases event with
    | cycle =>
      have still : (task.step (instant, .cycle)).fb.block.busy = false := by
        simp [step, TimedFunctionBlock.cycle, FunctionBlock.cycle, idle]
      have code : (task.step (instant, .cycle)).fb.block.stStepStatus.diErrorCode =
          task.fb.block.stStepStatus.diErrorCode := by
        simp [step, TimedFunctionBlock.cycle, FunctionBlock.cycle, idle]
      have shows_ : (task.step (instant, .cycle)).fb.block.Shows requestId
          (FunctionBlock.endOf task.fb.block (task.step (instant, .cycle)).fb.block chain) :=
        FunctionBlock.continues_cycle task.fb.block _ requestId chain shown
      rw [FunctionBlock.endOf, if_neg (by simp [idle])] at shows_
      obtain ⟨kept, same⟩ := ih still later shows_
      exact ⟨kept, same.trans code⟩
    | start other force => cases idle.symm.trans here
    | abort => exact here.elim

theorem times_le {events : List (Nat × PlcEvent)} (onTime : Along step (OnTime cycleTime) task events) :
    task.now ≤ (events.foldl step task).now ∧ ∀ event ∈ events, event.1 ≤ (events.foldl step task).now := by
  induction events generalizing task with
  | nil => simp
  | cons event events ih =>
    obtain ⟨here, later⟩ := onTime
    obtain ⟨first, others⟩ := ih later
    have instant : (task.step event).now = event.1 := by
      unfold step
      split <;> rfl
    rw [instant] at first
    exact ⟨here.1.trans first, List.forall_mem_cons.mpr ⟨first, others⟩⟩

/-- At each instant behind an accepted start that no other call disturbs, the
chain runs or shows its end, and runs for no longer than the longest time. -/
theorem shows_at {before after : List (Nat × PlcEvent)} {instant requestId : Nat} {forceError : Bool}
    (onTime : Along step (OnTime cycleTime) {} (before ++ (instant, .start requestId forceError) :: after))
    (idle : (before.foldl step {}).fb.block.busy = false)
    (alone : Along step Undisturbed ((before ++ [(instant, PlcEvent.start requestId forceError)]).foldl step {}) after)
    (reached : instant ≤ now)
    (served : now ≤ (at_ (before ++ (instant, .start requestId forceError) :: after) now).lastCycle + cycleTime) :
    let plc := at_ (before ++ (instant, .start requestId forceError) :: after) now
    plc.fb.block.Shows requestId .running ∧ now ≤ instant + longest cycleTime forceError ∨
      plc.fb.block.Shows requestId (outcomeOf forceError) ∧
        plc.fb.block.stStepStatus.diErrorCode = if forceError then 9001 else 0 := by
  obtain ⟨earlier, here, later⟩ := along_append.mp onTime
  have past : ∀ event ∈ before, event.1 ≤ now := fun event member =>
    ((times_le earlier).2 event member).trans (here.1.trans reached)
  have taken : (before ++ (instant, .start requestId forceError) :: after).takeWhile (·.1 ≤ now) =
      before ++ (instant, .start requestId forceError) :: after.takeWhile (·.1 ≤ now) := by
    rw [List.takeWhile_append_of_pos (by simpa using past), List.takeWhile_cons_of_pos (by simpa using reached)]
  rw [← List.takeWhile_append_dropWhile (p := (·.1 ≤ now)) (l := after)] at later alone
  obtain ⟨busy, shown, error, due, -⟩ := start_accepted (regular_run earlier) idle here
  have alone_ := (along_append.mp alone).1
  rw [List.foldl_append, List.foldl_cons, List.foldl_nil] at alone_
  rw [at_, taken, List.foldl_append, List.foldl_cons] at served ⊢
  obtain ⟨first, rest, split, ⟨ends, shows_⟩ | ⟨goesOn, shows_, stops⟩⟩ :=
    run_busy busy shown (along_append.mp later).1
  · rw [split] at alone_ ⊢
    rw [List.foldl_append]
    obtain ⟨kept, code⟩ := result_kept ends.rested.busy (along_append.mp alone_).2 shows_
    exact .inr ⟨by rwa [error] at kept, by rw [code, ends.code, error]⟩
  · cases rest with
    | nil =>
      rw [List.append_nil] at split
      rw [split] at served ⊢
      exact .inl ⟨shows_, served.trans ((le_due _ _).trans (goesOn.due.trans due))⟩
    | cons event others =>
      rw [split] at alone_
      have undisturbed := (along_append.mp alone_).2.1
      rw [Undisturbed, stops event rfl] at undisturbed
      exact undisturbed.elim

/-! ## Awaited chains -/

/-- The status at some instant, in a sum read. -/
def statusAt (objectName : String) (events : List (Nat × PlcEvent)) (instant : Nat) :
    Result (OrderedDict String PyVal) :=
  .ok ((referenceObject objectName "poll").snapshot (at_ events instant).fb.block.stStepStatus).values

/-- What a chain that is not aborted leads to: the values of its status, or its
error. -/
def Leads (objectName methodName : String) (requestId : Nat) (forceError : Bool) :
    Except StepChainError (OrderedDict String PyVal) → Prop
  | .ok values => forceError = false ∧ ∃ status : StepStatus,
      values = ((referenceObject objectName "poll").snapshot status).values ∧ status.udiRequestId = requestId ∧
        status.xDone = true ∧ status.xError = false
  | .error (.failed name id code) =>
    forceError = true ∧ name = methodName ∧ id = requestId ∧ code = some (.int 9001)
  | .error _ => False

section Decisions
variable {events : List (Nat × PlcEvent)}

theorem decision_running (shown : (at_ events now).fb.block.Shows requestId .running) :
    (referenceObject objectName "poll").statusDecision methodName requestId (statusAt objectName events) now = none := by
  have done : (at_ events now).fb.block.stStepStatus.xDone = false := by
    simpa using mt shown.done.mp
  have error : (at_ events now).fb.block.stStepStatus.xError = false := by
    simpa using mt shown.error.mp
  simp only [StepChainObject.statusDecision, statusAt, StepChainObject.isCompleted_snapshot, shown.requestId, done, error,
    ↓reduceIte, Bool.false_eq_true]

theorem decision_ended (objectName methodName : String)
    (shown : (at_ events now).fb.block.Shows requestId (outcomeOf forceError))
    (code : (at_ events now).fb.block.stStepStatus.diErrorCode = if forceError then 9001 else 0) :
    ∃ result, (referenceObject objectName "poll").statusDecision methodName requestId (statusAt objectName events) now =
      some result ∧ Leads objectName methodName requestId forceError result := by
  cases forceError with
  | false =>
    have done := shown.done.mpr rfl
    have error : (at_ events now).fb.block.stStepStatus.xError = false := by
      simpa [outcomeOf] using mt shown.error.mp
    refine ⟨.ok ((referenceObject objectName "poll").snapshot (at_ events now).fb.block.stStepStatus).values, ?_, rfl,
      _, rfl, shown.requestId, done, error⟩
    simp only [StepChainObject.statusDecision, statusAt, StepChainObject.isCompleted_snapshot, shown.requestId, done, error,
      ↓reduceIte, Bool.false_eq_true]
  | true =>
    have error := shown.error.mpr rfl
    refine ⟨.error (.failed methodName requestId (some (.int 9001))), ?_, rfl, rfl, rfl, rfl⟩
    simp only [StepChainObject.statusDecision, statusAt, StepChainObject.isCompleted_snapshot, shown.requestId, error,
      ↓reduceIte, code]

end Decisions

/-- An operation that nobody disturbs, with a timeout of more than the longest
time of its chain and one read, is never timed out. It ends with the result of
its own chain, soon after the chain, as soon as it has read often enough. -/
theorem chain_awaited_in_time (objectName methodName : String) (cycleTime latency interval : Nat)
    (before after : List (Nat × PlcEvent)) (instant requestId : Nat) (forceError : Bool)
    (onTime : Along step (OnTime cycleTime) {} (before ++ (instant, .start requestId forceError) :: after))
    (idle : (before.foldl step {}).fb.block.busy = false)
    (alone : Along step Undisturbed ((before ++ [(instant, PlcEvent.start requestId forceError)]).foldl step {}) after)
    (answered : Nat) (reached : instant ≤ answered) (timeout : Option Nat)
    (early : ∀ limit ∈ timeout, longest cycleTime forceError + latency < limit)
    (turns : List Turn) (paced : Paced latency interval answered turns)
    (served : ∀ turn ∈ turns, turn.observed ≤
      (at_ (before ++ (instant, .start requestId forceError) :: after) turn.observed).lastCycle + cycleTime) :
    let outcome := (referenceObject objectName "poll").waitUntilDone methodName requestId (.ok (.bool true)) answered
      timeout (statusAt objectName (before ++ (instant, .start requestId forceError) :: after)) turns
    (∀ result, outcome = some result → Leads objectName methodName requestId forceError result.2 ∧
      result.1 ≤ max answered (instant + longest cycleTime forceError + latency + interval) + 2 * latency) ∧
    (∀ n, turns.length = n + 1 → instant + longest cycleTime forceError < answered + n * interval →
      outcome ≠ none) := by
  intro outcome
  have shows_ (turn : Turn) (member : turn ∈ turns) :=
    shows_at onTime idle alone (reached.trans (paced.le_observed member)) (served turn member)
  have settles : ∀ turn ∈ turns, instant + longest cycleTime forceError < turn.observed →
      (referenceObject objectName "poll").statusDecision methodName requestId
        (statusAt objectName (before ++ (instant, .start requestId forceError) :: after)) turn.observed ≠ none := by
    intro turn member late
    rcases shows_ turn member with ⟨-, soon⟩ | ⟨shown, code⟩
    · omega
    · obtain ⟨result, decided, -⟩ := decision_ended objectName methodName shown code
      rw [decided]
      exact Option.some_ne_none result
  have soon : ∀ limit ∈ timeout.map (answered + ·), instant + longest cycleTime forceError + latency < limit := by
    intro limit given
    obtain ⟨span, own, rfl⟩ := Option.mem_map.mp given
    have := early span own
    omega
  constructor
  · rintro ⟨clock, result⟩ ended
    rcases paced.outcome settles soon with waiting | ⟨turn, member, value, decided, polled, prompt⟩
    · simp only [outcome, StepChainObject.waitUntilDone, waiting] at ended
      cases ended
    · simp only [outcome, StepChainObject.waitUntilDone, polled] at ended
      cases ended
      refine ⟨?_, prompt⟩
      rcases shows_ turn member with ⟨running, -⟩ | ⟨shown, code⟩
      · cases (decision_running running).symm.trans decided
      · obtain ⟨other, same, leads⟩ := decision_ended objectName methodName shown code
        cases same.symm.trans decided
        exact leads
  · intro n many long ended
    rcases paced.outcome settles soon with waiting | ⟨turn, -, value, -, polled, -⟩
    · exact paced.not_waiting settles many long waiting
    · simp only [outcome, StepChainObject.waitUntilDone, polled] at ended
      cases ended

/-- A chain that is awaited with half a second between two reads, each within
100 ms, while another client tries to start one of its own. -/
def idleCycles : List (Nat × PlcEvent) := (List.range 5).map fun i => (500 * i + 500, .cycle)

def awaitedChain : List (Nat × PlcEvent) :=
  (2550, .start 12 false) :: (List.range 30).map fun i => (500 * i + 3000, .cycle)

def halfSeconds : List Turn := (List.range 25).map fun i => ⟨600 * i + 2600, 600 * i + 2700⟩

theorem awaited_chain_done : ∃ clock values, (referenceObject "GVL.fbStepChain" "poll").waitUntilDone
      "m_xStartStepChain" 9 (.ok (.bool true)) 2600 (some 13000)
      (statusAt "GVL.fbStepChain" (idleCycles ++ (2500, .start 9 false) :: awaitedChain)) halfSeconds =
    some (clock, .ok values) ∧ clock ≤ 15300 := by
  obtain ⟨leads, ends⟩ := chain_awaited_in_time "GVL.fbStepChain" "m_xStartStepChain" 500 100 500
    idleCycles awaitedChain 2500 9 false (by decide +kernel) (by decide +kernel) (by decide +kernel)
    2600 (by decide) (some 13000) (by decide +kernel) halfSeconds (by decide +kernel) (by decide +kernel)
  obtain ⟨⟨clock, result⟩, same⟩ := Option.ne_none_iff_exists'.mp (ends 24 rfl (by decide +kernel))
  obtain ⟨right, prompt⟩ := leads _ same
  cases result with
  | ok values => exact ⟨clock, values, same, prompt.trans (by decide +kernel)⟩
  | error e => cases e <;> simp [Leads] at right

end

end PlcTask

end PyAds
