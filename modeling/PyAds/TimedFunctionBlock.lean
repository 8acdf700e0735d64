import PyAds.Base.Runs
import PyAds.FunctionBlock

/-! The reference function block with its timers, called by a cyclic task. A
timer only knows what it has seen in a cycle, so an abortion and a new start
between two cycles leave the timer of the first step running. -/
namespace PyAds
open Runs

/-- The timer `TON`: when its input became true. -/
structure Ton where
  since : Option Nat := none
  deriving DecidableEq, Repr

namespace Ton

/-- A call at some instant, in milliseconds, with the output `Q`. -/
def call (ton : Ton) (now : Nat) (input : Bool) (pt : Nat) : Bool × Ton :=
  if input then (decide (ton.since.getD now + pt ≤ now), ⟨some (ton.since.getD now)⟩) else (false, {})

end Ton

/-- `FB_TestStepChain` -/
structure TimedFunctionBlock where
  block : FunctionBlock := .initial
  tonPrepare : Ton := {}
  tonLoad : Ton := {}
  tonProcess : Ton := {}
  tonFinalize : Ton := {}
  deriving DecidableEq, Repr

inductive PlcEvent where
  | cycle
  | start (udiRequestId : Nat) (forceError : Bool)
  | abort
  deriving DecidableEq, Repr

namespace TimedFunctionBlock

/-- The body of the function block. -/
def cycle (fb : TimedFunctionBlock) (now : Nat) : TimedFunctionBlock :=
  let prepare := fb.tonPrepare.call now (fb.block.internalStep = 10) 2000
  let load := fb.tonLoad.call now (fb.block.internalStep = 20) 2000
  let process := fb.tonProcess.call now (fb.block.internalStep = 30) 3000
  let finalize := fb.tonFinalize.call now (fb.block.internalStep = 40) 1000
  ⟨fb.block.cycle ⟨prepare.1, load.1, process.1, finalize.1⟩, prepare.2, load.2, process.2, finalize.2⟩

end TimedFunctionBlock

/-- The function block in its task, with the instants of the last event and of
the last cycle. -/
structure PlcTask where
  fb : TimedFunctionBlock := {}
  now : Nat := 0
  lastCycle : Nat := 0
  deriving DecidableEq, Repr

namespace PlcTask

/-- An event at some instant. -/
def step (task : PlcTask) (event : Nat × PlcEvent) : PlcTask :=
  match event.2 with
  | .cycle => ⟨task.fb.cycle event.1, event.1, event.1⟩
  | .start udiRequestId forceError =>
    { task with now := event.1, fb.block := (task.fb.block.start udiRequestId forceError).2 }
  | .abort => { task with now := event.1, fb.block := task.fb.block.abort.2 }

/-- Events come one after the other, and no later than a cycle is due. -/
def OnTime (cycleTime : Nat) (task : PlcTask) (event : Nat × PlcEvent) : Prop :=
  task.now ≤ event.1 ∧ event.1 ≤ task.lastCycle + cycleTime

instance : Decidable (OnTime cycleTime task event) := inferInstanceAs (Decidable (_ ∧ _))

/-- An abortion is refused. -/
def AbortsNothing (task : PlcTask) (event : Nat × PlcEvent) : Prop :=
  event.2 = .abort → task.fb.block.busy = false

instance : Decidable (AbortsNothing task event) := inferInstanceAs (Decidable (_ → _))

/-! ## The time that a chain takes -/

/-- The times of the timers; an error is raised in the first cycle of its step. -/
def preset (forceError : Bool) : Nat → Nat
  | 10 | 20 => 2000
  | 30 => if forceError then 0 else 3000
  | _ => 1000

/-- The steps that follow, with what each of them takes beside its timer. -/
def later (forceError : Bool) (slack : Nat) : Nat → Nat
  | 10 => if forceError then 2000 + 2 * slack else 6000 + 3 * slack
  | 20 => if forceError then slack else 4000 + 2 * slack
  | 30 => if forceError then 0 else 1000 + slack
  | _ => 0

/-- The timer of the present step. -/
def ton (task : PlcTask) : Ton :=
  match task.fb.block.internalStep with
  | 10 => task.fb.tonPrepare
  | 20 => task.fb.tonLoad
  | 30 => task.fb.tonProcess
  | _ => task.fb.tonFinalize

/-- The instant at which the chain has ended, at the latest. -/
def due (cycleTime : Nat) (task : PlcTask) : Nat :=
  let pt := preset task.fb.block.simulateError task.fb.block.internalStep
  let rest := later task.fb.block.simulateError (2 * cycleTime) task.fb.block.internalStep
  match task.ton.since with
  | some since => max task.lastCycle (since + pt) + cycleTime + rest
  | none => task.lastCycle + pt + 2 * cycleTime + rest

/-- The instant before which it does not end. -/
def earliest (task : PlcTask) : Nat :=
  let pt := preset task.fb.block.simulateError task.fb.block.internalStep
  let rest := later task.fb.block.simulateError 0 task.fb.block.internalStep
  match task.ton.since with
  | some since => max task.now (since + pt) + rest
  | none => task.now + pt + rest

/-- A chain in one of its steps; an error is raised before the timer of the
step has started. -/
structure Busy (task : PlcTask) : Prop where
  busy : task.fb.block.busy = true
  step : task.fb.block.internalStep = 10 ∨ task.fb.block.internalStep = 20 ∨ task.fb.block.internalStep = 30 ∨
    task.fb.block.internalStep = 40
  process : task.fb.block.internalStep = 30 → task.fb.block.simulateError = true → task.fb.tonProcess.since = none
  finalize : task.fb.block.internalStep = 40 → task.fb.block.simulateError = false

/-- No chain runs, nor does the timer of the first step. -/
structure Rested (task : PlcTask) : Prop where
  busy : task.fb.block.busy = false
  step : task.fb.block.internalStep ≠ 10
  prepare : task.fb.tonPrepare.since = none

/-- What a cycle does to a chain: its timer is not over, or the next step
begins, or the chain ends. -/
inductive Advance (now : Nat) (task after : PlcTask) : Prop
  | stays (busy : Busy after) (step : after.fb.block.internalStep = task.fb.block.internalStep)
      (since : after.ton.since = some (task.ton.since.getD now))
      (early : now < task.ton.since.getD now + preset task.fb.block.simulateError task.fb.block.internalStep)
  | next (busy : Busy after) (since : after.ton.since = none)
      (passed : task.ton.since.getD now + preset task.fb.block.simulateError task.fb.block.internalStep ≤ now)
      (rest : ∀ slack, later task.fb.block.simulateError slack task.fb.block.internalStep =
        preset task.fb.block.simulateError after.fb.block.internalStep + slack +
          later task.fb.block.simulateError slack after.fb.block.internalStep)
  | ends (rested : Rested after) (done : after.fb.block.stStepStatus.xDone = !task.fb.block.simulateError)
      (code : after.fb.block.stStepStatus.diErrorCode = if task.fb.block.simulateError then 9001 else 0)
      (passed : task.ton.since.getD now + preset task.fb.block.simulateError task.fb.block.internalStep ≤ now)
      (rest : ∀ slack, later task.fb.block.simulateError slack task.fb.block.internalStep = 0)

section Cycle
variable {task : PlcTask} {cycleTime now : Nat}

theorem simulateError_cycle (task : PlcTask) (now : Nat) :
    (task.step (now, .cycle)).fb.block.simulateError = task.fb.block.simulateError := by
  simp only [step, TimedFunctionBlock.cycle, FunctionBlock.cycle]
  split
  · unfold FunctionBlock.busyCycle
    repeat' split
    all_goals rfl
  · rfl

theorem advance_prepare (held : Busy task) (here : task.fb.block.internalStep = 10) (now : Nat) :
    Advance now task (task.step (now, .cycle)) := by
  have busy := held.busy
  by_cases passed : task.fb.tonPrepare.since.getD now + 2000 ≤ now
  · refine .next ⟨?_, ?_, ?_, ?_⟩ ?_ ?_ ?_
    all_goals simp [step, TimedFunctionBlock.cycle, FunctionBlock.cycle, FunctionBlock.busyCycle, Ton.call, ton, preset,
      later, busy, here, passed]
    intro slack
    split <;> omega
  · refine .stays ⟨?_, ?_, ?_, ?_⟩ ?_ ?_ ?_
    all_goals simp [step, TimedFunctionBlock.cycle, FunctionBlock.cycle, FunctionBlock.busyCycle, Ton.call, ton, preset,
      busy, here, passed]
    omega

theorem advance_load (held : Busy task) (here : task.fb.block.internalStep = 20) (now : Nat) :
    Advance now task (task.step (now, .cycle)) := by
  have busy := held.busy
  by_cases passed : task.fb.tonLoad.since.getD now + 2000 ≤ now
  · refine .next ⟨?_, ?_, ?_, ?_⟩ ?_ ?_ ?_
    all_goals simp [step, TimedFunctionBlock.cycle, FunctionBlock.cycle, FunctionBlock.busyCycle, Ton.call, ton, preset,
      later, busy, here, passed]
    intro slack
    split <;> omega
  · refine .stays ⟨?_, ?_, ?_, ?_⟩ ?_ ?_ ?_
    all_goals simp [step, TimedFunctionBlock.cycle, FunctionBlock.cycle, FunctionBlock.busyCycle, Ton.call, ton, preset,
      busy, here, passed]
    omega

/-- An error is raised in the first cycle of this step. -/
theorem advance_process (held : Busy task) (here : task.fb.block.internalStep = 30) (now : Nat) :
    Advance now task (task.step (now, .cycle)) := by
  have busy := held.busy
  cases error : task.fb.block.simulateError with
  | true =>
    have first := held.process here error
    refine .ends ⟨?_, ?_, ?_⟩ ?_ ?_ ?_ ?_
    all_goals simp [step, TimedFunctionBlock.cycle, FunctionBlock.cycle, FunctionBlock.busyCycle, Ton.call, ton, preset,
      later, busy, here, error, first]
  | false =>
    by_cases passed : task.fb.tonProcess.since.getD now + 3000 ≤ now
    · refine .next ⟨?_, ?_, ?_, ?_⟩ ?_ ?_ ?_
      all_goals simp [step, TimedFunctionBlock.cycle, FunctionBlock.cycle, FunctionBlock.busyCycle, Ton.call, ton, preset,
        later, busy, here, passed, error]
    · refine .stays ⟨?_, ?_, ?_, ?_⟩ ?_ ?_ ?_
      all_goals simp [step, TimedFunctionBlock.cycle, FunctionBlock.cycle, FunctionBlock.busyCycle, Ton.call, ton, preset,
        busy, here, passed, error]
      omega

theorem advance_finalize (held : Busy task) (here : task.fb.block.internalStep = 40) (now : Nat) :
    Advance now task (task.step (now, .cycle)) := by
  have busy := held.busy
  have error := held.finalize here
  by_cases passed : task.fb.tonFinalize.since.getD now + 1000 ≤ now
  · refine .ends ⟨?_, ?_, ?_⟩ ?_ ?_ ?_ ?_
    all_goals simp [step, TimedFunctionBlock.cycle, FunctionBlock.cycle, FunctionBlock.busyCycle, Ton.call, ton, preset,
      later, busy, here, passed, error]
  · refine .stays ⟨?_, ?_, ?_, ?_⟩ ?_ ?_ ?_
    all_goals simp [step, TimedFunctionBlock.cycle, FunctionBlock.cycle, FunctionBlock.busyCycle, Ton.call, ton, preset,
      busy, here, passed, error]
    omega

theorem advance (held : Busy task) (now : Nat) : Advance now task (task.step (now, .cycle)) := by
  rcases held.step with here | here | here | here
  · exact advance_prepare held here now
  · exact advance_load held here now
  · exact advance_process held here now
  · exact advance_finalize held here now

/-! ## Bounds -/

/-- A chain that still runs is not late. -/
theorem le_due (task : PlcTask) (cycleTime : Nat) : task.lastCycle + cycleTime ≤ due cycleTime task := by
  unfold due
  cases task.ton.since <;> dsimp only <;> omega

/-- A chain goes on, and takes no longer than it had to. -/
structure GoesOn (cycleTime : Nat) (task after : PlcTask) : Prop where
  busy : Busy after
  error : after.fb.block.simulateError = task.fb.block.simulateError
  due : due cycleTime after ≤ due cycleTime task
  earliest : earliest task ≤ earliest after

/-- A chain ends within its time. -/
structure Ends (cycleTime : Nat) (task after : PlcTask) : Prop where
  rested : Rested after
  done : after.fb.block.stStepStatus.xDone = !task.fb.block.simulateError
  code : after.fb.block.stStepStatus.diErrorCode = if task.fb.block.simulateError then 9001 else 0
  due : after.now ≤ due cycleTime task
  earliest : earliest task ≤ after.now

theorem cycle_busy (held : Busy task) (onTime : OnTime cycleTime task (now, .cycle)) :
    GoesOn cycleTime task (task.step (now, .cycle)) ∨ Ends cycleTime task (task.step (now, .cycle)) := by
  obtain ⟨after, soon⟩ := onTime
  have error := simulateError_cycle task now
  have late := task.le_due cycleTime
  dsimp only at after soon
  have times : (task.step (now, .cycle)).now = now ∧ (task.step (now, .cycle)).lastCycle = now := ⟨rfl, rfl⟩
  obtain ⟨instant, last⟩ := times
  cases advance held now with
  | stays busy step since early =>
    refine .inl ⟨busy, error, ?_, ?_⟩
    · simp only [due, step, since, error, last]
      cases old : task.ton.since <;> simp only [old, Option.getD_none, Option.getD_some] at early ⊢ <;> omega
    · simp only [earliest, step, since, error, instant]
      cases old : task.ton.since <;> simp only [old, Option.getD_none, Option.getD_some] at early ⊢ <;> omega
  | next busy since passed rest =>
    refine .inl ⟨busy, error, ?_, ?_⟩
    · have slack := rest (2 * cycleTime)
      simp only [due, since, error, last]
      cases old : task.ton.since <;> simp only [old, Option.getD_none, Option.getD_some] at passed ⊢ <;> omega
    · have slack := rest 0
      simp only [earliest, since, error, instant]
      cases old : task.ton.since <;> simp only [old, Option.getD_none, Option.getD_some] at passed ⊢ <;> omega
  | ends rested done code passed rest =>
    refine .inr ⟨rested, done, code, by omega, ?_⟩
    have slack := rest 0
    simp only [earliest, instant]
    cases old : task.ton.since <;> simp only [old, Option.getD_none, Option.getD_some] at passed ⊢ <;> omega

end Cycle

/-! ## Runs -/

section Runs
variable {task middle after : PlcTask} {cycleTime now : Nat}

theorem GoesOn.trans (first : GoesOn cycleTime task middle) (second : GoesOn cycleTime middle after) :
    GoesOn cycleTime task after :=
  ⟨second.busy, second.error.trans first.error, second.due.trans first.due, first.earliest.trans second.earliest⟩

theorem GoesOn.ends (first : GoesOn cycleTime task middle) (second : Ends cycleTime middle after) :
    Ends cycleTime task after :=
  ⟨second.rested, by rw [second.done, first.error], by rw [second.code, first.error], second.due.trans first.due,
    first.earliest.trans second.earliest⟩

/-- A start that finds a chain is refused. -/
theorem start_busy (held : Busy task) (onTime : OnTime cycleTime task (now, .start other force)) :
    (task.step (now, .start other force)).fb = task.fb ∧
      GoesOn cycleTime task (task.step (now, .start other force)) := by
  have same : (task.step (now, .start other force)).fb = task.fb := by
    simp [step, FunctionBlock.start, held.busy]
  have last : (task.step (now, .start other force)).lastCycle = task.lastCycle := rfl
  have instant : (task.step (now, .start other force)).now = now := rfl
  have after : task.now ≤ now := onTime.1
  refine ⟨same, ⟨by rw [same]; exact held.busy, by rw [same]; exact held.step, by rw [same]; exact held.process,
    by rw [same]; exact held.finalize⟩, by rw [same], ?_, ?_⟩
  · simp only [due, ton, same, last, le_refl]
  · simp only [earliest, ton, same, instant]
    split <;> omega

/-- How a chain ends unless it is aborted. -/
def outcomeOf (forceError : Bool) : FunctionBlock.Chain := if forceError then .failed else .done

theorem shows_cycle (now : Nat) (shown : task.fb.block.Shows requestId .running) :
    (task.step (now, .cycle)).fb.block.Shows requestId
      (FunctionBlock.endOf task.fb.block (task.step (now, .cycle)).fb.block .running) :=
  FunctionBlock.continues_cycle task.fb.block _ requestId .running shown

theorem GoesOn.shows (goesOn : GoesOn cycleTime task (task.step (now, .cycle)))
    (shown : task.fb.block.Shows requestId .running) :
    (task.step (now, .cycle)).fb.block.Shows requestId .running := by
  have shows_ := shows_cycle now shown
  rwa [FunctionBlock.endOf, if_neg (by simp [goesOn.busy.busy])] at shows_

theorem Ends.shows (ends : Ends cycleTime task (task.step (now, .cycle))) (held : Busy task)
    (shown : task.fb.block.Shows requestId .running) :
    (task.step (now, .cycle)).fb.block.Shows requestId (outcomeOf task.fb.block.simulateError) := by
  have shows_ := shows_cycle now shown
  rw [FunctionBlock.endOf, if_pos ⟨held.busy, ends.rested.busy⟩, ends.done] at shows_
  rw [outcomeOf]
  cases error : task.fb.block.simulateError <;> simpa [error] using shows_

/-- A chain goes on until it ends, or an abortion finds it, or the events are
over. -/
def RunsOn (cycleTime requestId : Nat) (task : PlcTask) (events : List (Nat × PlcEvent)) : Prop :=
  ∃ first rest, events = first ++ rest ∧
    (Ends cycleTime task (first.foldl step task) ∧
        (first.foldl step task).fb.block.Shows requestId (outcomeOf task.fb.block.simulateError) ∨
      GoesOn cycleTime task (first.foldl step task) ∧ (first.foldl step task).fb.block.Shows requestId .running ∧
        ∀ event ∈ rest.head?, event.2 = .abort)

theorem RunsOn.cons {event : Nat × PlcEvent} (later : RunsOn cycleTime requestId (task.step event) events)
    (goesOn : GoesOn cycleTime task (task.step event)) : RunsOn cycleTime requestId task (event :: events) := by
  obtain ⟨first, rest, rfl, outcome⟩ := later
  refine ⟨event :: first, rest, rfl, ?_⟩
  rcases outcome with ⟨ends, shown⟩ | ⟨still, shown, stops⟩
  · exact .inl ⟨goesOn.ends ends, by rwa [goesOn.error] at shown⟩
  · exact .inr ⟨goesOn.trans still, shown, stops⟩

theorem run_busy {events : List (Nat × PlcEvent)} (held : Busy task) (shown : task.fb.block.Shows requestId .running)
    (onTime : Along step (OnTime cycleTime) task events) : RunsOn cycleTime requestId task events := by
  induction events generalizing task with
  | nil => exact ⟨[], [], rfl, .inr ⟨⟨held, rfl, le_refl _, le_refl _⟩, shown, by simp⟩⟩
  | cons event events ih =>
    obtain ⟨here, later⟩ := onTime
    obtain ⟨instant, event⟩ := event
    cases event with
    | cycle =>
      rcases cycle_busy held here with goesOn | ends
      · exact (ih goesOn.busy (goesOn.shows shown) later).cons goesOn
      · exact ⟨[(instant, .cycle)], events, rfl, .inl ⟨ends, ends.shows held shown⟩⟩
    | start other force =>
      obtain ⟨same, goesOn⟩ := start_busy held here
      exact (ih goesOn.busy (by rwa [same]) later).cons goesOn
    | abort => exact ⟨[], (instant, .abort) :: events, rfl, .inr ⟨⟨held, rfl, le_refl _, le_refl _⟩, shown, by simp⟩⟩

/-! ## Starts -/

/-- The timer of the first step was called in a cycle. -/
structure Regular (task : PlcTask) : Prop where
  last : task.lastCycle ≤ task.now
  prepare : ∀ since ∈ task.fb.tonPrepare.since, since ≤ task.lastCycle

theorem Regular.step {event : Nat × PlcEvent} (held : Regular task) (onTime : OnTime cycleTime task event) :
    Regular (task.step event) := by
  obtain ⟨last, prepare⟩ := held
  obtain ⟨instant, event⟩ := event
  have after : task.now ≤ instant := onTime.1
  cases event with
  | cycle =>
    refine ⟨le_refl _, fun since called => ?_⟩
    change since ≤ instant
    change since ∈ (task.fb.tonPrepare.call instant (task.fb.block.internalStep = 10) 2000).2.since at called
    unfold Ton.call at called
    split at called
    · cases called
      cases old : task.fb.tonPrepare.since with
      | none => exact le_refl _
      | some since => exact (prepare since old).trans (last.trans after)
    · cases called
  | start other force => exact ⟨last.trans after, prepare⟩
  | abort => exact ⟨last.trans after, prepare⟩

theorem step_abort_refused (idle : task.fb.block.busy = false) : (task.step (now, .abort)).fb = task.fb := by
  simp [step, FunctionBlock.abort, idle]

/-- A chain is running, or the timer of the first step is not. -/
def Unaborted (task : PlcTask) : Prop := Busy task ∨ Rested task

theorem Unaborted.step {event : Nat × PlcEvent} (held : Unaborted task) (onTime : OnTime cycleTime task event)
    (refused : AbortsNothing task event) : Unaborted (task.step event) := by
  obtain ⟨instant, event⟩ := event
  rcases held with busy | rested
  · cases event with
    | cycle => exact (cycle_busy busy onTime).imp (·.busy) (·.rested)
    | start other force => exact .inl (start_busy busy onTime).2.busy
    | abort => cases busy.busy.symm.trans (refused rfl)
  · obtain ⟨busy, step, prepare⟩ := rested
    cases event with
    | cycle =>
      refine .inr ⟨?_, ?_, ?_⟩
      all_goals simp [PlcTask.step, TimedFunctionBlock.cycle, FunctionBlock.cycle, Ton.call, busy, step]
    | start other force =>
      refine .inl ⟨?_, ?_, ?_, ?_⟩
      all_goals simp [PlcTask.step, FunctionBlock.start, busy]
    | abort =>
      have same : (task.step (instant, .abort)).fb = task.fb := step_abort_refused busy
      exact .inr ⟨by rw [same]; exact busy, by rw [same]; exact step, by rw [same]; exact prepare⟩

/-- How long a chain takes at least; the first step is skipped if its timer is
over. -/
def shortest (forceError : Bool) : Nat := if forceError then 2000 else 6000

/-- How long a chain takes at most. -/
def longest (cycleTime : Nat) (forceError : Bool) : Nat :=
  if forceError then 4000 + 6 * cycleTime else 8000 + 8 * cycleTime

theorem start_accepted (regular : Regular task) (idle : task.fb.block.busy = false)
    (onTime : OnTime cycleTime task (now, .start requestId forceError)) :
    Busy (task.step (now, .start requestId forceError)) ∧
      (task.step (now, .start requestId forceError)).fb.block.Shows requestId .running ∧
      (task.step (now, .start requestId forceError)).fb.block.simulateError = forceError ∧
      due cycleTime (task.step (now, .start requestId forceError)) ≤ now + longest cycleTime forceError ∧
      now + shortest forceError ≤ earliest (task.step (now, .start requestId forceError)) ∧
      (task.fb.tonPrepare.since = none →
        now + shortest forceError + 2000 ≤ earliest (task.step (now, .start requestId forceError))) := by
  have started : task.fb.block.start requestId forceError =
      (true, ⟨⟨requestId, true, false, false, 0, 10, "Prepare"⟩, true, 10, forceError⟩) := by
    simp [FunctionBlock.start, idle]
  have fb : (task.step (now, .start requestId forceError)).fb = { task.fb with
      block := ⟨⟨requestId, true, false, false, 0, 10, "Prepare"⟩, true, 10, forceError⟩ } := by
    simp [step, started]
  have last : (task.step (now, .start requestId forceError)).lastCycle = task.lastCycle := rfl
  have instant : (task.step (now, .start requestId forceError)).now = now := rfl
  have after : task.lastCycle ≤ now := regular.last.trans onTime.1
  refine ⟨?_, ?_, by rw [fb], ?_, ?_, ?_⟩
  · refine ⟨?_, ?_, ?_, ?_⟩ <;> simp [fb]
  · rw [fb]
    exact ⟨rfl, by simp, by simp, by simp⟩
  · simp only [due, ton, preset, later, fb, last, longest]
    cases since : task.fb.tonPrepare.since with
    | none => dsimp only; split <;> omega
    | some since' =>
      have := regular.prepare since' since
      dsimp only
      split <;> omega
  · simp only [earliest, ton, preset, later, fb, instant, shortest]
    cases since : task.fb.tonPrepare.since <;> dsimp only <;> split <;> omega
  · intro since
    simp only [earliest, ton, preset, later, fb, instant, shortest, since]
    split <;> omega

theorem regular_run {events : List (Nat × PlcEvent)} (onTime : Along step (OnTime cycleTime) {} events) :
    Regular (events.foldl step {}) := by
  have throughout : Throughout step Regular {} events :=
    throughout_of_kept (fun _ _ held here => held.step here) ⟨le_refl _, by simp⟩ onTime
  exact throughout _ (foldl_mem_states ..)

theorem unaborted_run {events : List (Nat × PlcEvent)} (onTime : Along step (OnTime cycleTime) {} events)
    (refused : Along step AbortsNothing {} events) : Unaborted (events.foldl step {}) := by
  have start : Unaborted {} := .inr ⟨rfl, by decide, rfl⟩
  have throughout : Throughout step Unaborted {} events :=
    throughout_of_kept (fun _ _ held here => held.step here.1 here.2) start (along_and.mpr ⟨onTime, refused⟩)
  exact throughout _ (foldl_mem_states ..)

/-- In every run of a cyclic task, whatever else is called, a chain ends within
the time of its timers and two cycles for each step, unless the run is over before
or an abortion finds the chain. It takes no less than the timers, except that of
the first step after a chain was aborted. -/
theorem chain_ends_in_time (cycleTime : Nat) (before after : List (Nat × PlcEvent)) (instant requestId : Nat)
    (forceError : Bool) (onTime : Along step (OnTime cycleTime) {}
      (before ++ (instant, .start requestId forceError) :: after))
    (idle : (before.foldl step {}).fb.block.busy = false) :
    ∃ first rest, after = first ++ rest ∧
      let last := (before ++ (instant, .start requestId forceError) :: first).foldl step {}
      (last.fb.block.Shows requestId (outcomeOf forceError) ∧
          (last.fb.block.stStepStatus.diErrorCode = if forceError then 9001 else 0) ∧
          last.now ≤ instant + longest cycleTime forceError ∧ instant + shortest forceError ≤ last.now ∧
          (Along step AbortsNothing {} before → instant + shortest forceError + 2000 ≤ last.now)) ∨
        last.fb.block.Shows requestId .running ∧ last.lastCycle + cycleTime ≤ instant + longest cycleTime forceError ∧
          ∀ event ∈ rest.head?, event.2 = .abort := by
  obtain ⟨earlier, here, later⟩ := along_append.mp onTime
  obtain ⟨busy, shown, error, due, earliest, rested⟩ := start_accepted (regular_run earlier) idle here
  obtain ⟨first, rest, split, outcome⟩ := run_busy busy shown later
  refine ⟨first, rest, split, ?_⟩
  simp only [List.foldl_append, List.foldl_cons]
  rcases outcome with ⟨ends, shows_⟩ | ⟨goesOn, shows_, stops⟩
  · refine .inl ⟨by rwa [error] at shows_, by rw [ends.code, error], ends.due.trans due, earliest.trans ends.earliest, ?_⟩
    intro refused
    rcases unaborted_run earlier refused with running | resting
    · cases idle.symm.trans running.busy
    · exact (rested resting.prepare).trans ends.earliest
  · exact .inr ⟨shows_, (le_due _ _).trans (goesOn.due.trans due), stops⟩

/-- A start, an abortion and another start, with a cycle each second. -/
def abortedFirst : List (Nat × PlcEvent) :=
  [(500, .start 7 false), (1000, .cycle), (2000, .cycle), (2500, .abort)]

def everySecond : List (Nat × PlcEvent) := (List.range 20).map fun i => (1000 * i + 3000, .cycle)

theorem second_chain_ends : ∃ first rest, everySecond = first ++ rest ∧
    let ended := (abortedFirst ++ (2600, .start 9 false) :: first).foldl step {}
    ended.fb.block.Shows 9 .done ∧ ended.fb.block.stStepStatus.diErrorCode = 0 ∧ ended.now ≤ 2600 + 16000 ∧
      2600 + 6000 ≤ ended.now := by
  obtain ⟨first, rest, split, ⟨shown, code, due, earliest, -⟩ | ⟨running, -, stops⟩⟩ :=
    chain_ends_in_time 1000 abortedFirst everySecond 2600 9 false (by decide +kernel) (by decide +kernel)
  · exact ⟨first, rest, split, shown, code, due, earliest⟩
  · cases rest with
    | nil =>
      rw [List.append_nil] at split
      subst split
      exact absurd (running.busy.mpr rfl) (by decide +kernel)
    | cons event later =>
      have cycles : ∀ event ∈ everySecond, event.2 ≠ .abort := by decide
      exact absurd (stops event rfl) (cycles event (by simp [split]))

end Runs

end PlcTask

end PyAds
