import PyAds.StepChainQueues

/-! An operation in `notify` mode that waits for its queue has either seen the
status as it is now, or an event, a callback on the event loop, or an invocation
by the ADS library is still to come. Events that find the queue full are dropped
without harm, since then the queue holds another one. What a status read has not
read, however, is asked for only once. -/
namespace PyAds
open FunctionBlock

namespace StepChainOperation
variable {objectName methodName : String} {op moved : StepChainOperation} {block : FunctionBlock}
  {status : StepStatus} {finds : StatusRead → Prop}

/-- An event is in the queue, or a callback is still to be delivered. -/
def Awake (op : StepChainOperation) : Prop := 0 < op.events ∨ 0 < op.loopCallbacks ∨ op.callbackDue = true

/-- An operation in `notify` mode knows the status, or will be woken. -/
structure Watches (status : StepStatus) (op : StepChainOperation) : Prop where
  registered : op.stage.reads = true → op.registered = true
  reading : op.stage = .reading → .read ∈ op.submitted
  examining : ∀ seen, op.stage = .examining seen → (op.Terminal status → op.FindsEnd seen) ∨ op.Awake
  waiting : op.stage = .waiting → ¬ op.Terminal status ∨ op.Awake

theorem watches_of_not_reads (finished : op.stage.reads = false) : op.Watches status := by
  constructor
  · simp [finished]
  · intro reading
    simp [reading, Stage.reads] at finished
  · intro seen examining
    simp [examining, Stage.reads] at finished
  · intro waiting
    simp [waiting, Stage.reads] at finished

theorem reads_of_finished (finished : op.stage.pending = false) : op.stage.reads = false := by
  cases stage : op.stage <;> simp_all [Stage.pending, Stage.reads]

theorem watches_stop (op : StepChainOperation) : op.stop.Watches status := by
  apply watches_of_not_reads
  simp only [stop]
  split
  · rfl
  · rename_i finished
    exact reads_of_finished (by simpa using finished)

theorem watches_of_reading (reading : op.stage = .reading) (registered : op.registered = true)
    (member : .read ∈ op.submitted) : op.Watches status :=
  ⟨fun _ => registered, fun _ => member, fun seen examining => by simp [reading] at examining,
    fun waiting => by simp [reading] at waiting⟩

/-- The worker takes a call other than the status read. -/
theorem Watches.taken (held : op.Watches status) (taken : op.submitted = request :: later)
    (other : request ≠ .read) :
    { op with submitted := later }.Watches status := by
  refine ⟨held.registered, fun reading => ?_, held.examining, held.waiting⟩
  have member := held.reading reading
  rw [taken, List.mem_cons] at member
  exact member.resolve_left (Ne.symm other)

/-- A change of the status wakes an operation that has its notifications. -/
theorem Watches.observe (held : op.Watches before) :
    (op.observe (decide (status ≠ before))).Watches status := by
  by_cases same : status = before
  · subst same
    have unchanged : op.observe (decide (status ≠ status)) = op := by simp [StepChainOperation.observe]
    rw [unchanged]
    exact held
  · have woken : op.stage.reads = true → (op.observe (decide (status ≠ before))).Awake := by
      intro reads
      exact .inr (.inr (by simp [StepChainOperation.observe, held.registered reads, same]))
    refine ⟨held.registered, held.reading, fun seen examining => .inr (woken ?_),
      fun waiting => .inr (woken ?_)⟩
    · rw [show op.stage = .examining seen from examining]
      rfl
    · rw [show op.stage = .waiting from waiting]
      rfl

/-- Woken by an event, a waiting operation does not lose it. -/
theorem Watches.congr (held : op.Watches status) (stage : moved.stage = op.stage)
    (submitted : moved.submitted = op.submitted)
    (registered : moved.registered = op.registered) (requestId : moved.requestId = op.requestId)
    (awake : op.Awake → moved.Awake) : moved.Watches status := by
  have alike : (moved.Terminal = op.Terminal) ∧ (moved.FindsEnd = op.FindsEnd) := by
    constructor <;> funext <;> simp only [FindsEnd, Terminal, requestId]
  constructor
  · rw [stage, registered]
    exact held.registered
  · rw [stage, submitted]
    exact held.reading
  · rw [stage, alike.1, alike.2]
    exact fun seen examining => (held.examining seen examining).imp_right awake
  · rw [stage, alike.1]
    exact fun waiting => (held.waiting waiting).imp_right awake

/-- The result of a status read is the status of this moment, unless its request
id was not read. -/
theorem Watches.receive (held : op.Watches seen.status) (later : List Request)
    (shown : op.stage = .reading → op.Terminal seen.status → seen.Has "udiRequestId" ∨ op.Awake) :
    ({ op with submitted := later }.receive seen).Watches seen.status := by
  unfold StepChainOperation.receive
  split
  · rename_i reading
    have registered := held.registered (by rw [show op.stage = .reading from reading]; rfl)
    refine ⟨fun _ => registered, fun reading => by simp at reading, ?_, fun waiting => by simp at waiting⟩
    rintro _ ⟨⟩
    by_cases terminal : op.Terminal seen.status
    · exact (shown reading terminal).imp_left fun has _ => ⟨terminal, has⟩
    · exact .inl fun ended => absurd ended terminal
  · rename_i other
    exact ⟨held.registered, fun reading => absurd reading other, held.examining, held.waiting⟩

theorem Watches.examine (held : op.Watches status) : (op.examine objectName methodName).Watches status := by
  unfold StepChainOperation.examine
  split
  · rename_i seen examining
    split
    · exact watches_of_not_reads rfl
    · rename_i incomplete
      refine ⟨fun _ => held.registered (by rw [examining]; rfl), fun reading => by simp at reading,
        fun seen examining => by simp at examining, fun _ => ?_⟩
      rcases held.examining seen examining with ended | awake
      · exact .inl (mt ended (not_findsEnd incomplete))
      · exact .inr awake
    · exact watches_of_not_reads rfl
  · exact held

theorem Watches.resume (held : op.Watches status) (notify : op.mode = .notify) :
    (op.resume methodName).Watches status := by
  unfold StepChainOperation.resume
  split
  · split
    · exact held
    · rename_i ready
      split
      · exact watches_of_reading rfl (by simpa [notify, submitRead] using ready) (by simp [submitRead])
      · exact watches_of_not_reads rfl
  · exact held

theorem Watches.proceed (held : op.Watches status)
    (notify : op.mode = .notify) : op.proceed.Watches status := by
  unfold StepChainOperation.proceed
  split
  · rename_i poll
    rw [notify] at poll
    contradiction
  · rename_i waiting _
    split
    · exact held
    · have registered := held.registered (by rw [waiting]; rfl)
      exact watches_of_reading rfl registered (by simp [submitRead])
  · exact held

theorem Watches.enqueueEvent (held : op.Watches status) : op.enqueueEvent.Watches status := by
  unfold StepChainOperation.enqueueEvent
  split
  · exact held
  · -- if the event is dropped, others are in the queue
    refine held.congr rfl rfl rfl rfl fun _ => .inl ?_
    simp only
    split <;> omega

theorem Move.watches (move : op.Move objectName methodName block finds moved) (notify : op.mode = .notify)
    (held : op.Watches block.stStepStatus) (now : ∀ seen, finds seen → seen.status = block.stStepStatus)
    (shown : ∀ seen, finds seen → op.stage = .reading → op.Terminal seen.status →
      seen.Has "udiRequestId" ∨ op.Awake) : moved.Watches block.stStepStatus := by
  cases move with
  | skipped taken finished => exact watches_of_not_reads (reads_of_finished finished)
  | failed taken => exact watches_stop _
  | registered taken =>
    obtain ⟨_, reading, examining, waiting⟩ := held.taken taken (by simp)
    exact ⟨fun _ => rfl, reading, examining, waiting⟩
  | refused taken busy => exact (held.taken taken (by simp)).congr rfl rfl rfl rfl id
  | refusedFailed taken busy => exact watches_stop _
  | read taken seen found =>
    rw [← now seen found] at held ⊢
    exact held.receive _ (shown seen found)
  | stop => exact watches_stop op
  | resume => exact held.resume notify
  | examine => exact held.examine
  | proceed => exact held.proceed notify
  | callback another => exact held.congr rfl rfl rfl rfl fun _ => .inr (.inl (by simp [StepChainOperation.callback]))
  | enqueueEvent => exact held.enqueueEvent

end StepChainOperation
namespace StepChainSystem
variable {objectName methodName : String} {s t : StepChainSystem}

def Watched (s : StepChainSystem) : Prop :=
  ∀ (k : Nat) (op : StepChainOperation), s.operations[k]? = some op → op.mode = .notify →
    op.Watches s.block.stStepStatus

/-- A status read that meets the end of a request in `notify` mode reads the
request id, or the operation will be woken once more. -/
def ShowsEnds (s : StepChainSystem) (a : ChainAction) : Prop :=
  ∀ k seen op, s.statusRead a = some (k, seen) → s.operations[k]? = some op → op.mode = .notify →
    op.stage = .reading → op.Terminal seen.status → seen.Has "udiRequestId" ∨ op.Awake

theorem Transition.watched (transition : Transition objectName methodName s a t)
    (held : s.Watched) (shows_ : s.ShowsEnds a) : t.Watched := by
  intro j after there notify
  cases transition with
  | idle quiet operations block owner =>
    rw [operations] at there
    rw [block]
    exact held j after there notify
  | invoked quiet connection requestId mode action operations block owner =>
    rw [operations] at there
    rw [block]
    rcases getElem?_append_invoked there with old | ⟨_, rfl⟩
    · exact held j after old notify
    · exact StepChainOperation.watches_of_not_reads rfl
  | moved quiet k op moved current move operations block owner =>
    rw [operations] at there
    rw [block]
    rcases getElem?_set_moved there with ⟨rfl, rfl⟩ | ⟨_, old⟩
    · have same : op.mode = .notify := by rw [← move.frame.2.1, notify]
      exact move.watches same (held j op current same)
        (fun seen executed => congrArg StatusRead.status (statusRead_eq executed))
        fun seen executed => shows_ j seen op executed current same
    · exact held j after old notify
  | progressed unaccepted ends continues operations owner =>
    rw [operations] at there
    obtain ⟨op, current, rfl⟩ := Option.map_eq_some_iff.mp there
    exact (held j op current notify).observe.congr rfl rfl rfl rfl id
  | accepted k op moved later accepted quiet current taken idle shown moved_ operations owner =>
    rw [operations] at there
    split at there
    · rename_i here
      subst here
      obtain rfl := Option.some.inj there
      rcases moved_ with rfl | rfl
      · have before := (held j op current notify).taken taken (by simp)
        exact before.observe.congr rfl rfl rfl rfl id
      · exact StepChainOperation.watches_stop _
    · obtain ⟨before, current', rfl⟩ := Option.map_eq_some_iff.mp there
      exact (held j before current' notify).observe

theorem watched_fresh : fresh.Watched := fun _ _ there => by simp [fresh] at there

end StepChainSystem

/-- An operation that is not finished has something to come: its immediate
check, a status read in the queue of its connection, the result of one that
shows the end of its chain, an event, or a callback. -/
inductive StepChainOperation.Attended (s : StepChainSystem) (k : Nat) (op : StepChainOperation) : Prop
  | starting (stage : op.stage = .starting)
  | reading (stage : op.stage = .reading) (submitted : .read ∈ op.submitted)
      (queued : k ∈ s.queues op.connection)
  | examining (stage : op.stage = .examining seen) (shown : op.FindsEnd seen)
  | event (queued : 0 < op.events)
  | callback (due : 0 < op.loopCallbacks ∨ op.callbackDue = true)

namespace StepChainSystem

variable {objectName methodName : String} {s : StepChainSystem}

/-- No operation in `notify` mode whose registration and start succeeded is left
waiting on an empty queue while the status is terminal for it. -/
def NoneLost (s : StepChainSystem) : Prop :=
  ∀ (k : Nat) (op : StepChainOperation), s.operations[k]? = some op → op.mode = .notify →
    op.registered = true → op.answer = some true → op.stage.pending = true → op.Terminal s.block.stStepStatus →
      op.Attended s k

theorem Watched.noneLost (held : s.Watched) (queued : s.Queued) : s.NoneLost := by
  intro k op current notify registered accepted pending terminal
  obtain ⟨_, reading, examining, waiting⟩ := held k op current notify
  have attended : op.Awake → op.Attended s k := by
    rintro (event | callback)
    · exact .event event
    · exact .callback callback
  cases stage : op.stage with
  | starting => exact .starting stage
  | reading =>
    have submitted := reading stage
    have named : 0 < (s.queues op.connection).count k := by
      rw [queued.of_count current, if_pos rfl]
      exact List.length_pos_of_mem submitted
    exact .reading stage submitted (List.count_pos_iff.mp named)
  | examining seen =>
    rcases examining seen stage with ended | awake
    · exact .examining stage (ended terminal)
    · exact attended awake
  | waiting =>
    rcases waiting stage with other | awake
    · exact absurd terminal other
    · exact attended awake
  | completed values => simp [stage, Stage.pending] at pending
  | raised error => simp [stage, Stage.pending] at pending
  | stopped => simp [stage, Stage.pending] at pending

/-- The status read of a step reaches its operation. -/
theorem step_statusRead (objectName methodName : String) {op : StepChainOperation}
    (executed : s.statusRead a = some (k, seen)) (current : s.operations[k]? = some op) :
    (s.step objectName methodName a).block = s.block ∧ ∃ later,
      (s.step objectName methodName a).operations[k]? = some ({ op with submitted := later }.receive seen) := by
  have taken {connection : Nat} (next : statusRead.nextRead s connection = some k) :
      ∃ rest later, s.queues connection = k :: rest ∧ op.submitted = .read :: later := by
    obtain ⟨head, read⟩ := Option.filter_eq_some_iff.mp next
    obtain ⟨rest, queue⟩ := List.head?_eq_some_iff.mp head
    obtain ⟨later, calls⟩ := List.head?_eq_some_iff.mp (by simpa [current] using read)
    exact ⟨rest, later, queue, calls⟩
  cases a with
  | work connection fault forceError =>
    cases fault with
    | none | items failed =>
      obtain ⟨j, next, same⟩ := Option.map_eq_some_iff.mp executed
      obtain ⟨rfl, rfl⟩ := Prod.mk.inj same
      obtain ⟨rest, later, queue, calls⟩ := taken next
      simp only [step, takeCall, queue, current, calls, execute, modify]
      exact ⟨trivial, later, by simp [current]⟩
    | before | after => cases executed
  | _ => cases executed

/-- Where no operation is left waiting after a step, a read that has met the end
of a request has shown it, or something else was still to come. -/
theorem showsEnds_of_noneLost (watched : s.Watched) (consistent : s.Consistent)
    (after : (s.step objectName methodName a).NoneLost) : s.ShowsEnds a := by
  intro k seen op executed current notify reading terminal
  obtain ⟨block, later, there⟩ := step_statusRead objectName methodName executed current
  have received : { op with submitted := later }.receive seen =
      { op with submitted := later, stage := .examining seen } := by
    rw [StepChainOperation.receive,
      show ({ op with submitted := later } : StepChainOperation).stage = .reading from reading]
  rw [received] at there
  have reads : op.stage.reads = true := by rw [reading]; rfl
  have now : seen.status = s.block.stStepStatus := congrArg StatusRead.status (statusRead_eq executed)
  have attended := after k _ there notify ((watched k op current notify).registered reads)
    ((consistent.operations k op current).reads reads) rfl (by rw [block, ← now]; exact terminal)
  cases attended with
  | starting stage => cases stage
  | reading stage submitted queued => cases stage
  | examining stage shown =>
    cases stage
    exact .inl shown.2
  | event queued => exact .inr (.inl queued)
  | callback due => exact .inr (.inr due)

/-- `notify` mode loses no wake-up throughout a run exactly if each status read
that meets the end of a request reads the request id, or is not the last one. -/
theorem no_lost_wakeup_iff (objectName methodName : String) (actions : List ChainAction) :
    Runs.Throughout (step objectName methodName) NoneLost fresh actions ↔
      Runs.Along (step objectName methodName) ShowsEnds fresh actions := by
  refine Runs.throughout_iff_of_lost
    (fun s (held : s.Watched ∧ s.Queued ∧ s.Consistent) => held.1.noneLost held.2.1)
    (fun s a held _ shown => ?_) (fun s a held _ missed noneLost => ?_)
    ⟨watched_fresh, fun _ _ => rfl, consistent_fresh⟩ Runs.along_true
  · have transition : Transition objectName methodName s a (s.step objectName methodName a) := transition_step s a
    exact ⟨transition.watched held.1 shown, held.2.1.step a, transition.consistent held.2.2⟩
  · exact missed (showsEnds_of_noneLost held.1 held.2.2 noneLost)

theorem known_notReady : ERROR_CODES 1799 = some "device is not in a ready state" := by decide +kernel

/-- An operation has seen that its chain is running. The chain is done, and the
operation woken, but the request id of its next read fails. -/
def unreadRequestId : List ChainAction :=
  [.invoke 0 1 .notify, .work 0 .none false, .work 0 .none false, .resume 0, .work 0 .none false, .examine 0,
    .cycle ⟨true, true, true, true⟩, .cycle ⟨true, true, true, true⟩, .cycle ⟨true, true, true, true⟩,
    .cycle ⟨true, true, true, true⟩, .callback 0 false, .enqueueEvent 0, .proceed 0,
    .work 0 (.items [⟨"udiRequestId", 1799, "device is not in a ready state", known_notReady⟩]) false, .examine 0]

/-- It waits again, on an empty queue and with nothing to come. -/
theorem unreadRequestId_waits :
    ¬ Runs.Throughout (step "GVL.fbStepChain" "m_xStartStepChain") NoneLost fresh unreadRequestId := by
  intro all
  have last := all _ (Runs.foldl_mem_states _ _ _)
  obtain ⟨op, there⟩ : ∃ op, (unreadRequestId.foldl (step "GVL.fbStepChain" "m_xStartStepChain")
      fresh).operations[0]? = some op := ⟨_, rfl⟩
  have known : op.stage = .waiting ∧ op.events = 0 ∧ op.loopCallbacks = 0 ∧ op.callbackDue = false ∧
      op.mode = .notify ∧ op.registered = true ∧ op.answer = some true ∧ op.requestId = 1 := by
    cases there
    exact ⟨rfl, rfl, rfl, rfl, rfl, rfl, rfl, rfl⟩
  obtain ⟨waiting, events, callbacks, due, notify, registered, accepted, requestId⟩ := known
  have terminal : op.Terminal (unreadRequestId.foldl (step "GVL.fbStepChain" "m_xStartStepChain")
      fresh).block.stStepStatus := ⟨by rw [requestId]; rfl, .inl rfl⟩
  cases last 0 op there notify registered accepted (by rw [waiting]; rfl) terminal with
  | starting stage | reading stage | examining stage => cases waiting.symm.trans stage
  | event queued => omega
  | callback pending =>
    rcases pending with queued | due'
    · omega
    · cases due.symm.trans due'

end StepChainSystem
end PyAds
