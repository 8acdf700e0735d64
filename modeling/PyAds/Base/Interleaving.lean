import Mathlib.Data.List.Induction
import PyAds.Base.Fallible
import PyAds.Base.SequentialObject

/-! Programs that ask a shared object one request after the other, while others
do the same. A request is neutral if it leaves the object as it is and the
program always goes on in the same way. A program with at most one other request
takes effect with that one, so that overlapping programs are linearizable to
programs that run without interruption. -/
namespace Interleaving
open SequentialObject

/-- The requests of an operation, each chosen by the answers before it. -/
inductive Program (ω β ρ : Type) where
  | done (result : ρ)
  | ask (request : ω) (next : β → Program ω β ρ)

/-- The object, and what is left of each program. -/
structure Machine (σ ω β ρ : Type) where
  object : σ
  programs : List (Program ω β ρ)

/-- An operation is started, or a program asks its next request. -/
inductive Event (ι : Type) where
  | start (op : ι)
  | step (i : Nat)

variable {σ ω β ρ ι : Type}

/-- All requests of a program, without interruption. -/
def Program.exec (perform : σ → ω → β × σ) : Program ω β ρ → σ → ρ × σ
  | done result, x => (result, x)
  | ask request next, x => (next (perform x request).1).exec perform (perform x request).2

/-- The program of an operation, without interruption. -/
def whole (perform : σ → ω → β × σ) (program : ι → Program ω β ρ) (x : σ) (op : ι) : ρ × σ :=
  (program op).exec perform x

def Program.result? : Program ω β ρ → Option ρ
  | done result => some result
  | ask .. => none

/-- What the program with this number has returned. -/
def Machine.returned (s : Machine σ ω β ρ) (i : Nat) : Option ρ := s.programs[i]?.bind Program.result?

theorem Machine.returned_eq_some {s : Machine σ ω β ρ} :
    s.returned i = some result ↔ s.programs[i]? = some (.done result) := by
  rw [returned, Option.bind_eq_some_iff]
  constructor
  · rintro ⟨_ | ⟨request, next⟩, here, ⟨rfl⟩⟩
    exact here
  · intro here
    exact ⟨_, here, rfl⟩

def Event.after (perform : σ → ω → β × σ) (program : ι → Program ω β ρ) (s : Machine σ ω β ρ) :
    Event ι → Machine σ ω β ρ
  | start op => { s with programs := s.programs ++ [program op] }
  | step i =>
    match s.programs[i]? with
    | some (.ask request next) =>
      let (answer, object) := perform s.object request
      ⟨object, s.programs.set i (next answer)⟩
    | _ => s

def reached (perform : σ → ω → β × σ) (program : ι → Program ω β ρ) (x : σ) (events : List (Event ι)) :
    Machine σ ω β ρ :=
  events.foldl (Event.after perform program) ⟨x, []⟩

def Event.started? : Event ι → Option ι
  | start op => some op
  | step _ => none

/-- The operations of a run, numbered as they are started. -/
def started (events : List (Event ι)) : List ι := events.filterMap Event.started?

/-- The first operation had returned when the second one was started. -/
def Precedes (perform : σ → ω → β × σ) (program : ι → Program ω β ρ) (x : σ) (events : List (Event ι))
    (i j : Nat) : Prop :=
  ∃ front back, events = front ++ back ∧ (started front).length = j ∧
    ∃ result, (reached perform program x front).returned i = some result

/-! ## Kinds of programs -/

section Kinds
variable (perform : σ → ω → β × σ) (inv : σ → Prop)

/-- A request that leaves the object as it is, and whose answers all lead to
the same program. -/
def Neutral (request : ω) (next : β → Program ω β ρ) (left : Program ω β ρ) : Prop :=
  ∀ x, inv x → (perform x request).2 = x ∧ next (perform x request).1 = left

/-- All requests are neutral, so that the result is known. -/
inductive Quiet : Program ω β ρ → ρ → Prop
  | done (result : ρ) : Quiet (.done result) result
  | ask (neutral : Neutral perform inv request next left) (rest : Quiet left result) : Quiet (.ask request next) result

/-- One request at most is not neutral. -/
inductive Single : Program ω β ρ → Prop
  | done (result : ρ) : Single (.done result)
  | ask (neutral : Neutral perform inv request next left) (rest : Single left) : Single (.ask request next)
  | effect (kept : ∀ x, inv x → inv (perform x request).2)
    (rest : ∀ answer, ∃ result, Quiet perform inv (next answer) result) : Single (.ask request next)

end Kinds

variable {perform : σ → ω → β × σ} {program : ι → Program ω β ρ} {inv : σ → Prop} {x : σ}

/-- A program whose requests are all neutral can be run at any time. -/
theorem Quiet.exec {left : Program ω β ρ} (quiet : Quiet perform inv left result) (holds : inv x) :
    left.exec perform x = (result, x) := by
  induction quiet with
  | done result => rfl
  | ask neutral rest ih =>
    obtain ⟨same, goes⟩ := neutral x holds
    rw [Program.exec, same, goes, ih]

/-- What is left of the program of an operation, before it has taken effect. -/
structure Pending (perform : σ → ω → β × σ) (program : ι → Program ω β ρ) (inv : σ → Prop) (left : Program ω β ρ)
    (op : ι) : Prop where
  single : Single perform inv left
  unfinished : ∀ result, left ≠ .done result
  same : ∀ y, inv y → whole perform program y op = left.exec perform y

/-- What is left of a program cannot change its result any more. -/
def Settled (perform : σ → ω → β × σ) (inv : σ → Prop) (s : Machine σ ω β ρ) (i : Nat) (result : ρ) : Prop :=
  ∃ left, s.programs[i]? = some left ∧ Quiet perform inv left result

/-- The operations that have taken effect, in this order, leave the object. -/
structure Ordered (perform : σ → ω → β × σ) (program : ι → Program ω β ρ) (inv : σ → Prop) (x : σ) (ops : List ι)
    (s : Machine σ ω β ρ) (order : List Nat) : Prop where
  holds : inv s.object
  programs : s.programs.length = ops.length
  once : order.Nodup
  known : ∀ i ∈ order, i < ops.length
  pending : ∀ i left, s.programs[i]? = some left → i ∉ order →
    ∃ op, ops[i]? = some op ∧ Pending perform program inv left op
  effective : ∃ chosen, List.Forall₂ (fun i op => ops[i]? = some op) order chosen ∧
    (run (whole perform program) x chosen).2 = s.object ∧
    List.Forall₂ (Settled perform inv s) order (run (whole perform program) x chosen).1

/-! ## Steps -/

section Steps
variable {s next : Machine σ ω β ρ} {ops more : List ι} {order : List Nat} {i : Nat}

theorem Settled.after (settled : Settled perform inv s i result) (holds : inv s.object) (event : Event ι) :
    Settled perform inv (event.after perform program s) i result := by
  obtain ⟨left, here, quiet⟩ := settled
  have inside := (List.getElem?_eq_some_iff.mp here).1
  cases event with
  | start op => exact ⟨left, (List.getElem?_append_left inside).trans here, quiet⟩
  | step j =>
    simp only [Event.after]
    split
    · rename_i request continued asking
      by_cases same : j = i
      · subst same
        cases asking.symm.trans here
        cases quiet with
        | ask neutral rest =>
          refine ⟨_, List.getElem?_set_self inside, ?_⟩
          rw [(neutral s.object holds).2]
          exact rest
      · exact ⟨left, (List.getElem?_set_ne same).trans here, quiet⟩
    · exact ⟨left, here, quiet⟩

/-- Without an effect, the order stays. -/
theorem Ordered.stays (ordered : Ordered perform program inv x ops s order) (object : next.object = s.object)
    (settled : ∀ i result, Settled perform inv s i result → Settled perform inv next i result)
    (programs : next.programs.length = (ops ++ more).length)
    (pending : ∀ i left, next.programs[i]? = some left → i ∉ order →
      ∃ op, (ops ++ more)[i]? = some op ∧ Pending perform program inv left op) :
    Ordered perform program inv x (ops ++ more) next order := by
  obtain ⟨chosen, called, last, results⟩ := ordered.effective
  refine ⟨object ▸ ordered.holds, programs, ordered.once, ?_, pending, chosen, ?_, last.trans object.symm, ?_⟩
  · intro i member
    have inside := ordered.known i member
    rw [List.length_append]
    omega
  · exact called.imp fun i op found =>
      (List.getElem?_append_left (List.getElem?_eq_some_iff.mp found).1).trans found
  · exact results.imp settled

/-- An operation takes effect behind all others. -/
theorem Ordered.effect (ordered : Ordered perform program inv x ops s order) (holds : inv next.object)
    (settled : ∀ i result, Settled perform inv s i result → Settled perform inv next i result)
    (programs : next.programs.length = (ops ++ more).length) (fresh : i ∉ order)
    (called : (ops ++ more)[i]? = some op) (effect : whole perform program s.object op = (result, next.object))
    (own : Settled perform inv next i result)
    (pending : ∀ j left, next.programs[j]? = some left → j ∉ order → j ≠ i →
      ∃ op, (ops ++ more)[j]? = some op ∧ Pending perform program inv left op) :
    Ordered perform program inv x (ops ++ more) next (order ++ [i]) := by
  obtain ⟨chosen, known, last, results⟩ := ordered.effective
  refine ⟨holds, programs, ?_, ?_, ?_, chosen ++ [op], ?_, ?_, ?_⟩
  · exact List.nodup_append.mpr ⟨ordered.once, List.nodup_singleton i, by
      rintro j member _ only rfl
      cases List.mem_singleton.mp only
      exact fresh member⟩
  · intro j member
    rcases List.mem_append.mp member with earlier | only
    · have inside := ordered.known j earlier
      rw [List.length_append]
      omega
    · cases List.mem_singleton.mp only
      exact (List.getElem?_eq_some_iff.mp called).1
  · intro j left here unordered
    rw [List.mem_append, not_or, List.mem_singleton] at unordered
    exact pending j left here unordered.1 unordered.2
  · refine List.rel_append (known.imp fun j op found => ?_) (.cons called .nil)
    exact (List.getElem?_append_left (List.getElem?_eq_some_iff.mp found).1).trans found
  · rw [run_concat, last, effect]
  · rw [run_concat, last, effect]
    exact List.rel_append (results.imp settled) (.cons own .nil)

/-- A new operation waits for its first request, or has returned at once. -/
theorem Ordered.start (ordered : Ordered perform program inv x ops s order) (single : Single perform inv (program op)) :
    ∃ extra, Ordered perform program inv x (ops ++ [op]) ((Event.start op).after perform program s)
      (order ++ extra) := by
  have settled : ∀ i result, Settled perform inv s i result →
      Settled perform inv ((Event.start op).after perform program s) i result :=
    fun i result own => own.after ordered.holds _
  have length : ((Event.start op).after perform program s).programs.length = (ops ++ [op]).length := by
    simp only [Event.after, List.length_append, ordered.programs, List.length_singleton]
  have called : (ops ++ [op])[ops.length]? = some op := by simp
  have here : ((Event.start op).after perform program s).programs[ops.length]? = some (program op) := by
    simp [Event.after, ← ordered.programs]
  have others : ∀ j left, ((Event.start op).after perform program s).programs[j]? = some left → j ∉ order →
      j ≠ ops.length → ∃ op', (ops ++ [op])[j]? = some op' ∧ Pending perform program inv left op' := by
    intro j left there unordered other
    have inside := (List.getElem?_eq_some_iff.mp there).1
    rw [length, List.length_append, List.length_singleton] at inside
    have below : j < s.programs.length := by
      have := ordered.programs
      omega
    rw [Event.after, List.getElem?_append_left below] at there
    obtain ⟨op', found, pending⟩ := ordered.pending j left there unordered
    exact ⟨op', (List.getElem?_append_left (List.getElem?_eq_some_iff.mp found).1).trans found, pending⟩
  by_cases finished : ∃ result, program op = .done result
  · obtain ⟨result, returned⟩ := finished
    have own : Settled perform inv ((Event.start op).after perform program s) ops.length result := by
      refine ⟨_, here, ?_⟩
      rw [returned]
      exact .done result
    refine ⟨[ops.length], ordered.effect ordered.holds settled length ?_ called ?_ own others⟩
    · intro member
      exact absurd (ordered.known _ member) (Nat.lt_irrefl _)
    · rw [whole, returned]
      rfl
  · refine ⟨[], ?_⟩
    rw [List.append_nil]
    refine ordered.stays rfl settled length ?_
    intro j left there unordered
    by_cases own : j = ops.length
    · subst own
      cases here.symm.trans there
      exact ⟨op, called, single, fun result same => finished ⟨result, same⟩, fun y _ => rfl⟩
    · exact others j left there unordered own

/-- A request of a program is answered: the program has taken effect before or
does so now, or the request was neutral. -/
theorem Ordered.step (ordered : Ordered perform program inv x ops s order) (i : Nat) :
    ∃ extra, Ordered perform program inv x ops ((Event.step i).after perform program s) (order ++ extra) := by
  have idle (same : (Event.step i).after perform program s = s) :
      ∃ extra, Ordered perform program inv x ops ((Event.step i).after perform program s) (order ++ extra) :=
    ⟨[], by rwa [same, List.append_nil]⟩
  cases asking : s.programs[i]? with
  | none => exact idle (by simp only [Event.after, asking])
  | some left =>
    cases left with
    | done result => exact idle (by simp only [Event.after, asking])
    | ask request continued =>
      have settled : ∀ j result, Settled perform inv s j result →
          Settled perform inv ((Event.step i).after perform program s) j result :=
        fun j result own => own.after ordered.holds _
      have moved : (Event.step i).after perform program s = ⟨(perform s.object request).2,
          s.programs.set i (continued (perform s.object request).1)⟩ := by
        simp only [Event.after, asking]
      have inside := (List.getElem?_eq_some_iff.mp asking).1
      have length : ((Event.step i).after perform program s).programs.length = (ops ++ []).length := by
        rw [moved, List.length_set, ordered.programs, List.append_nil]
      have here : ((Event.step i).after perform program s).programs[i]? =
          some (continued (perform s.object request).1) := by
        rw [moved]
        exact List.getElem?_set_self inside
      have others : ∀ j left, ((Event.step i).after perform program s).programs[j]? = some left → j ∉ order → j ≠ i →
          ∃ op, (ops ++ [])[j]? = some op ∧ Pending perform program inv left op := by
        intro j left there unordered other
        rw [moved] at there
        rw [List.append_nil]
        exact ordered.pending j left ((List.getElem?_set_ne other.symm).symm.trans there) unordered
      rw [← List.append_nil ops]
      by_cases taken : i ∈ order
      · obtain ⟨chosen, -, -, results⟩ := ordered.effective
        obtain ⟨result, -, left, there, quiet⟩ := Fallible.exists_of_mem_right results.flip taken
        cases asking.symm.trans there
        refine ⟨[], ?_⟩
        rw [List.append_nil order]
        refine ordered.stays ?_ settled length ?_
        · cases quiet with
          | ask neutral rest => rw [moved, (neutral s.object ordered.holds).1]
        · intro j left there unordered
          exact others j left there unordered fun same => unordered (same ▸ taken)
      · obtain ⟨op, called, pending⟩ := ordered.pending i _ asking taken
        obtain ⟨single, -, same⟩ := pending
        have known : (ops ++ [])[i]? = some op := by rwa [List.append_nil]
        cases single with
        | effect kept rest =>
          obtain ⟨result, quiet⟩ := rest (perform s.object request).1
          have holds := kept s.object ordered.holds
          have effect : whole perform program s.object op = (result, (perform s.object request).2) :=
            (same s.object ordered.holds).trans (quiet.exec holds)
          refine ⟨[i], ordered.effect ?_ settled length taken known ?_ ⟨_, here, quiet⟩ others⟩
          · rwa [moved]
          · rwa [moved]
        | @ask _ _ after neutral rest =>
          obtain ⟨object, goes⟩ := neutral s.object ordered.holds
          rw [object, goes] at moved
          rw [goes] at here
          have later : ∀ y, inv y → whole perform program y op = after.exec perform y := by
            intro y holds
            obtain ⟨unchanged, on⟩ := neutral y holds
            rw [same y holds, Program.exec, unchanged, on]
          by_cases finished : ∃ result, after = .done result
          · obtain ⟨result, rfl⟩ := finished
            refine ⟨[i], ordered.effect ?_ settled length taken known ?_ ⟨_, here, .done result⟩ others⟩
            · rw [moved]
              exact ordered.holds
            · rw [moved, later s.object ordered.holds]
              rfl
          · refine ⟨[], ?_⟩
            rw [List.append_nil order]
            refine ordered.stays (by rw [moved]) settled length ?_
            intro j left there unordered
            by_cases own : j = i
            · subst own
              cases here.symm.trans there
              exact ⟨op, known, rest, fun result same => finished ⟨result, same⟩, later⟩
            · exact others j left there unordered own

theorem Ordered.after (ordered : Ordered perform program inv x ops s order) (event : Event ι)
    (single : ∀ op, event.started? = some op → Single perform inv (program op)) :
    ∃ extra, Ordered perform program inv x (ops ++ event.started?.toList) (event.after perform program s)
      (order ++ extra) := by
  cases event with
  | start op => exact ordered.start (single op rfl)
  | step i => exact (List.append_nil ops).symm ▸ ordered.step i

end Steps

/-! ## Runs -/

section Runs
variable {events : List (Event ι)} {order : List Nat}

/-- The order grows along a run. -/
structure Growing (perform : σ → ω → β × σ) (program : ι → Program ω β ρ) (inv : σ → Prop) (x : σ)
    (events : List (Event ι)) (order : List Nat) : Prop where
  ordered : Ordered perform program inv x (started events) (reached perform program x events) order
  earlier : ∀ front back, events = front ++ back → ∃ before later, order = before ++ later ∧
    Ordered perform program inv x (started front) (reached perform program x front) before

/-- Whatever is started and asked, there is an order of the effects. -/
theorem exists_growing (holds : inv x) (single : ∀ op ∈ started events, Single perform inv (program op)) :
    ∃ order, Growing perform program inv x events order := by
  induction events using List.reverseRecOn with
  | nil =>
    have start : Ordered perform program inv x [] ⟨x, []⟩ [] :=
      ⟨holds, rfl, List.nodup_nil, by simp, by simp, [], .nil, rfl, .nil⟩
    refine ⟨[], start, ?_⟩
    intro front back same
    obtain ⟨rfl, rfl⟩ := List.nil_eq_append_iff.mp same
    exact ⟨[], [], rfl, start⟩
  | append_singleton events event ih =>
    have grown : started (events ++ [event]) = started events ++ event.started?.toList := by
      rw [started, List.filterMap_append]
      cases event <;> rfl
    rw [grown, List.forall_mem_append] at single
    obtain ⟨order, growing⟩ := ih single.1
    obtain ⟨extra, ordered⟩ := growing.ordered.after event fun op found => single.2 op (by simp [found])
    rw [← grown] at ordered
    have last : Ordered perform program inv x (started (events ++ [event]))
        (reached perform program x (events ++ [event])) (order ++ extra) := by
      rw [reached, List.foldl_append]
      exact ordered
    refine ⟨order ++ extra, last, ?_⟩
    intro front back same
    rcases List.eq_nil_or_concat back with rfl | ⟨others, final, rfl⟩
    · rw [List.append_nil] at same
      exact ⟨order ++ extra, [], (List.append_nil _).symm, same ▸ last⟩
    · rw [List.concat_eq_append, ← List.append_assoc] at same
      obtain ⟨same, -⟩ := List.append_inj' same rfl
      obtain ⟨before, later, rfl, held⟩ := growing.earlier front others same
      exact ⟨before, later ++ extra, List.append_assoc .., held⟩

/-- A program that has returned has taken effect. -/
theorem Ordered.answered {s : Machine σ ω β ρ} {ops : List ι} (ordered : Ordered perform program inv x ops s order)
    (returned : s.returned i = some result) : i ∈ order := by
  by_contra absent
  obtain ⟨op, -, pending⟩ := ordered.pending i _ (Machine.returned_eq_some.mp returned) absent
  exact pending.unfinished result rfl

/-- Programs with one effect each are linearizable to programs without interruption. -/
theorem Growing.linearizes (growing : Growing perform program inv x events order) :
    Linearizes (whole perform program) x (fun i => (started events)[i]?) (Precedes perform program x events)
      (fun i result => (reached perform program x events).returned i = some result) order := by
  have ordered := growing.ordered
  obtain ⟨chosen, called, -, results⟩ := ordered.effective
  refine ⟨ordered.once, ⟨chosen, called, ?_⟩, ?_⟩
  · intro i result returned
    obtain ⟨k, inside, here⟩ := List.getElem_of_mem (ordered.answered returned)
    have bound : k < (run (whole perform program) x chosen).1.length := results.length_eq ▸ inside
    obtain ⟨left, there, quiet⟩ := results.get inside bound
    rw [List.get_eq_getElem, here] at there
    cases (Machine.returned_eq_some.mp returned).symm.trans there
    cases quiet
    exact ⟨k, by rw [List.getElem?_eq_getElem inside, here], List.getElem?_eq_getElem bound⟩
  · rintro i j ⟨front, back, split, rfl, result, returned⟩ m k first second
    obtain ⟨before, later, rfl, held⟩ := growing.earlier front back split
    have member := held.answered returned
    have early : m < before.length := by
      by_contra late
      rw [List.getElem?_append_right (by omega)] at first
      exact (List.nodup_append.mp ordered.once).2.2 i member i (List.mem_of_getElem? first) rfl
    have late : before.length ≤ k := by
      by_contra early
      rw [List.getElem?_append_left (by omega)] at second
      exact absurd (held.known _ (List.mem_of_getElem? second)) (Nat.lt_irrefl _)
    omega

/-- Some order of the programs, run without interruption, explains all results
and the object that is left. -/
theorem exists_linearization (holds : inv x) (single : ∀ op ∈ started events, Single perform inv (program op)) :
    ∃ order, Linearizes (whole perform program) x (fun i => (started events)[i]?) (Precedes perform program x events)
        (fun i result => (reached perform program x events).returned i = some result) order ∧
      ∃ chosen, List.Forall₂ (fun i op => (started events)[i]? = some op) order chosen ∧
        (run (whole perform program) x chosen).2 = (reached perform program x events).object := by
  obtain ⟨order, growing⟩ := exists_growing holds single
  obtain ⟨chosen, called, last, -⟩ := growing.ordered.effective
  exact ⟨order, growing.linearizes, chosen, called, last⟩

end Runs

end Interleaving
