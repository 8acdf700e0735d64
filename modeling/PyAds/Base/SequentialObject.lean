import Mathlib.Data.List.Forall2
import Mathlib.Data.List.Nodup

/-! Objects whose operations return a result and leave a new state. Operations
that overlap are linearizable if one order of them explains all results: run one
after the other in this order they give the same results, and an operation that
was answered before another one was called comes first. -/
namespace SequentialObject

variable {σ ω ρ : Type} {perform : σ → ω → ρ × σ}

/-- The results of operations that run one after the other, and the last state. -/
def run (perform : σ → ω → ρ × σ) (x : σ) : List ω → List ρ × σ
  | [] => ([], x)
  | op :: ops =>
    let (result, next) := perform x op
    let (results, last) := run perform next ops
    (result :: results, last)

@[simp] theorem run_nil (x : σ) : run perform x [] = ([], x) := rfl

theorem run_append (x : σ) (ops more : List ω) :
    run perform x (ops ++ more) =
      ((run perform x ops).1 ++ (run perform (run perform x ops).2 more).1,
        (run perform (run perform x ops).2 more).2) := by
  induction ops generalizing x with
  | nil => rfl
  | cons op ops ih => simp only [List.cons_append, run, ih]

/-- One more operation starts where the others have ended. -/
theorem run_concat (x : σ) (ops : List ω) (op : ω) :
    run perform x (ops ++ [op]) =
      ((run perform x ops).1 ++ [(perform (run perform x ops).2 op).1], (perform (run perform x ops).2 op).2) := by
  rw [run_append]
  rfl

/-- The result of an operation is that in the state which the ones before it
have left. -/
theorem getElem?_run (x : σ) (ops : List ω) (k : Nat) :
    (run perform x ops).1[k]? = ops[k]?.map fun op => (perform (run perform x (ops.take k)).2 op).1 := by
  induction ops generalizing x k with
  | nil => rfl
  | cons op ops ih =>
    cases k with
    | zero => rfl
    | succ k => exact ih (perform x op).2 k

/-- Every result and every state is one that a specification allows. -/
inductive Explained {τ : Type} (allows : τ → ω → ρ → τ → Prop) : τ → List ω → List ρ → τ → Prop
  | nil (y : τ) : Explained allows y [] [] y
  | cons (first : allows y op result next) (rest : Explained allows next ops results last) :
      Explained allows y (op :: ops) (result :: results) last

/-- Where each operation simulates the specification, a run does. -/
theorem run_explained {τ : Type} {allows : τ → ω → ρ → τ → Prop} {relates : σ → τ → Prop} {lawful : ω → Prop}
    (simulated : ∀ x y op, relates x y → lawful op →
      ∃ next, allows y op (perform x op).1 next ∧ relates (perform x op).2 next)
    {x : σ} {y : τ} (start : relates x y) {ops : List ω} (law : ∀ op ∈ ops, lawful op) :
    ∃ last, Explained allows y ops (run perform x ops).1 last ∧ relates (run perform x ops).2 last := by
  induction ops generalizing x y with
  | nil => exact ⟨y, .nil y, start⟩
  | cons op ops ih =>
    obtain ⟨here, later⟩ := List.forall_mem_cons.mp law
    obtain ⟨next, first, related⟩ := simulated x y op start here
    obtain ⟨last, rest, final⟩ := ih related later
    exact ⟨last, .cons first rest, final⟩

/-- An order of operations explains what was observed: the operations that were
called, by number, the pairs of them of which the first was answered before the
second was called, and the answers. -/
structure Linearizes (perform : σ → ω → ρ × σ) (x : σ) (called : Nat → Option ω) (precedes : Nat → Nat → Prop)
    (answered : Nat → ρ → Prop) (order : List Nat) : Prop where
  once : order.Nodup
  explained : ∃ ops, List.Forall₂ (fun i op => called i = some op) order ops ∧
    ∀ i result, answered i result → ∃ k : Nat, order[k]? = some i ∧ (run perform x ops).1[k]? = some result
  realTime : ∀ i j, precedes i j → ∀ m k : Nat, order[m]? = some i → order[k]? = some j → m < k

/-- In an order of growing numbers, what has the smaller number comes first. -/
theorem lt_of_growing {order : List Nat} {m k : Nat} (growing : order.Pairwise (· < ·)) (first : order[m]? = some i)
    (second : order[k]? = some j) (below : i < j) : m < k := by
  obtain ⟨inside, rfl⟩ := List.getElem?_eq_some_iff.mp first
  obtain ⟨bound, rfl⟩ := List.getElem?_eq_some_iff.mp second
  rcases Nat.lt_trichotomy m k with before | same | later
  · exact before
  · subst same
    omega
  · have falling := List.pairwise_iff_getElem.mp growing k m bound inside later
    omega

/-- The operations before a place in the order are those with smaller numbers. -/
theorem take_eq_filter {order : List Nat} {k : Nat} (growing : order.Pairwise (· < ·)) (here : order[k]? = some i) :
    order.take k = order.filter (· < i) := by
  obtain ⟨front, back, rfl, rfl⟩ : ∃ front back, order = front ++ i :: back ∧ front.length = k := by
    obtain ⟨inside, rfl⟩ := List.getElem?_eq_some_iff.mp here
    exact ⟨order.take k, order.drop (k + 1), by simp, by simp; omega⟩
  obtain ⟨-, behind, apart⟩ := List.pairwise_append.mp growing
  have smaller : front.filter (· < i) = front :=
    List.filter_eq_self.mpr fun j member => decide_eq_true (apart j member i List.mem_cons_self)
  have larger : (i :: back).filter (· < i) = [] := by
    refine List.filter_eq_nil_iff.mpr (List.forall_mem_cons.mpr ⟨by simp, ?_⟩)
    intro j member
    have above := (List.pairwise_cons.mp behind).1 j member
    simp only [decide_eq_true_eq]
    omega
  rw [List.take_left, List.filter_append, smaller, larger, List.append_nil]

end SequentialObject
