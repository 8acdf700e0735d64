import Mathlib.Data.List.Forall2

/-! Code words that are told apart again after they have been joined. A code
none of whose words begins another one may be followed by anything; any other
code only by codes whose words all have one length. -/
namespace PrefixCodes

variable {σ β : Type*}

/-- No word of the code begins another one. -/
def PrefixFree (code : List β → Prop) : Prop :=
  ∀ first second, code first → code second → first <+: second → first = second

/-- All words have the same length. -/
def Fixed (code : List β → Prop) : Prop := ∃ n, ∀ word, code word → word.length = n

theorem Fixed.prefixFree {code : List β → Prop} (fixed : Fixed code) : PrefixFree code := by
  obtain ⟨n, length⟩ := fixed
  intro first second one other front
  exact front.eq_of_length ((length first one).trans (length second other).symm)

/-- Words that end at the only occurrence of a mark. -/
theorem prefixFree_of_mark (mark : β) {code : List β → Prop}
    (marked : ∀ word, code word → ∃ text, mark ∉ text ∧ word = text ++ [mark]) : PrefixFree code := by
  intro first second one other front
  obtain ⟨text, clear, rfl⟩ := marked first one
  obtain ⟨longer, free, rfl⟩ := marked second other
  rcases List.prefix_concat_iff.mp front with same | ⟨rest, inside⟩
  · exact same
  · refine absurd ?_ free
    rw [← inside]
    simp

theorem PrefixFree.split {code : List β → Prop} (free : PrefixFree code) (one : code first) (other : code second)
    (joined : first ++ rest = second ++ more) : first = second ∧ rest = more := by
  have same : first = second := by
    rcases List.prefix_or_prefix_of_prefix (List.prefix_append first rest) (joined ▸ List.prefix_append second more) with
      front | front
    · exact free first second one other front
    · exact (free second first other one front).symm
  subst same
  exact ⟨rfl, List.append_cancel_left joined⟩

/-- Each code of a sequence is prefix-free, or all codes behind it are fixed. -/
def Separable (code : σ → List β → Prop) : List σ → Prop
  | [] => True
  | slot :: slots => (PrefixFree (code slot) ∨ ∀ later ∈ slots, Fixed (code later)) ∧ Separable code slots

theorem length_flatten_of_fixed {code : σ → List β → Prop} {slots : List σ} {first second : List (List β)}
    (fixed : ∀ slot ∈ slots, Fixed (code slot)) (one : List.Forall₂ code slots first)
    (other : List.Forall₂ code slots second) : first.flatten.length = second.flatten.length := by
  induction one generalizing second with
  | nil =>
    cases other
    rfl
  | cons here _ ih =>
    obtain ⟨⟨n, length⟩, later⟩ := List.forall_mem_cons.mp fixed
    cases other with
    | cons there rest =>
      rw [List.flatten_cons, List.flatten_cons, List.length_append, List.length_append, length _ here, length _ there,
        ih later rest]

/-- Joined words of separable codes are told apart. -/
theorem Separable.flatten_injective {code : σ → List β → Prop} {slots : List σ} {first second : List (List β)}
    (separable : Separable code slots) (one : List.Forall₂ code slots first) (other : List.Forall₂ code slots second)
    (joined : first.flatten = second.flatten) : first = second := by
  induction one generalizing second with
  | nil =>
    cases other
    rfl
  | cons here behind ih =>
    obtain ⟨kind, later⟩ := separable
    cases other with
    | cons there rest =>
      rw [List.flatten_cons, List.flatten_cons] at joined
      obtain ⟨same, tails⟩ := kind.elim (fun free => free.split here there joined) fun fixed =>
        List.append_inj' joined (length_flatten_of_fixed fixed behind rest)
      rw [same, ih later rest tails]

end PrefixCodes
