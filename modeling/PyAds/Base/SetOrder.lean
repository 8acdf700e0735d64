import Mathlib.Data.List.Basic

/-! Searches through a set that is iterated over in an order of its own. What
the search returns is the same in every order exactly if all that it could find
is the same. -/
namespace SetOrder
variable {κ : Type u} {β : Type v}

/-- The order in which the elements come out, each of them as often as before. -/
def IsOrder (setOrder : List κ → List κ) : Prop := ∀ elements, (setOrder elements).Perm elements

/-- What is found for any two elements is the same. -/
def Agree (find : κ → Option β) (elements : List κ) : Prop :=
  ∀ first ∈ elements, ∀ second ∈ elements, ∀ value other,
    find first = some value → find second = some other → value = other

/-- The value is found for some element, and no other value for any. -/
def OnlyFinds (find : κ → Option β) (elements : List κ) (value : β) : Prop :=
  (∃ element ∈ elements, find element = some value) ∧
    ∀ element ∈ elements, ∀ other, find element = some other → other = value

theorem Agree.onlyFinds {find : κ → Option β} (agree : Agree find elements) (member : element ∈ elements)
    (found : find element = some value) : OnlyFinds find elements value := by
  refine ⟨⟨element, member, found⟩, ?_⟩
  intro second secondMember other secondFound
  exact agree second secondMember element member other value secondFound found

theorem OnlyFinds.findSome? {find : κ → Option β} (only : OnlyFinds find elements value)
    (order : elements.Perm ordered) : ordered.findSome? find = some value := by
  obtain ⟨⟨element, member, found⟩, unique⟩ := only
  cases result : ordered.findSome? find with
  | none =>
    have nothing := List.findSome?_eq_none_iff.mp result element (order.mem_iff.mp member)
    rw [found] at nothing
    cases nothing
  | some other =>
    obtain ⟨source, sourceMember, sourceFound⟩ := List.exists_of_findSome?_eq_some result
    rw [unique source (order.mem_iff.mpr sourceMember) other sourceFound]

/-- Without an element for which something is found there is no result in any order. -/
theorem Agree.findSome?_eq {find : κ → Option β} (agree : Agree find elements) (first : elements.Perm ordered)
    (second : elements.Perm reordered) : ordered.findSome? find = reordered.findSome? find := by
  by_cases some_ : ∃ element ∈ elements, ∃ value, find element = some value
  · obtain ⟨element, member, value, found⟩ := some_
    have only := agree.onlyFinds member found
    rw [only.findSome? first, only.findSome? second]
  · have nothing : ∀ {list : List κ}, elements.Perm list → list.findSome? find = none := by
      intro list order
      apply List.findSome?_eq_none_iff.mpr
      intro element member
      cases found : find element with
      | none => rfl
      | some value => exact absurd ⟨element, order.mem_iff.mpr member, value, found⟩ some_
    rw [nothing first, nothing second]

/-! ## Orders that begin with a given element -/

section InFront
variable [DecidableEq κ]

/-- The order that begins with the element, where it is one of them. -/
def inFront (element : κ) (elements : List κ) : List κ :=
  if element ∈ elements then element :: elements.erase element else elements

theorem isOrder_inFront (element : κ) : IsOrder (inFront element) := by
  intro elements
  unfold inFront
  split
  · rename_i member
    exact (List.perm_cons_erase member).symm
  · exact .refl _

theorem findSome?_inFront {find : κ → Option β} (member : element ∈ elements) (found : find element = some value) :
    (inFront element elements).findSome? find = some value := by
  rw [inFront, if_pos member, List.findSome?_cons_of_isSome]
  · exact found
  · rw [found]
    rfl

/-- The search returns a value in every order exactly if it finds no other. -/
theorem forall_findSome?_iff {find : κ → Option β} :
    (∀ setOrder, IsOrder setOrder → (setOrder elements).findSome? find = some value) ↔
      OnlyFinds find elements value := by
  constructor
  · intro always
    refine ⟨List.exists_of_findSome?_eq_some (always id fun _ => .refl _), ?_⟩
    intro element member other found
    have first := always (inFront element) (isOrder_inFront element)
    rw [findSome?_inFront member found] at first
    exact Option.some.inj first
  · intro only setOrder order
    exact only.findSome? (order elements).symm

/-- What is made of the result does not depend on the order exactly if all that
could be found is the same, as long as found values can be told apart. -/
theorem forall_order_eq_iff {find : κ → Option β} (use : Option β → γ)
    (apart : ∀ value other, use (some value) = use (some other) → value = other) :
    (∀ setOrder other, IsOrder setOrder → IsOrder other →
      use ((setOrder elements).findSome? find) = use ((other elements).findSome? find)) ↔ Agree find elements := by
  constructor
  · intro same first firstMember second secondMember value other found otherFound
    have eq := same _ _ (isOrder_inFront first) (isOrder_inFront second)
    rw [findSome?_inFront firstMember found, findSome?_inFront secondMember otherFound] at eq
    exact apart value other eq
  · intro agree setOrder other order otherOrder
    rw [agree.findSome?_eq (order elements).symm (otherOrder elements).symm]

end InFront

end SetOrder
