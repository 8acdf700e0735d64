import Mathlib.Data.List.Induction
import Mathlib.Data.List.Nodup

/-! Dictionaries that remember insertion order. Assigning to a present key
replaces its value in place, assigning to a new key appends it, so the order
of the keys is the order of their first assignment. A dictionary carries the
proof that its keys are distinct. -/

/-- A dictionary in insertion order. -/
structure OrderedDict (κ : Type u) (β : Type v) where
  entries : List (κ × β)
  nodup : (entries.map Prod.fst).Nodup

namespace OrderedDict

/-! ## Plain entry lists -/

section Entries
variable [DecidableEq κ]

/-- The value of the first entry with this key. -/
def lookup (key : κ) : List (κ × β) → Option β
  | [] => none
  | (k, value) :: rest => if k = key then some value else lookup key rest

def setItem : List (κ × β) → κ → β → List (κ × β)
  | [], key, value => [(key, value)]
  | (k, old) :: rest, key, value =>
    if k = key then (key, value) :: rest else (k, old) :: setItem rest key value

/-- The key order after one assignment. -/
def addKey (keys : List κ) (key : κ) : List κ :=
  if key ∈ keys then keys else keys ++ [key]

theorem keys_setItem (entries : List (κ × β)) (key : κ) (value : β) :
    (setItem entries key value).map Prod.fst = addKey (entries.map Prod.fst) key := by
  induction entries with
  | nil => rfl
  | cons entry rest ih =>
    obtain ⟨k, old⟩ := entry
    by_cases same : k = key
    · simp [setItem, addKey, same]
    · have ne : ¬ key = k := fun eq => same eq.symm
      simp only [setItem, same, ↓reduceIte, List.map_cons, ih, addKey, List.mem_cons, ne, false_or]
      split <;> rfl

theorem lookup_setItem (entries : List (κ × β)) (key other : κ) (value : β) :
    lookup other (setItem entries key value) =
      if key = other then some value else lookup other entries := by
  induction entries with
  | nil => rfl
  | cons entry rest ih =>
    obtain ⟨k, old⟩ := entry
    by_cases same : k = key
    · subst same
      by_cases hit : k = other <;> simp [setItem, lookup, hit]
    · simp only [setItem, same, ↓reduceIte, lookup, ih]
      by_cases hit : k = other
      · have ne : ¬ key = other := fun eq => same (hit.trans eq.symm)
        simp [hit, ne]
      · simp [hit]

theorem lookup_eq_none_iff {entries : List (κ × β)} :
    lookup key entries = none ↔ key ∉ entries.map Prod.fst := by
  induction entries with
  | nil => simp [lookup]
  | cons entry rest ih =>
    obtain ⟨k, old⟩ := entry
    by_cases same : k = key
    · simp [lookup, same]
    · have ne : ¬ key = k := fun eq => same eq.symm
      simp [lookup, same, ih, ne]

theorem lookup_append (first second : List (κ × β)) (key : κ) :
    lookup key (first ++ second) = (lookup key first).or (lookup key second) := by
  induction first with
  | nil => rfl
  | cons entry rest ih =>
    obtain ⟨k, old⟩ := entry
    by_cases same : k = key <;> simp [lookup, same, ih]

/-- An assignment to a key that is not there yet goes to the end. -/
theorem setItem_of_not_mem {entries : List (κ × β)} (fresh : key ∉ entries.map Prod.fst) :
    setItem entries key value = entries ++ [(key, value)] := by
  induction entries with
  | nil => rfl
  | cons entry rest ih =>
    obtain ⟨k, old⟩ := entry
    simp only [List.map_cons, List.mem_cons, not_or] at fresh
    have ne : ¬ k = key := fun eq => fresh.1 eq.symm
    simp [setItem, ne, ih fresh.2]

theorem lookup_of_mem {entries : List (κ × β)} (nodup : (entries.map Prod.fst).Nodup)
    (member : (key, value) ∈ entries) : lookup key entries = some value := by
  induction entries with
  | nil => simp at member
  | cons entry rest ih =>
    obtain ⟨k, old⟩ := entry
    obtain ⟨fresh, tail⟩ := List.nodup_cons.mp nodup
    rcases List.mem_cons.mp member with eq | member
    · cases eq
      simp [lookup]
    · have ne : ¬ k = key := by
        rintro rfl
        exact fresh (List.mem_map.mpr ⟨_, member, rfl⟩)
      simp [lookup, ne, ih tail member]

theorem mem_of_lookup {entries : List (κ × β)} (found : lookup key entries = some value) :
    (key, value) ∈ entries := by
  induction entries with
  | nil => cases found
  | cons entry rest ih =>
    obtain ⟨k, old⟩ := entry
    by_cases same : k = key
    · simp only [lookup, same, ↓reduceIte, Option.some.injEq] at found
      simp [same, found]
    · simp only [lookup, same, ↓reduceIte] at found
      exact List.mem_cons_of_mem _ (ih found)

theorem lookup_map {names : List κ} (member : key ∈ names) (f : κ → β) :
    lookup key (names.map fun name => (name, f name)) = some (f key) := by
  induction names with
  | nil => cases member
  | cons name names ih =>
    by_cases same : name = key
    · subst same
      simp [lookup]
    · have later : key ∈ names := (List.mem_cons.mp member).resolve_left (Ne.symm same)
      simp [lookup, same, ih later]

theorem mem_addKey {keys : List κ} : other ∈ addKey keys key ↔ other ∈ keys ∨ other = key := by
  unfold addKey
  split
  · rename_i member
    constructor
    · exact Or.inl
    · rintro (held | rfl)
      · exact held
      · exact member
  · simp

theorem nodup_addKey {keys : List κ} (nodup : keys.Nodup) : (addKey keys key).Nodup := by
  unfold addKey
  split
  · exact nodup
  · rename_i fresh
    exact List.nodup_append.mpr ⟨nodup, by simp, by
      intro held member last only
      rw [List.mem_singleton.mp only]
      rintro rfl
      exact fresh member⟩

theorem mem_foldl_addKey {names : List κ} :
    key ∈ names.foldl addKey start ↔ key ∈ start ∨ key ∈ names := by
  induction names generalizing start with
  | nil => simp
  | cons name names ih => rw [List.foldl_cons, ih, mem_addKey, List.mem_cons, or_assoc]

theorem foldl_addKey_of_subset {names start : List κ} (present : ∀ name ∈ names, name ∈ start) :
    names.foldl addKey start = start := by
  induction names with
  | nil => rfl
  | cons name names ih =>
    obtain ⟨here, later⟩ := List.forall_mem_cons.mp present
    rw [List.foldl_cons, addKey, if_pos here, ih later]

/-- New keys are added in their order. -/
theorem foldl_addKey_of_nodup {names start : List κ} (fresh : (start ++ names).Nodup) :
    names.foldl addKey start = start ++ names := by
  induction names generalizing start with
  | nil => rw [List.foldl_nil, List.append_nil]
  | cons name names ih =>
    have absent : name ∉ start := fun member =>
      (List.nodup_append.mp fresh).2.2 name member name (List.mem_cons_self ..) rfl
    rw [List.append_cons] at fresh ⊢
    rw [List.foldl_cons, addKey, if_neg absent, ih fresh]

/-- Adding keys in the order in which a list first mentions them adds the list. -/
theorem foldl_addKey_foldl (start names : List κ) :
    (names.foldl addKey []).foldl addKey start = names.foldl addKey start := by
  induction names using List.reverseRecOn with
  | nil => rfl
  | append_singleton names name ih =>
    simp only [List.foldl_append, List.foldl_cons, List.foldl_nil]
    by_cases seen : name ∈ names.foldl addKey []
    · have known : name ∈ names.foldl addKey start :=
        mem_foldl_addKey.mpr (Or.inr (by simpa using mem_foldl_addKey.mp seen))
      rw [addKey, if_pos seen, addKey, if_pos known, ih]
    · rw [addKey, if_neg seen, List.foldl_append, ih]
      rfl

end Entries

/-! ## Dictionaries -/

theorem ext {first second : OrderedDict κ β} (same : first.entries = second.entries) :
    first = second := by
  cases first
  cases second
  congr

def keys (d : OrderedDict κ β) : List κ := d.entries.map Prod.fst

def empty : OrderedDict κ β := ⟨[], List.nodup_nil⟩

@[simp] theorem keys_empty : (empty : OrderedDict κ β).keys = [] := rfl

section Operations
variable [DecidableEq κ]

instance [DecidableEq β] : DecidableEq (OrderedDict κ β) := fun first second =>
  decidable_of_iff (first.entries = second.entries) ⟨ext, fun same => by rw [same]⟩

def get? (d : OrderedDict κ β) (key : κ) : Option β := lookup key d.entries

def set (d : OrderedDict κ β) (key : κ) (value : β) : OrderedDict κ β where
  entries := setItem d.entries key value
  nodup := by
    rw [keys_setItem]
    exact nodup_addKey d.nodup

/-- The assignments of a list of pairs, in order. -/
def setAll (d : OrderedDict κ β) (pairs : List (κ × β)) : OrderedDict κ β :=
  pairs.foldl (fun d pair => d.set pair.1 pair.2) d

/-- The values of `other` win, its new keys follow those already there. -/
def update (d other : OrderedDict κ β) : OrderedDict κ β := d.setAll other.entries

/-- A dictionary with one value for all keys. -/
def fromKeys (names : List κ) (value : β) : OrderedDict κ β :=
  empty.setAll (names.map fun name => (name, value))

@[simp] theorem keys_set (d : OrderedDict κ β) (key : κ) (value : β) :
    (d.set key value).keys = addKey d.keys key :=
  keys_setItem ..

@[simp] theorem get?_set (d : OrderedDict κ β) (key other : κ) (value : β) :
    (d.set key value).get? other = if key = other then some value else d.get? other :=
  lookup_setItem ..

theorem keys_setAll (d : OrderedDict κ β) (pairs : List (κ × β)) :
    (d.setAll pairs).keys = (pairs.map Prod.fst).foldl addKey d.keys := by
  induction pairs generalizing d with
  | nil => rfl
  | cons pair pairs ih =>
    change ((d.set pair.1 pair.2).setAll pairs).keys = _
    rw [ih, keys_set]
    rfl

theorem keys_update (d other : OrderedDict κ β) :
    (d.update other).keys = other.keys.foldl addKey d.keys :=
  keys_setAll ..

theorem keys_fromKeys (names : List κ) (value : β) :
    (fromKeys names value).keys = names.foldl addKey [] := by
  rw [fromKeys, keys_setAll, List.map_map]
  simp [Function.comp_def]

theorem get?_eq_none_iff {d : OrderedDict κ β} : d.get? key = none ↔ key ∉ d.keys :=
  lookup_eq_none_iff

theorem get?_of_mem {d : OrderedDict κ β} (member : (key, value) ∈ d.entries) :
    d.get? key = some value :=
  lookup_of_mem d.nodup member

theorem mem_of_get? {d : OrderedDict κ β} (found : d.get? key = some value) :
    (key, value) ∈ d.entries :=
  mem_of_lookup found

theorem mem_keys_of_get? {d : OrderedDict κ β} (found : d.get? key = some value) : key ∈ d.keys :=
  List.mem_map.mpr ⟨_, mem_of_get? found, rfl⟩

/-- The last assignment to a key decides its value. -/
theorem get?_setAll (d : OrderedDict κ β) (pairs : List (κ × β)) (key : κ) :
    (d.setAll pairs).get? key = (lookup key pairs.reverse).or (d.get? key) := by
  induction pairs generalizing d with
  | nil => rfl
  | cons pair pairs ih =>
    change ((d.set pair.1 pair.2).setAll pairs).get? key = _
    rw [ih, get?_set, List.reverse_cons, lookup_append]
    by_cases same : pair.1 = key
    · cases lookup key pairs.reverse <;> simp [lookup, same]
    · cases lookup key pairs.reverse <;> simp [lookup, same]

theorem mem_keys_setAll {d : OrderedDict κ β} :
    key ∈ (d.setAll pairs).keys ↔ key ∈ d.keys ∨ key ∈ pairs.map Prod.fst := by
  rw [keys_setAll, mem_foldl_addKey]

theorem mem_keys_fromKeys {names : List κ} : key ∈ (fromKeys names value).keys ↔ key ∈ names := by
  simp [keys_fromKeys, mem_foldl_addKey]

theorem get?_setAll_of_last (d : OrderedDict κ β) (fresh : key ∉ later.map Prod.fst) :
    (d.setAll (earlier ++ (key, value) :: later)).get? key = some value := by
  have missing : lookup key later.reverse = none := by
    rw [lookup_eq_none_iff]
    simpa using fresh
  rw [get?_setAll, List.reverse_append, List.reverse_cons, lookup_append, lookup_append, missing]
  simp [lookup]

theorem set_of_not_mem {d : OrderedDict κ β} (fresh : key ∉ d.keys) :
    (d.set key value).entries = d.entries ++ [(key, value)] :=
  setItem_of_not_mem fresh

/-- Assigning to distinct new keys appends all pairs. -/
theorem entries_setAll_of_nodup (d : OrderedDict κ β) (fresh : (d.keys ++ pairs.map Prod.fst).Nodup) :
    (d.setAll pairs).entries = d.entries ++ pairs := by
  induction pairs generalizing d with
  | nil => simp [setAll]
  | cons pair pairs ih =>
    have new : pair.1 ∉ d.keys := by
      intro member
      have clash := (List.nodup_append.mp fresh).2.2 pair.1 member pair.1 (by simp)
      exact clash rfl
    have keys : (d.set pair.1 pair.2).keys = d.keys ++ [pair.1] := by
      rw [keys_set, addKey, if_neg new]
    change ((d.set pair.1 pair.2).setAll pairs).entries = _
    rw [ih _ (by rw [keys]; simpa using fresh), set_of_not_mem new]
    simp

/-- Two dictionaries with the same keys in the same order and the same value
for each key are equal. -/
theorem ext_get? {first second : OrderedDict κ β} (sameKeys : first.keys = second.keys)
    (sameValues : ∀ key, first.get? key = second.get? key) : first = second := by
  apply ext
  have rebuilt (d : OrderedDict κ β) :
      d.entries.map (fun entry => (entry.1, some entry.2)) =
        d.keys.map fun key => (key, d.get? key) := by
    rw [keys, List.map_map]
    apply List.map_congr_left
    intro entry member
    have found : d.get? entry.1 = some entry.2 := get?_of_mem member
    simp [found]
  have same : first.entries.map (fun entry => (entry.1, some entry.2)) =
      second.entries.map fun entry => (entry.1, some entry.2) := by
    rw [rebuilt first, rebuilt second, sameKeys]
    simp only [sameValues]
  have injective : Function.Injective fun entry : κ × β => (entry.1, some entry.2) := by
    rintro ⟨k, v⟩ ⟨k', v'⟩ eq
    cases eq
    rfl
  exact List.map_injective_iff.mpr injective same

theorem get?_update (d other : OrderedDict κ β) (key : κ) :
    (d.update other).get? key = (other.get? key).or (d.get? key) := by
  have reversed : lookup key other.entries.reverse = other.get? key := by
    have nodup : (other.entries.reverse.map Prod.fst).Nodup := by
      rw [List.map_reverse, List.nodup_reverse]
      exact other.nodup
    cases found : other.get? key with
    | none =>
      rw [lookup_eq_none_iff, List.map_reverse, List.mem_reverse]
      exact get?_eq_none_iff.mp found
    | some value => exact lookup_of_mem nodup (List.mem_reverse.mpr (mem_of_get? found))
  rw [update, get?_setAll, reversed]

/-- Merging in a dictionary is assigning what it was built from. -/
theorem update_setAll (d : OrderedDict κ β) (pairs : List (κ × β)) :
    d.update (empty.setAll pairs) = d.setAll pairs := by
  refine ext_get? ?_ fun key => ?_
  · rw [keys_update, keys_setAll, keys_setAll]
    exact foldl_addKey_foldl _ _
  · rw [get?_update, get?_setAll, get?_setAll]
    cases lookup key pairs.reverse <;> rfl

theorem empty_update (d : OrderedDict κ β) : empty.update d = d := by
  apply ext
  have fresh : ((empty : OrderedDict κ β).keys ++ d.entries.map Prod.fst).Nodup := d.nodup
  rw [update, entries_setAll_of_nodup _ fresh]
  rfl

/-- What was merged in may be merged in again. -/
theorem update_update (d other : OrderedDict κ β) : d.update (d.update other) = d.update other := by
  refine ext_get? ?_ fun key => ?_
  · have own : d.keys.foldl addKey [] = d.keys := foldl_addKey_of_nodup d.nodup
    have whole : (d.update other).keys = (d.keys ++ other.keys).foldl addKey [] := by
      rw [keys_update, List.foldl_append, own]
    rw [keys_update, whole, foldl_addKey_foldl, List.foldl_append, List.foldl_append, own,
      foldl_addKey_of_subset fun _ member => member]
  · rw [get?_update, get?_update]
    cases other.get? key <;> cases d.get? key <;> rfl

/-- The last dictionary with a key decides its value. -/
theorem get?_foldl_update_of_last {d : OrderedDict κ β} {before after : List (OrderedDict κ β)}
    (held : last.get? key = some value) (fresh : ∀ other ∈ after, key ∉ other.keys) :
    ((before ++ last :: after).foldl update d).get? key = some value := by
  rw [List.foldl_append, List.foldl_cons]
  have start : ((before.foldl update d).update last).get? key = some value := by
    rw [get?_update, held]
    rfl
  generalize (before.foldl update d).update last = reached at start
  induction after generalizing reached with
  | nil => exact start
  | cons other after ih =>
    obtain ⟨absent, later⟩ := List.forall_mem_cons.mp fresh
    apply ih later _
    rw [get?_update, get?_eq_none_iff.mpr absent, start]
    rfl

theorem setAll_append (d : OrderedDict κ β) (first second : List (κ × β)) :
    d.setAll (first ++ second) = (d.setAll first).setAll second :=
  List.foldl_append ..

/-- The values that the keys had before are lost when all of them are
assigned again. -/
theorem fromKeys_setAll {names : List κ} {values : List β} (length : names.length = values.length)
    (value : β) : (fromKeys names value).setAll (names.zip values) = empty.setAll (names.zip values) := by
  have assigned : (names.zip values).map Prod.fst = names := List.map_fst_zip (Nat.le_of_eq length)
  refine ext_get? ?_ fun key => ?_
  · rw [keys_setAll, keys_setAll, assigned, keys_fromKeys]
    exact foldl_addKey_of_subset fun name member => mem_foldl_addKey.mpr (Or.inr member)
  · rw [get?_setAll, get?_setAll]
    cases found : lookup key (names.zip values).reverse with
    | some _ => rfl
    | none =>
      rw [lookup_eq_none_iff, List.map_reverse, assigned, List.mem_reverse] at found
      have missing : (fromKeys names value).get? key = none := by
        rw [get?_eq_none_iff, mem_keys_fromKeys]
        exact found
      rw [missing]
      rfl

/-- `del d[key]`; an absent key leaves the dictionary as it is. -/
def erase (d : OrderedDict κ β) (key : κ) : OrderedDict κ β where
  entries := d.entries.filter fun entry => entry.1 ≠ key
  nodup := d.nodup.sublist (List.filter_sublist.map Prod.fst)

@[simp] theorem get?_erase (d : OrderedDict κ β) (key other : κ) :
    (d.erase key).get? other = if key = other then none else d.get? other := by
  by_cases same : key = other
  · subst same
    rw [if_pos rfl]
    apply lookup_eq_none_iff.mpr
    simp [erase]
  · rw [if_neg same]
    cases found : d.get? other with
    | none =>
      have absent := lookup_eq_none_iff.mp found
      apply lookup_eq_none_iff.mpr
      intro member
      obtain ⟨entry, held, rfl⟩ := List.mem_map.mp member
      exact absent (List.mem_map_of_mem (List.mem_of_mem_filter held))
    | some value =>
      apply lookup_of_mem (erase d key).nodup
      apply List.mem_filter.mpr
      exact ⟨mem_of_get? found, by simpa using fun eq => same eq.symm⟩

/-- The entries of a dictionary are one entry and the rest. -/
theorem perm_erase {d : OrderedDict κ β} (found : d.get? key = some value) :
    d.entries.Perm ((key, value) :: (d.erase key).entries) := by
  have others {entries : List (κ × β)} (fresh : key ∉ entries.map Prod.fst) :
      entries.filter (fun entry => entry.1 ≠ key) = entries := by
    apply List.filter_eq_self.mpr
    intro entry member
    apply decide_eq_true
    rintro rfl
    exact fresh (List.mem_map_of_mem member)
  obtain ⟨before, after, split⟩ := List.append_of_mem (mem_of_get? found)
  have distinct := d.nodup
  rw [split, List.map_append, List.map_cons] at distinct
  have apart := List.nodup_middle.mp distinct
  have fresh := (List.nodup_cons.mp apart).1
  rw [List.mem_append, not_or] at fresh
  have rest : (d.erase key).entries = before ++ after := by
    change d.entries.filter (fun entry => entry.1 ≠ key) = before ++ after
    rw [split, List.filter_append, List.filter_cons_of_neg (by simp), others fresh.1, others fresh.2]
  rw [rest, split]
  exact List.perm_middle

end Operations

end OrderedDict
