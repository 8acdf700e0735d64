import Mathlib.Algebra.Ring.Nat
import Mathlib.Data.List.Forall2

/-! Values stored in consecutive slots. A writer appends the encodings of its
values, a reader cuts one slot after the other at the widths it knows. When
every encoding fills its slot exactly, the two agree on all slot boundaries,
whatever the slots contain and whatever follows them. -/
namespace SlotSequence

/-- The concatenated results of a fallible writer. -/
def concatM (write : γ → Except ε (List β)) : List γ → Except ε (List β)
  | [] => .ok []
  | value :: rest => do
    let head ← write value
    let tail ← concatM write rest
    return head ++ tail

@[simp] theorem concatM_nil (write : γ → Except ε (List β)) : concatM write [] = .ok [] := rfl

theorem concatM_cons (write : γ → Except ε (List β)) (value : γ) (rest : List γ) :
    concatM write (value :: rest) = (do
      let head ← write value
      let tail ← concatM write rest
      return head ++ tail) := rfl

/-- Reads one value from each slot. A slot may be cut short by the end of the
data; that is for the reader of the slot to judge. -/
def readAll (read : σ → List β → Except ε α) (width : σ → Nat) :
    List σ → List β → Except ε (List α)
  | [], _ => .ok []
  | slot :: slots, data => do
    let value ← read slot (data.take (width slot))
    let values ← readAll read width slots (data.drop (width slot))
    return value :: values

@[simp] theorem readAll_nil (read : σ → List β → Except ε α) (width : σ → Nat) (data : List β) :
    readAll read width [] data = .ok [] := rfl

theorem readAll_cons (read : σ → List β → Except ε α) (width : σ → Nat) (slot : σ) (slots : List σ) (data : List β) :
    readAll read width (slot :: slots) data = (do
      let value ← read slot (data.take (width slot))
      let values ← readAll read width slots (data.drop (width slot))
      return value :: values) := rfl

/-- Where the slots end. -/
def extent (width : σ → Nat) (slots : List σ) : Nat := (slots.map width).sum

@[simp] theorem extent_nil (width : σ → Nat) : extent width [] = 0 := rfl

@[simp] theorem extent_cons (width : σ → Nat) (slot : σ) (slots : List σ) :
    extent width (slot :: slots) = width slot + extent width slots := rfl

@[simp] theorem extent_append (width : σ → Nat) (first second : List σ) :
    extent width (first ++ second) = extent width first + extent width second := by
  simp [extent]

theorem extent_const (n : Nat) (slots : List σ) : extent (fun _ => n) slots = slots.length * n := by
  induction slots with
  | nil => simp
  | cons slot slots ih => rw [extent_cons, ih, List.length_cons, Nat.succ_mul, Nat.add_comm]

theorem extent_replicate (width : σ → Nat) (n : Nat) (slot : σ) :
    extent width (List.replicate n slot) = n * width slot := by
  simp [extent]

/-! ## Writing -/

section Writing
variable {write : γ → Except ε (List β)} {values rest first second : List γ}

theorem concatM_singleton (write : γ → Except ε (List β)) (value : γ) : concatM write [value] = write value := by
  simp only [concatM_cons, concatM_nil, bind, Except.bind]
  cases write value with
  | error e => rfl
  | ok head => simp [pure, Except.pure]

theorem concatM_cons_eq_ok : concatM write (value :: rest) = .ok bytes ↔
    ∃ head tail, write value = .ok head ∧ concatM write rest = .ok tail ∧ bytes = head ++ tail := by
  simp only [concatM_cons, bind, Except.bind]
  cases write value with
  | error e => simp
  | ok head =>
    cases concatM write rest with
    | error e => simp
    | ok tail => simp [pure, Except.pure, eq_comm]

theorem concatM_append (write : γ → Except ε (List β)) (first second : List γ) :
    concatM write (first ++ second) = do
      let head ← concatM write first
      let tail ← concatM write second
      return head ++ tail := by
  induction first with
  | nil =>
    simp only [List.nil_append, concatM_nil, bind, Except.bind]
    cases concatM write second <;> rfl
  | cons value rest ih =>
    simp only [List.cons_append, concatM_cons, ih, bind, Except.bind]
    cases write value with
    | error e => rfl
    | ok head =>
      cases concatM write rest with
      | error e => rfl
      | ok middle =>
        cases concatM write second with
        | error e => rfl
        | ok tail => simp [pure, Except.pure]

theorem concatM_append_eq_ok : concatM write (first ++ second) = .ok bytes ↔
    ∃ head tail, concatM write first = .ok head ∧ concatM write second = .ok tail ∧
      bytes = head ++ tail := by
  rw [concatM_append]
  simp only [bind, Except.bind]
  cases concatM write first with
  | error e => simp
  | ok head =>
    cases concatM write second with
    | error e => simp
    | ok tail => simp [pure, Except.pure, eq_comm]

theorem concatM_map (write : γ → Except ε (List β)) (f : δ → γ) (values : List δ) :
    concatM write (values.map f) = concatM (write ∘ f) values := by
  induction values with
  | nil => rfl
  | cons value rest ih => simp [concatM_cons, ih]

/-- Writing succeeds exactly when it succeeds for each value. -/
theorem concatM_ok_iff : (∃ bytes, concatM write values = .ok bytes) ↔
    ∀ value ∈ values, ∃ bytes, write value = .ok bytes := by
  induction values with
  | nil => simp
  | cons value rest ih =>
    rw [List.forall_mem_cons, ← ih]
    constructor
    · rintro ⟨bytes, written⟩
      obtain ⟨head, tail, first, second, -⟩ := concatM_cons_eq_ok.mp written
      exact ⟨⟨head, first⟩, tail, second⟩
    · rintro ⟨⟨head, first⟩, tail, second⟩
      exact ⟨_, concatM_cons_eq_ok.mpr ⟨head, tail, first, second, rfl⟩⟩

/-- A loop over the indices of a list of parts concatenates the parts. -/
theorem concatM_range (write : Nat → Except ε (List β)) (parts : List (List β))
    (each : ∀ i (inside : i < parts.length), write i = .ok parts[i]) :
    concatM write (List.range parts.length) = .ok parts.flatten := by
  induction parts generalizing write with
  | nil => rfl
  | cons part parts ih =>
    have head : write 0 = .ok part := each 0 (by simp)
    have tail := ih (write ∘ Nat.succ) fun i inside => each (i + 1) (by simpa using inside)
    rw [List.length_cons, List.range_succ_eq_map, concatM_cons, head, concatM_map, tail]
    rfl

theorem concatM_of_forall₂ {parts : List (List β)}
    (each : List.Forall₂ (fun value part => write value = .ok part) values parts) :
    concatM write values = .ok parts.flatten := by
  induction each with
  | nil => rfl
  | cons here _ ih => exact concatM_cons_eq_ok.mpr ⟨_, _, here, ih, rfl⟩

/-- If no value is written in fewer bytes than its slot has, the total is at
least that of the slots, with equality exactly when each value fills its slot. -/
theorem length_concatM_of_ge (width : γ → Nat) (written : concatM write values = .ok bytes)
    (least : ∀ value ∈ values, ∀ bytes, write value = .ok bytes → width value ≤ bytes.length) :
    extent width values ≤ bytes.length ∧
      (bytes.length = extent width values ↔
        ∀ value ∈ values, ∀ bytes, write value = .ok bytes → bytes.length = width value) := by
  induction values generalizing bytes with
  | nil => cases written; simp
  | cons value rest ih =>
    obtain ⟨head, tail, first, second, rfl⟩ := concatM_cons_eq_ok.mp written
    have here := least value (by simp) head first
    obtain ⟨there, exact_⟩ := ih second fun other member => least other (List.mem_cons_of_mem _ member)
    have onlyHead : (∀ bytes, write value = .ok bytes → bytes.length = width value) ↔
        head.length = width value := by
      simp [first]
    rw [List.forall_mem_cons, onlyHead, ← exact_, List.length_append, extent_cons]
    omega

/-- Values that fill their slots end where the slots end. -/
theorem length_concatM (width : γ → Nat) (written : concatM write values = .ok bytes)
    (fills : ∀ value ∈ values, ∀ bytes, write value = .ok bytes → bytes.length = width value) :
    bytes.length = extent width values :=
  (length_concatM_of_ge width written fun value member bytes here =>
    Nat.le_of_eq (fills value member bytes here).symm).2.mpr fills

end Writing

/-! ## Reading -/

section Reading
variable {read : σ → List β → Except ε α} {width : σ → Nat} {slots : List σ}

theorem readAll_cons_eq_ok : readAll read width (slot :: slots) data = .ok values ↔
    ∃ head tail, read slot (data.take (width slot)) = .ok head ∧
      readAll read width slots (data.drop (width slot)) = .ok tail ∧ values = head :: tail := by
  simp only [readAll_cons, bind, Except.bind]
  cases read slot (data.take (width slot)) with
  | error e => simp
  | ok head =>
    cases readAll read width slots (data.drop (width slot)) with
    | error e => simp
    | ok tail => simp [pure, Except.pure, eq_comm]

theorem length_readAll (read_ : readAll read width slots data = .ok values) :
    values.length = slots.length := by
  induction slots generalizing data values with
  | nil => cases read_; rfl
  | cons slot slots ih =>
    obtain ⟨head, tail, -, rest, rfl⟩ := readAll_cons_eq_ok.mp read_
    simp [ih rest]

/-- Reading two runs of slots reads the second where the first one ends. -/
theorem readAll_append (read : σ → List β → Except ε α) (width : σ → Nat) (first second : List σ)
    (data : List β) : readAll read width (first ++ second) data = do
      let head ← readAll read width first data
      let tail ← readAll read width second (data.drop (extent width first))
      return head ++ tail := by
  induction first generalizing data with
  | nil =>
    simp only [List.nil_append, readAll_nil, extent_nil, List.drop_zero, bind, Except.bind]
    cases readAll read width second data <;> rfl
  | cons slot rest ih =>
    simp only [List.cons_append, readAll_cons, ih, extent_cons, bind, Except.bind, List.drop_drop]
    cases read slot (data.take (width slot)) with
    | error e => rfl
    | ok value =>
      cases readAll read width rest (data.drop (width slot)) with
      | error e => rfl
      | ok middle =>
        dsimp only [pure, Except.pure]
        cases readAll read width second (data.drop (width slot + extent width rest)) <;> rfl

/-- What lies behind the slots is not read. -/
theorem readAll_take (read : σ → List β → Except ε α) (width : σ → Nat) (slots : List σ)
    (data : List β) (n : Nat) (within : extent width slots ≤ n) :
    readAll read width slots (data.take n) = readAll read width slots data := by
  induction slots generalizing data n with
  | nil => rfl
  | cons slot slots ih =>
    rw [extent_cons] at within
    simp only [readAll_cons, List.take_take, List.drop_take]
    rw [Nat.min_eq_left (by omega), ih _ _ (by omega)]

/-- Values that fill their slots are read back, whatever follows. -/
theorem readAll_concatM {write : σ × α → Except ε (List β)} {items : List (σ × α)}
    (faithful : ∀ item ∈ items, ∃ bytes, write item = .ok bytes ∧ bytes.length = width item.1 ∧
      read item.1 bytes = .ok item.2) :
    ∃ bytes, concatM write items = .ok bytes ∧ bytes.length = extent width (items.map Prod.fst) ∧
      ∀ rest, readAll read width (items.map Prod.fst) (bytes ++ rest) = .ok (items.map Prod.snd) := by
  induction items with
  | nil => exact ⟨[], rfl, rfl, fun _ => rfl⟩
  | cons item items ih =>
    obtain ⟨head, first, fills, back⟩ := faithful item (by simp)
    obtain ⟨tail, second, total, reads⟩ := ih fun other member =>
      faithful other (List.mem_cons_of_mem _ member)
    refine ⟨head ++ tail, concatM_cons_eq_ok.mpr ⟨head, tail, first, second, rfl⟩,
      by simp [fills, total], fun rest => ?_⟩
    rw [List.map_cons, List.map_cons, List.append_assoc]
    refine readAll_cons_eq_ok.mpr ⟨item.2, _, ?_, ?_, rfl⟩
    · rw [← fills, List.take_left, back]
    · rw [← fills, List.drop_left, reads]

/-- The data cut into its slots. -/
def cut (width : σ → Nat) : List σ → List β → List (σ × List β)
  | [], _ => []
  | slot :: slots, data => (slot, data.take (width slot)) :: cut width slots (data.drop (width slot))

@[simp] theorem cut_nil (width : σ → Nat) (data : List β) : cut width [] data = [] := rfl

theorem cut_cons (width : σ → Nat) (slot : σ) (slots : List σ) (data : List β) :
    cut width (slot :: slots) data =
      (slot, data.take (width slot)) :: cut width slots (data.drop (width slot)) := rfl

/-- No piece is longer than its slot. -/
theorem length_le_of_mem_cut {width : σ → Nat} {slots : List σ} {data piece : List β}
    (member : (slot, piece) ∈ cut width slots data) : piece.length ≤ width slot := by
  induction slots generalizing data with
  | nil => cases member
  | cons first slots ih =>
    rcases List.mem_cons.mp member with same | later
    · cases same
      exact List.length_take_le ..
    · exact ih later

theorem map_fst_cut (width : σ → Nat) (slots : List σ) (data : List β) :
    (cut width slots data).map Prod.fst = slots := by
  induction slots generalizing data with
  | nil => rfl
  | cons slot slots ih => simp [cut_cons, ih]

theorem length_of_mem_cut (whole : extent width slots ≤ data.length)
    (member : piece ∈ cut width slots data) : piece.2.length = width piece.1 := by
  induction slots generalizing data with
  | nil => cases member
  | cons slot slots ih =>
    rw [extent_cons] at whole
    rcases List.mem_cons.mp member with rfl | member
    · simp only [List.length_take]
      omega
    · exact ih (by simp only [List.length_drop]; omega) member

/-- Pieces of the right widths are cut apart again. -/
theorem cut_flatten {slots : List σ} {pieces : List (List β)}
    (fill : List.Forall₂ (fun slot piece => piece.length = width slot) slots pieces) (rest : List β) :
    cut width slots (pieces.flatten ++ rest) = slots.zip pieces := by
  induction fill with
  | nil => rfl
  | cons here _ ih =>
    rw [cut_cons, List.flatten_cons, List.append_assoc, ← here, List.take_left, List.drop_left, ih, List.zip_cons_cons]

/-- Reading all slots reads every piece. -/
theorem readAll_eq_ok_iff_cut : readAll read width slots data = .ok values ↔
    List.Forall₂ (fun piece value => read piece.1 piece.2 = .ok value) (cut width slots data) values := by
  induction slots generalizing data values with
  | nil => simp [eq_comm]
  | cons slot slots ih =>
    rw [readAll_cons_eq_ok, cut_cons, List.forall₂_cons_left_iff]
    simp only [ih]

end Reading

/-- A joined piece lies between the widths of those before it and its end. -/
theorem drop_take_flatten {pieces : List (List β)} {piece : List β} (widths : pieces.map List.length = sizes)
    (found : pieces[i]? = some piece) (rest : List β) :
    ((pieces.flatten ++ rest).take (sizes.take (i + 1)).sum).drop (sizes.take i).sum = piece := by
  subst widths
  induction pieces generalizing i with
  | nil => simp at found
  | cons first pieces ih =>
    rw [List.map_cons, List.take_succ_cons, List.sum_cons, List.flatten_cons, List.append_assoc,
      List.take_length_add_append]
    cases i with
    | zero =>
      cases found
      rw [List.take_zero, List.take_zero, List.sum_nil, List.take_zero, List.append_nil, List.drop_zero]
    | succ i =>
      rw [List.take_succ_cons, List.sum_cons, List.drop_length_add_append]
      exact ih found

/-- A sequence that is a shift of itself behind copies of an element consists
of copies of this element. -/
theorem eq_replicate_of_shift {data more : List α} (behind : 0 < count)
    (same : data = (List.replicate count a ++ (data ++ more)).take data.length) :
    data = List.replicate data.length a := by
  have each : ∀ i (inside : i < data.length), data[i] = a := by
    intro i
    induction i using Nat.strongRecOn with
    | _ i ih =>
      intro inside
      have here : data[i] = (List.replicate count a ++ (data ++ more)).get ⟨i, by simp; omega⟩ := by
        have shifted := List.getElem_of_eq same inside
        rwa [List.getElem_take] at shifted
      rw [here, List.get_eq_getElem]
      by_cases early : i < count
      · rw [List.getElem_append_left (by simpa using early), List.getElem_replicate]
      · rw [List.getElem_append_right (by simpa using Nat.le_of_not_lt early),
          List.getElem_append_left (by simp; omega)]
        exact ih _ (by simp; omega) _
  exact List.eq_replicate_iff.mpr ⟨rfl, fun value member => by
    obtain ⟨i, inside, rfl⟩ := List.getElem_of_mem member
    exact each i inside⟩

/-! ## Groups of equal length -/

/-- The first `count` groups of `size` elements. -/
def groups (size : Nat) : Nat → List α → List (List α)
  | 0, _ => []
  | count + 1, values => values.take size :: groups size count (values.drop size)

@[simp] theorem groups_zero (size : Nat) (values : List α) : groups size 0 values = [] := rfl

theorem groups_succ (size count : Nat) (values : List α) :
    groups size (count + 1) values = values.take size :: groups size count (values.drop size) := rfl

@[simp] theorem length_groups (size count : Nat) (values : List α) :
    (groups size count values).length = count := by
  induction count generalizing values with
  | zero => rfl
  | succ count ih => simp [groups_succ, ih]

theorem groups_map (f : α → β) (size count : Nat) (values : List α) :
    groups size count (values.map f) = (groups size count values).map (List.map f) := by
  induction count generalizing values with
  | zero => rfl
  | succ count ih => rw [groups_succ, groups_succ, ← List.map_take, ← List.map_drop, ih, List.map_cons]

theorem flatten_groups (size count : Nat) (values : List α) :
    (groups size count values).flatten = values.take (count * size) := by
  induction count generalizing values with
  | zero => simp
  | succ count ih =>
    rw [groups_succ, List.flatten_cons, ih, Nat.succ_mul, Nat.add_comm, List.take_add]

theorem groups_flatten {values : List (List α)} (equal : ∀ group ∈ values, group.length = size)
    (rest : List α) : groups size values.length (values.flatten ++ rest) = values := by
  induction values with
  | nil => rfl
  | cons group values ih =>
    have here := equal group (by simp)
    have there := ih fun other member => equal other (List.mem_cons_of_mem _ member)
    rw [List.length_cons, groups_succ, List.flatten_cons, List.append_assoc, ← here, List.take_left,
      List.drop_left, here, there]

/-- Behind some of several equal blocks are the others. -/
theorem drop_flatten {parts : List (List α)} (equal : ∀ part ∈ parts, part.length = size)
    (before : i ≤ parts.length) : parts.flatten.drop (i * size) = (parts.drop i).flatten := by
  induction parts generalizing i with
  | nil => simp
  | cons part parts ih =>
    cases i with
    | zero => simp
    | succ i =>
      have here := equal part (by simp)
      rw [Nat.succ_mul, Nat.add_comm, List.flatten_cons, ← List.drop_drop, ← here, List.drop_left, here,
        ih (fun other member => equal other (List.mem_cons_of_mem _ member)) (by simpa using before),
        List.drop_succ_cons]

theorem length_flatten_blocks {parts : List (List α)} (equal : ∀ part ∈ parts, part.length = size) :
    parts.flatten.length = parts.length * size := by
  induction parts with
  | nil => simp
  | cons part parts ih =>
    rw [List.flatten_cons, List.length_append, equal part (by simp),
      ih fun other member => equal other (List.mem_cons_of_mem _ member), List.length_cons, Nat.succ_mul,
      Nat.add_comm]

theorem length_of_mem_groups (enough : count * size ≤ values.length)
    (member : group ∈ groups size count values) : group.length = size := by
  induction count generalizing values with
  | zero => cases member
  | succ count ih =>
    rw [Nat.succ_mul] at enough
    rcases List.mem_cons.mp member with rfl | member
    · simp only [List.length_take]
      omega
    · exact ih (by simp only [List.length_drop]; omega) member

/-- What follows the last group has no part in them. -/
theorem groups_append (enough : values.length = count * size) (rest : List α) :
    groups size count (values ++ rest) = groups size count values := by
  have equal : ∀ group ∈ groups size count values, group.length = size :=
    fun group member => length_of_mem_groups (Nat.le_of_eq enough.symm) member
  have grouped := groups_flatten equal rest
  rwa [length_groups, flatten_groups, ← enough, List.take_length] at grouped

end SlotSequence
