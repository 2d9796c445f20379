import Mathlib.Data.Fin.Basic
import Mathlib.Logic.Function.Basic
import Mathlib.Tactic

/-!
# A bounded queue in a ring with one free cell

A ring of `N` cells with the index of the next cell to read and of the next cell to write. The queue
is empty when the two indices agree, and full when a write would make them agree, so that it holds
at most `N - 1` entries.

`contents` is the queue as a list, oldest first. `contents_push`, `push_eq_none_iff`,
`contents_dropOldest` and `pop_eq` say what each operation does to it, and are all that a client
needs. `boundedPush` is the abstract operation that a writer builds out of them, which makes room by
dropping the oldest entry.
-/

namespace CLib

/-- A ring of `N` cells. -/
structure SlotRing (N : ℕ) (α : Type*) where
  cells : Fin N → α
  /-- The next cell to read. -/
  head : ℕ
  /-- The next cell to write. -/
  tail : ℕ
  head_lt : head < N
  tail_lt : tail < N

namespace SlotRing

variable {N : ℕ} [NeZero N] {α : Type*}

/-- The index after `i`. -/
theorem next_lt (i : ℕ) : (i + 1) % N < N := Nat.mod_lt _ (Nat.pos_of_ne_zero (NeZero.ne N))

/-- A ring over the given cells that holds nothing. -/
def empty (cells : Fin N → α) : SlotRing N α where
  cells := cells
  head := 0
  tail := 0
  head_lt := Nat.pos_of_ne_zero (NeZero.ne N)
  tail_lt := Nat.pos_of_ne_zero (NeZero.ne N)

/-- Write the next cell. -/
def write (r : SlotRing N α) (x : α) : SlotRing N α :=
  { r with
    cells := Function.update r.cells (Fin.ofNat N r.tail) x
    tail := (r.tail + 1) % N
    tail_lt := next_lt r.tail }

/-- Write the next cell, if it is not the one that must stay free. -/
def push (r : SlotRing N α) (x : α) : Option (SlotRing N α) :=
  if (r.tail + 1) % N = r.head then none else some (r.write x)

/-- Step over the oldest entry. -/
def dropOldest (r : SlotRing N α) : SlotRing N α :=
  { r with head := (r.head + 1) % N, head_lt := next_lt r.head }

/-- Read the oldest entry. -/
def pop (r : SlotRing N α) : Option (α × SlotRing N α) :=
  if r.head = r.tail then none else some (r.cells (Fin.ofNat N r.head), r.dropOldest)

/-- The number of entries. -/
def count (r : SlotRing N α) : ℕ := (r.tail + N - r.head) % N

/-- The entries, oldest first. -/
def contents (r : SlotRing N α) : List α :=
  (List.range r.count).map (fun i => r.cells (Fin.ofNat N (r.head + i)))

@[simp] theorem length_contents (r : SlotRing N α) : r.contents.length = r.count := by
  simp [contents]

omit [NeZero N] in
/-- The count without the wrap-around. -/
theorem count_eq (r : SlotRing N α) :
    r.count = if r.head ≤ r.tail then r.tail - r.head else r.tail + N - r.head := by
  have h_head := r.head_lt
  have h_tail := r.tail_lt
  unfold count
  split_ifs with h_le
  · rw [show r.tail + N - r.head = (r.tail - r.head) + N by omega, Nat.add_mod_right]
    exact Nat.mod_eq_of_lt (by omega)
  · exact Nat.mod_eq_of_lt (by omega)

theorem count_lt (r : SlotRing N α) : r.count < N :=
  Nat.mod_lt _ (Nat.pos_of_ne_zero (NeZero.ne N))

omit [NeZero N] in
/-- The next index of the ring without the division. -/
theorem next_eq {i : ℕ} (hi : i < N) : (i + 1) % N = if i + 1 = N then 0 else i + 1 := by
  split_ifs with h_eq
  · rw [h_eq, Nat.mod_self]
  · exact Nat.mod_eq_of_lt (by omega)

theorem contents_eq_nil_iff (r : SlotRing N α) : r.contents = [] ↔ r.head = r.tail := by
  have h_head := r.head_lt
  have h_tail := r.tail_lt
  rw [← List.length_eq_zero_iff, length_contents, count_eq]
  split_ifs <;> omega

/-- **Full.** A push is refused exactly when `N - 1` entries are there. -/
theorem push_eq_none_iff (r : SlotRing N α) (x : α) :
    r.push x = none ↔ r.contents.length = N - 1 := by
  have h_head := r.head_lt
  have h_tail := r.tail_lt
  unfold push
  rw [ite_eq_left_iff, length_contents, count_eq]
  simp only [reduceCtorEq, imp_false, not_not]
  rw [next_eq h_tail]
  split_ifs <;> omega

/-- Two entries of the ring, or the last entry and the cell to write, are in different cells. -/
theorem cell_ne (r : SlotRing N α) {i : ℕ} (hi : i < r.count) :
    Fin.ofNat N (r.head + i) ≠ Fin.ofNat N r.tail := by
  have h_head := r.head_lt
  have h_tail := r.tail_lt
  intro h_eq
  have h_mod : (r.head + i) % N = r.tail % N := by simpa [Fin.ofNat] using congrArg Fin.val h_eq
  rw [Nat.mod_eq_of_lt h_tail] at h_mod
  rw [count_eq] at hi
  -- the entry is before the end of the cells, or has come round to their start
  rcases Nat.lt_or_ge (r.head + i) N with h_lt | h_ge
  · rw [Nat.mod_eq_of_lt h_lt] at h_mod
    split_ifs at hi <;> omega
  · rw [Nat.mod_eq_sub_mod h_ge] at h_mod
    split_ifs at hi with h_le
    · omega
    · rw [Nat.mod_eq_of_lt (by omega)] at h_mod
      omega

/-- The cell to write comes after the last entry. -/
theorem cell_count (r : SlotRing N α) : Fin.ofNat N (r.head + r.count) = Fin.ofNat N r.tail := by
  have h_head := r.head_lt
  have h_tail := r.tail_lt
  apply Fin.ext
  show (r.head + r.count) % N = r.tail % N
  rw [count_eq]
  split_ifs with h_le
  · congr 1
    omega
  · calc (r.head + (r.tail + N - r.head)) % N
        = (r.tail + N) % N := by
          congr 1
          omega
      _ = r.tail % N := Nat.add_mod_right _ _

/-- **Push.** An accepted push appends. -/
theorem contents_push {r r' : SlotRing N α} {x : α} (h : r.push x = some r') :
    r'.contents = r.contents ++ [x] := by
  have h_head := r.head_lt
  have h_tail := r.tail_lt
  unfold push at h
  split_ifs at h with h_full
  obtain rfl := Option.some.inj h
  have h_count : (r.write x).count = r.count + 1 := by
    -- not full, so the tail does not reach the head
    have h_next : (r.write x).tail = if r.tail + 1 = N then 0 else r.tail + 1 := next_eq h_tail
    have h_same : (r.write x).head = r.head := rfl
    rw [next_eq h_tail] at h_full
    rw [count_eq, count_eq, h_next, h_same]
    split_ifs at h_full ⊢ <;> omega
  unfold contents
  rw [h_count, List.range_succ, List.map_append, List.map_singleton]
  unfold write
  dsimp only
  congr 1
  · -- the old elements are in other cells
    apply List.map_congr_left
    intro i h_i
    rw [Function.update_of_ne (r.cell_ne (List.mem_range.mp h_i))]
  · rw [r.cell_count, Function.update_self]

/-- **Drop.** Stepping over the oldest entry removes it. -/
theorem contents_dropOldest {r : SlotRing N α} (h : r.contents ≠ []) :
    r.contents = r.cells (Fin.ofNat N r.head) :: r.dropOldest.contents := by
  have h_head := r.head_lt
  have h_tail := r.tail_lt
  rw [Ne, contents_eq_nil_iff] at h
  have h_count : r.count = r.dropOldest.count + 1 := by
    -- not empty, so there is one to drop
    have h_next : r.dropOldest.head = if r.head + 1 = N then 0 else r.head + 1 := next_eq h_head
    have h_same : r.dropOldest.tail = r.tail := rfl
    rw [count_eq, count_eq, h_next, h_same]
    split_ifs <;> omega
  unfold contents
  rw [h_count, List.range_succ_eq_map, List.map_cons, List.map_map]
  refine congrArg₂ List.cons rfl (List.map_congr_left (fun i _ => ?_))
  unfold dropOldest
  show r.cells (Fin.ofNat N (r.head + (i + 1))) = r.cells (Fin.ofNat N ((r.head + 1) % N + i))
  congr 1
  apply Fin.ext
  -- the same cell, counted from either head
  show (r.head + (i + 1)) % N = ((r.head + 1) % N + i) % N
  rw [Nat.mod_add_mod, Nat.add_assoc, Nat.add_comm 1 i]

/-- **Pop.** The oldest entry is taken, if there is one. -/
theorem pop_eq (r : SlotRing N α) :
    (r.contents = [] ∧ r.pop = none) ∨
      ∃ x, r.contents = x :: r.dropOldest.contents ∧ r.pop = some (x, r.dropOldest) := by
  unfold pop
  by_cases h : r.head = r.tail
  · exact Or.inl ⟨(contents_eq_nil_iff r).mpr h, if_pos h⟩
  · refine Or.inr ⟨_, contents_dropOldest ?_, if_neg h⟩
    rwa [Ne, contents_eq_nil_iff]

@[simp] theorem contents_empty (cells : Fin N → α) : (empty cells).contents = [] :=
  (contents_eq_nil_iff _).mpr rfl

end SlotRing

/-! ### The abstract queue -/

/-- Append to a queue of at most `M` entries; the oldest one makes room when it is full. -/
def boundedPush {α : Type*} (M : ℕ) (xs : List α) (x : α) : List α :=
  if xs.length < M then xs ++ [x] else xs.tail ++ [x]

end CLib
