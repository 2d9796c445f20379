import Mathlib.Data.Fin.Basic
import Mathlib.Logic.Function.Basic
import Mathlib.Tactic

/-!
# An overwriting ring as a log

A ring of `N` cells with the index of the next cell to write and the number of cells in use; a
push into a full ring overwrites the oldest entry.

`Represents r xs` says that `r` is what pushing the entries of the log `xs`, oldest first, leaves:
the entry with log index `i` stands in cell `i % N`, for the last `N` indices. `Represents.push`
is the step, `Represents.window` reads the stored part of the log back, oldest first.
-/

namespace CLib

/-- A ring of `N` cells. -/
structure Ring (N : ℕ) (α : Type*) where
  cells : Fin N → α
  /-- The next cell to write. -/
  head : ℕ
  /-- The number of cells in use. -/
  count : ℕ

namespace Ring

variable {N : ℕ} [NeZero N] {α : Type*}

/-- Write the next cell; the count stops at the size of the ring. -/
def push (r : Ring N α) (x : α) : Ring N α where
  cells := Function.update r.cells (Fin.ofNat N r.head) x
  head := (r.head + 1) % N
  count := if r.count < N then r.count + 1 else r.count

/-- The cell of the oldest stored entry. -/
def oldest (r : Ring N α) : ℕ := (r.head + N - r.count) % N

/-- The first `k` stored entries, oldest first. -/
def window (r : Ring N α) (k : ℕ) : List α :=
  (List.range k).map (fun i => r.cells (Fin.ofNat N ((r.oldest + i) % N)))

/-- The part of a log that a ring of `N` cells still holds. -/
def stored (N : ℕ) (xs : List α) : List α := xs.drop (xs.length - N)

omit [NeZero N] in
@[simp] theorem length_stored (xs : List α) : (stored N xs).length = min xs.length N := by
  unfold stored
  rw [List.length_drop]
  omega

omit [NeZero N] in
theorem getElem_stored (xs : List α) {i : ℕ} (hi : i < (stored N xs).length)
    (h_log : xs.length - N + i < xs.length) :
    (stored N xs)[i] = xs[xs.length - N + i] :=
  List.getElem_drop

@[simp] theorem length_window (r : Ring N α) (k : ℕ) : (r.window k).length = k := by
  simp [window]

theorem getElem_window (r : Ring N α) {k i : ℕ} (hi : i < (r.window k).length) :
    (r.window k)[i] = r.cells (Fin.ofNat N ((r.oldest + i) % N)) := by
  simp [window]

/-- The ring holds the last entries of the log `xs`. -/
structure Represents (r : Ring N α) (xs : List α) : Prop where
  head_eq : r.head = xs.length % N
  count_eq : r.count = min xs.length N
  /-- The entry with log index `i` is in cell `i % N`, as long as it has not been overwritten. -/
  cells_eq : ∀ i (hi : i < xs.length), xs.length ≤ i + N → r.cells (Fin.ofNat N i) = xs[i]

theorem Represents.empty (cells : Fin N → α) :
    Represents (⟨cells, 0, 0⟩ : Ring N α) [] where
  head_eq := (Nat.zero_mod N).symm
  count_eq := by simp
  cells_eq := fun i hi => absurd hi (by simp)

theorem ofNat_mod (i : ℕ) : Fin.ofNat N (i % N) = Fin.ofNat N i := by
  apply Fin.ext
  simp [Fin.ofNat]

/-- Two log indices less than `N` apart are in different cells. -/
theorem ofNat_ne {i j : ℕ} (h_lt : i < j) (h_near : j < i + N) :
    Fin.ofNat N i ≠ Fin.ofNat N j := by
  intro h_eq
  have h_mod : i % N = j % N := by simpa [Fin.ofNat] using congrArg Fin.val h_eq
  have h_dvd : N ∣ j - i := (Nat.modEq_iff_dvd' h_lt.le).mp h_mod
  have h_le : N ≤ j - i := Nat.le_of_dvd (by omega) h_dvd
  omega

/-- **Step.** A push appends to the log. -/
theorem Represents.push {r : Ring N α} {xs : List α} (h : Represents r xs) (x : α) :
    Represents (r.push x) (xs ++ [x]) where
  head_eq := by
    show (r.head + 1) % N = _
    rw [h.head_eq, Nat.mod_add_mod, List.length_append, List.length_singleton]
  count_eq := by
    show (if r.count < N then r.count + 1 else r.count) = _
    rw [h.count_eq, List.length_append, List.length_singleton]
    split <;> omega
  cells_eq := by
    intro i hi h_kept
    rw [List.length_append, List.length_singleton] at hi h_kept
    show Function.update r.cells (Fin.ofNat N r.head) x (Fin.ofNat N i) = _
    rw [h.head_eq, ofNat_mod]
    rcases Nat.lt_succ_iff_lt_or_eq.mp hi with h_old | rfl
    · -- an entry that is kept is in another cell than the new one
      rw [Function.update_of_ne (ofNat_ne h_old (by omega)), List.getElem_append_left h_old]
      exact h.cells_eq i h_old (by omega)
    · rw [Function.update_self, List.getElem_append_right (le_refl _)]
      simp

/-- The oldest stored entry is the first one of the stored part of the log. -/
theorem Represents.oldest_add {r : Ring N α} {xs : List α} (h : Represents r xs) (i : ℕ) :
    (r.oldest + i) % N = (xs.length - N + i) % N := by
  have h_pos : 0 < N := Nat.pos_of_ne_zero (NeZero.ne N)
  unfold Ring.oldest
  rw [h.head_eq, h.count_eq, Nat.mod_add_mod]
  rcases Nat.le_total xs.length N with h_le | h_ge
  · -- nothing has been overwritten, and the oldest entry is the first one of the log
    rw [min_eq_left h_le, Nat.sub_eq_zero_of_le h_le]
    rcases Nat.lt_or_eq_of_le h_le with h_lt | h_eq
    · rw [Nat.mod_eq_of_lt h_lt, Nat.add_sub_cancel_left, Nat.add_mod_left, Nat.zero_add]
    · rw [h_eq, Nat.mod_self, Nat.zero_add, Nat.sub_self]
  · -- the ring is full, and the next cell to write holds the oldest entry
    have h_sub : (xs.length - N) % N = xs.length % N := (Nat.mod_eq_sub_mod h_ge).symm
    rw [min_eq_right h_ge, Nat.add_sub_cancel]
    calc (xs.length % N + i) % N
        = ((xs.length - N) % N + i) % N := by rw [h_sub]
      _ = (xs.length - N + i) % N := by rw [Nat.mod_add_mod]

/-- **Reading back.** The stored entries, oldest first, are the stored part of the log. -/
theorem Represents.window {r : Ring N α} {xs : List α} (h : Represents r xs) {k : ℕ}
    (hk : k ≤ min xs.length N) : r.window k = (stored N xs).take k := by
  apply List.ext_getElem
  · rw [List.length_take, length_stored, length_window]
    omega
  · intro i h₁ h₂
    have hi : i < k := by rwa [length_window] at h₁
    -- both sides are the entry with this index in the log
    have h_log : xs.length - N + i < xs.length := by omega
    calc (r.window k)[i]
        = r.cells (Fin.ofNat N ((xs.length - N + i) % N)) := by
          rw [getElem_window, h.oldest_add i]
      _ = r.cells (Fin.ofNat N (xs.length - N + i)) := by rw [ofNat_mod]
      _ = xs[xs.length - N + i] := h.cells_eq _ h_log (by omega)
      _ = ((stored N xs).take k)[i] := by rw [List.getElem_take, getElem_stored xs _ h_log]

end Ring

end CLib
