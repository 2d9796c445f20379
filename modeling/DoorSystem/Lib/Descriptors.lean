import Mathlib.Data.Finset.Insert
import Mathlib.Data.Fintype.EquivFin
import Mathlib.Data.Nat.Find

/-!
# The descriptor table of a process

What stands behind each descriptor of a process, for any kind `κ` of open files. An open takes the
lowest number that is free, a close frees its number.

`allocate` and `close` are updates of the table at one number, so all that is said about an open or
a close follows from `get_put`. What an open gives is new: it is free before
(`get_lowest`), and every lower number is taken (`lowest_le_of_free`).
-/

namespace CLib

variable {κ : Type*}

/-- A descriptor table with its open descriptors. -/
structure Descriptors (κ : Type*) where
  get : ℕ → Option κ
  dom : Finset ℕ
  mem_dom : ∀ n, n ∈ dom ↔ (get n).isSome

namespace Descriptors

/-- A table is what stands at each number. -/
@[ext]
theorem ext {t u : Descriptors κ} (h : ∀ n, t.get n = u.get n) : t = u := by
  obtain ⟨get, dom, mem_dom⟩ := t
  obtain ⟨get', dom', mem_dom'⟩ := u
  obtain rfl : get = get' := funext h
  congr
  ext n
  rw [mem_dom, mem_dom']

variable (t : Descriptors κ)

theorem exists_free : ∃ n, t.get n = none := by
  obtain ⟨n, h_n⟩ := Infinite.exists_notMem_finset t.dom
  rw [t.mem_dom, Option.not_isSome_iff_eq_none] at h_n
  exact ⟨n, h_n⟩

/-- Some open file satisfies `q`. -/
def Any (q : κ → Bool) : Prop := ∃ n k, t.get n = some k ∧ q k

instance (q : κ → Bool) : Decidable (t.Any q) :=
  decidable_of_iff (∃ n ∈ t.dom, (t.get n).any q) (by
    constructor
    · rintro ⟨n, -, h_q⟩
      obtain ⟨k, h_k, h_q⟩ := (Option.any_eq_true q (t.get n)).mp h_q
      exact ⟨n, k, h_k, h_q⟩
    · rintro ⟨n, k, h_k, h_q⟩
      exact ⟨n, (t.mem_dom n).mpr (by simp [h_k]), by simp [h_k, h_q]⟩)

/-- The table with other names for what is open. -/
def map {κ' : Type*} (f : κ → κ') : Descriptors κ' where
  get n := (t.get n).map f
  dom := t.dom
  mem_dom n := by simp [t.mem_dom]

/-- The lowest free descriptor. -/
def lowest : ℕ := Nat.find t.exists_free

@[simp] theorem get_lowest : t.get t.lowest = none := Nat.find_spec t.exists_free

theorem lowest_le_of_free {t : Descriptors κ} {n : ℕ} (h : t.get n = none) : t.lowest ≤ n :=
  Nat.find_min' t.exists_free h

theorem ne_lowest {t : Descriptors κ} {n : ℕ} {k : κ} (h : t.get n = some k) : n ≠ t.lowest := by
  rintro rfl
  rw [get_lowest] at h
  exact absurd h (by simp)

/-- The table with `x` at the number `n`. -/
def put (n : ℕ) (x : Option κ) : Descriptors κ where
  get m := if m = n then x else t.get m
  dom := if x.isSome then insert n t.dom else t.dom.erase n
  mem_dom m := by
    split_ifs with h_x h_m h_m <;> simp [h_x, h_m, t.mem_dom]

theorem get_put (n : ℕ) (x : Option κ) (m : ℕ) :
    (t.put n x).get m = if m = n then x else t.get m := rfl

@[simp] theorem get_put_self (n : ℕ) (x : Option κ) : (t.put n x).get n = x := by
  rw [get_put, if_pos rfl]

theorem get_put_of_ne {n m : ℕ} (h : m ≠ n) (x : Option κ) : (t.put n x).get m = t.get m := by
  rw [get_put, if_neg h]

/-- An open: the new table and the descriptor. -/
def allocate (k : κ) : Descriptors κ × ℕ := (t.put t.lowest (some k), t.lowest)

@[simp] theorem allocate_fst (k : κ) : (t.allocate k).1 = t.put t.lowest (some k) := rfl

@[simp] theorem allocate_snd (k : κ) : (t.allocate k).2 = t.lowest := rfl

/-- A close. -/
def close (n : ℕ) : Descriptors κ := t.put n none

theorem get_close (n m : ℕ) : (t.close n).get m = if m = n then none else t.get m :=
  t.get_put n none m

/-- A descriptor that is opened and closed again leaves the table as it was. -/
theorem close_put_of_free {t : Descriptors κ} {n : ℕ} (h : t.get n = none) (x : Option κ) :
    (t.put n x).close n = t := by
  ext1 m
  rw [get_close, get_put]
  split_ifs with h_m
  · rw [h_m, h]
  · rfl

theorem close_put_of_ne {n m : ℕ} (h : m ≠ n) (x : Option κ) :
    (t.put n x).close m = (t.close m).put n x := by
  ext1 l
  simp only [get_close, get_put]
  split_ifs with h_m h_n
  · exact absurd (h_m.symm.trans h_n) h
  · rfl
  · rfl
  · rfl

/-- The second of two opens in a row gets the higher number. -/
theorem lowest_lt_lowest_put (k : κ) : t.lowest < (t.put t.lowest (some k)).lowest := by
  have h_free := (t.put t.lowest (some k)).get_lowest
  have h_ne : (t.put t.lowest (some k)).lowest ≠ t.lowest := by
    intro h_eq
    rw [h_eq, get_put_self] at h_free
    exact absurd h_free (by simp)
  rw [get_put_of_ne t h_ne] at h_free
  exact lt_of_le_of_ne (lowest_le_of_free h_free) h_ne.symm

theorem any_put_of_free {t : Descriptors κ} {n : ℕ} (h : t.get n = none) (k : κ) (q : κ → Bool) :
    (t.put n (some k)).Any q ↔ t.Any q ∨ q k := by
  constructor
  · rintro ⟨m, k', h_get, h_q⟩
    rw [get_put] at h_get
    split_ifs at h_get with h_m
    · obtain rfl := Option.some.inj h_get
      exact Or.inr h_q
    · exact Or.inl ⟨m, k', h_get, h_q⟩
  · rintro (⟨m, k', h_get, h_q⟩ | h_q)
    · have h_ne : m ≠ n := by
        rintro rfl
        rw [h] at h_get
        exact absurd h_get (by simp)
      exact ⟨m, k', (get_put_of_ne t h_ne _).trans h_get, h_q⟩
    · exact ⟨n, k, get_put_self t n _, h_q⟩

/-- With descriptor 0 free, the next open gets it. -/
theorem lowest_eq_zero {t : Descriptors κ} (h : t.get 0 = none) : t.lowest = 0 :=
  Nat.le_zero.mp (lowest_le_of_free h)

end Descriptors

end CLib
