import Mathlib.Data.Multiset.Filter
import Mathlib.Data.Multiset.AddSub

/-!
# Messages in flight

Messages that may arrive in any order are a multiset. Where each of them has at most one key (the
transaction it belongs to), `about key k bag` are the ones with the key `k`. Sending and delivering
a message changes these multisets for its own key only.
-/

namespace CLib

variable {α κ : Type*} [DecidableEq κ] (key : α → Option κ) {k : κ} {a b : α} {bag : Multiset α}

/-- The messages with the key `k`. -/
def about (k : κ) (bag : Multiset α) : Multiset α := bag.filter (fun a => key a = some k)

variable {key}

theorem mem_about : a ∈ about key k bag ↔ a ∈ bag ∧ key a = some k := Multiset.mem_filter

theorem about_add (bag bag' : Multiset α) :
    about key k (bag + bag') = about key k bag + about key k bag' :=
  Multiset.filter_add _ _ _

theorem about_cons_of_key (h : key a = some k) :
    about key k (a ::ₘ bag) = a ::ₘ about key k bag :=
  Multiset.filter_cons_of_pos _ h

theorem about_cons_of_ne (h : key a ≠ some k) : about key k (a ::ₘ bag) = about key k bag :=
  Multiset.filter_cons_of_neg _ h

/-- The first message with its key. -/
theorem about_cons_eq_singleton (h : about key k bag = 0) (h_key : key a = some k) :
    about key k (a ::ₘ bag) = {a} := by
  rw [about_cons_of_key h_key, h, Multiset.cons_zero]

theorem about_eq_zero (h : ∀ a ∈ bag, key a ≠ some k) : about key k bag = 0 :=
  Multiset.filter_eq_nil.mpr h

theorem mem_of_about_eq_singleton (h : about key k bag = {a}) : a ∈ bag :=
  (mem_about.mp (h ▸ Multiset.mem_singleton_self a)).1

/-- A message with the key is the only one there is. -/
theorem eq_of_about_eq_singleton (h : about key k bag = {b}) (h_mem : a ∈ bag)
    (h_key : key a = some k) : a = b := by
  have h_about : a ∈ about key k bag := mem_about.mpr ⟨h_mem, h_key⟩
  rw [h] at h_about
  exact Multiset.mem_singleton.mp h_about

variable [DecidableEq α]

/-- A delivery leaves the messages with other keys in flight. -/
theorem about_erase_of_ne (h : key a ≠ some k) : about key k (bag.erase a) = about key k bag := by
  by_cases h_mem : a ∈ bag
  · have h_cons : about key k (a ::ₘ bag.erase a) = about key k (bag.erase a) :=
      about_cons_of_ne h
    rw [Multiset.cons_erase h_mem] at h_cons
    exact h_cons.symm
  · rw [Multiset.erase_of_notMem h_mem]

/-- The delivery of the only message with its key. -/
theorem about_erase_of_key (h : about key k bag = {a}) (h_key : key a = some k) :
    about key k (bag.erase a) = 0 := by
  have h_cons : about key k (a ::ₘ bag.erase a) = a ::ₘ about key k (bag.erase a) :=
    about_cons_of_key h_key
  rw [Multiset.cons_erase (mem_of_about_eq_singleton h), h, ← Multiset.cons_zero] at h_cons
  exact ((Multiset.cons_inj_right a).mp h_cons).symm

/-- A delivery takes one message with its key away. -/
theorem card_about_erase (h_mem : a ∈ bag) (h_key : key a = some k) :
    (about key k (bag.erase a)).card + 1 = (about key k bag).card := by
  have h_cons : about key k (a ::ₘ bag.erase a) = a ::ₘ about key k (bag.erase a) :=
    about_cons_of_key h_key
  rw [Multiset.cons_erase h_mem] at h_cons
  rw [h_cons, Multiset.card_cons]

/-- What is lost is not counted any more. -/
theorem card_about_erase_le : (about key k (bag.erase a)).card ≤ (about key k bag).card :=
  Multiset.card_le_card (Multiset.filter_le_filter _ (Multiset.erase_le a bag))

end CLib
