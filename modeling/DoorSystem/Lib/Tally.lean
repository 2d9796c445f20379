import DoorSystem.Lib.Run

/-!
# Accounts of a run

`tally step f s is` adds up an amount for each step of a run. `tally_balance` is the rule of a
potential: where every step pays what it costs out of its income and of what is put by, the whole
run does.
-/

namespace CLib

variable {σ ι : Type*} (step : σ → ι → σ)

/-- The sum over the steps of the run, where `f s i` is the amount of a step from `s`. -/
def tally (f : σ → ι → ℕ) : σ → List ι → ℕ
  | _, [] => 0
  | s, i :: is => f s i + tally f (step s i) is

variable {step}

theorem tally_add (f g : σ → ι → ℕ) (s : σ) (is : List ι) :
    tally step (fun s i => f s i + g s i) s is = tally step f s is + tally step g s is := by
  induction is generalizing s with
  | nil => rfl
  | cons i is ih =>
    unfold tally
    rw [ih]
    omega

theorem tally_const_mul (k : ℕ) (f : σ → ι → ℕ) (s : σ) (is : List ι) :
    tally step (fun s i => k * f s i) s is = k * tally step f s is := by
  induction is generalizing s with
  | nil => rfl
  | cons i is ih =>
    unfold tally
    rw [ih, Nat.mul_add]

/-- **Balance rule.** `φ` is what is put by. -/
theorem tally_balance (φ : σ → ℕ) {cost income : σ → ι → ℕ}
    (h_step : ∀ s i, cost s i + φ (step s i) = φ s + income s i) (s : σ) (is : List ι) :
    tally step cost s is + φ (run step s is) = φ s + tally step income s is := by
  induction is generalizing s with
  | nil => exact Nat.zero_add _
  | cons i is ih =>
    have h_first := h_step s i
    have h_rest := ih (step s i)
    unfold tally
    rw [run_cons]
    omega

end CLib
