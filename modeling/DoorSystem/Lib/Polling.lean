import Mathlib.Algebra.Order.Ring.Int
import Mathlib.Data.Nat.Find
import Mathlib.Tactic.Ring

/-!
# Polling a signal with a timeout

A loop reads a signal until it has a target value, gives up when its clock is past a timeout, and
sleeps between two reads. `Polls` says what such a loop gets to see: the time of each read and of
the clock reading after it. A sleep takes at least `pause`, so the loop ends
(`pollLoop_ends`), and `pollWait` is its result.

`pollWait_edge` is the rule for a loop that finds its target, and `exists_first_read` says when a
poll with reads at most `jitter` apart first reads after a given time.
-/

namespace CLib

/-- How a loop that polls a signal ends. -/
inductive PollEnd
  | error
  | timeout
  | edge
deriving DecidableEq

/-- What a polling loop that starts at `start` sees: when it reads, what it reads (`none` for a read
that fails) and the clock after the read. -/
structure Polls (pause start : ℤ) where
  readAt : ℕ → ℤ
  value : ℕ → Option Bool
  clock : ℕ → ℤ
  first : start ≤ readAt 0
  read_le : ∀ i, readAt i ≤ clock i
  sleep : ∀ i, clock i + pause ≤ readAt (i + 1)

section Polls

variable {pause start : ℤ}

/-- The loop from its `i`-th read on, with the number of the last read. -/
def pollLoop (timeout : ℤ) (target : Bool) (p : Polls pause start) : ℕ → ℕ → Option (PollEnd × ℕ)
  | 0, _ => none
  | fuel + 1, i =>
    match p.value i with
    | none => some (.error, i)
    | some v =>
      if v = target then some (.edge, i)
      else if timeout < p.clock i - start then some (.timeout, i)
      else pollLoop timeout target p fuel (i + 1)

/-- The same polls, where reads fail unless `readable`. -/
def Polls.gated (readable : Bool) (p : Polls pause start) : Polls pause start :=
  { p with value := fun i => if readable then p.value i else none }

/-- The clock runs on by a pause for each read. -/
theorem Polls.le_clock (p : Polls pause start) (i : ℕ) : start + pause * i ≤ p.clock i := by
  induction i with
  | zero => simpa using p.first.trans (p.read_le 0)
  | succ i ih =>
    calc start + pause * (i + 1 : ℕ) = start + pause * i + pause := by
          push_cast
          ring
      _ ≤ p.clock i + pause := by omega
      _ ≤ p.readAt (i + 1) := p.sleep i
      _ ≤ p.clock (i + 1) := p.read_le (i + 1)

theorem Polls.start_le_readAt (p : Polls pause start) (h_pause : 0 ≤ pause) (i : ℕ) :
    start ≤ p.readAt i := by
  induction i with
  | zero => exact p.first
  | succ i ih =>
    have h_read := p.read_le i
    have h_sleep := p.sleep i
    omega

/-- **The loop ends** before its clock is past the timeout for the second time. -/
theorem pollLoop_ends {timeout : ℤ} {bound : ℕ} (h_bound : timeout < pause * bound) (target : Bool)
    (p : Polls pause start) (fuel i : ℕ) (h_fuel : bound < i + fuel) (h_i : i ≤ bound) :
    ∃ r, pollLoop timeout target p fuel i = some r ∧ r.2 ≤ bound := by
  induction fuel generalizing i with
  | zero => omega
  | succ fuel ih =>
    unfold pollLoop
    split
    · exact ⟨_, rfl, h_i⟩
    · split_ifs with h_target h_time
      · exact ⟨_, rfl, h_i⟩
      · exact ⟨_, rfl, h_i⟩
      · -- the read at `bound` would have been past the timeout
        have h_lt : i < bound := by
          refine lt_of_le_of_ne h_i ?_
          rintro rfl
          have h_clock := p.le_clock i
          omega
        exact ih (i + 1) (by omega) h_lt

/-- The result of the loop, and the number of its last read. -/
def pollWait (timeout : ℤ) (bound : ℕ) (target : Bool) (p : Polls pause start) : PollEnd × ℕ :=
  (pollLoop timeout target p (bound + 1) 0).getD (.timeout, bound)

/-- The bound on the reads does not cut the loop off. -/
theorem pollWait_eq {timeout : ℤ} {bound : ℕ} (h_bound : timeout < pause * bound) (target : Bool)
    (p : Polls pause start) :
    pollLoop timeout target p (bound + 1) 0 = some (pollWait timeout bound target p) ∧
      (pollWait timeout bound target p).2 ≤ bound := by
  obtain ⟨r, h_r, h_le⟩ :=
    pollLoop_ends h_bound target p (bound + 1) 0 (by omega) (Nat.zero_le _)
  unfold pollWait
  rw [h_r]
  exact ⟨rfl, h_le⟩

/-- **The loop finds its target** at the first read that has it, if no clock reading before is past
the timeout. -/
theorem pollLoop_edge {timeout : ℤ} {target : Bool} {p : Polls pause start} {k : ℕ}
    (h_k : p.value k = some target)
    (h_before : ∀ i < k, p.value i = some (!target) ∧ p.clock i - start ≤ timeout)
    (fuel i : ℕ) (h_i : i ≤ k) (h_fuel : k < i + fuel) :
    pollLoop timeout target p fuel i = some (.edge, k) := by
  induction fuel generalizing i with
  | zero => omega
  | succ fuel ih =>
    unfold pollLoop
    -- before the edge the loop goes on, and there it ends
    rcases Nat.lt_or_eq_of_le h_i with h_lt | rfl
    · obtain ⟨h_value, h_time⟩ := h_before i h_lt
      have h_ne : (!target) ≠ target := by cases target <;> simp
      rw [h_value]
      dsimp only
      rw [if_neg h_ne, if_neg (by omega)]
      exact ih (i + 1) h_lt (by omega)
    · rw [h_k]
      exact if_pos rfl

theorem pollWait_edge {timeout : ℤ} {bound : ℕ} (h_bound : timeout < pause * bound)
    {target : Bool} {p : Polls pause start} {k : ℕ} (h_k : p.value k = some target)
    (h_before : ∀ i < k, p.value i = some (!target) ∧ p.clock i - start ≤ timeout) :
    pollWait timeout bound target p = (.edge, k) := by
  -- the read before `k` was within the timeout
  have h_le : k ≤ bound := by
    by_contra h_gt
    have h_time := (h_before bound (by omega)).2
    have h_clock := p.le_clock bound
    omega
  unfold pollWait
  rw [pollLoop_edge h_k h_before (bound + 1) 0 (Nat.zero_le _) (by omega)]
  rfl

/-- **The first read after a time** comes at most `jitter` later, where reads are at most `jitter`
apart. -/
theorem Polls.exists_first_read (p : Polls pause start) (h_pause : 0 < pause) {jitter : ℤ}
    (h_first : p.readAt 0 ≤ start + jitter) (h_gap : ∀ i, p.readAt (i + 1) ≤ p.readAt i + jitter)
    {t : ℤ} (h_t : start ≤ t) :
    ∃ k, t ≤ p.readAt k ∧ p.readAt k ≤ t + jitter ∧ ∀ i < k, p.readAt i < t := by
  have h_exists : ∃ k, t ≤ p.readAt k := by
    -- every pause moves the clock, so the time comes
    refine ⟨(t - start).toNat + 1, ?_⟩
    have h_clock := p.le_clock (t - start).toNat
    have h_sleep := p.sleep (t - start).toNat
    have h_mul : t - start ≤ pause * ((t - start).toNat : ℤ) := by
      have h_nat : ((t - start).toNat : ℤ) = t - start := Int.toNat_of_nonneg (by omega)
      rw [h_nat]
      exact le_mul_of_one_le_left (by omega) h_pause
    omega
  refine ⟨Nat.find h_exists, Nat.find_spec h_exists, ?_, fun i h_i => ?_⟩
  · -- the read before it was early, and the next is at most one gap later
    cases h_k : Nat.find h_exists with
    | zero => omega
    | succ k =>
      have h_before : p.readAt k < t := by
        have h_min := Nat.find_min h_exists (m := k) (by omega)
        omega
      have h_next := h_gap k
      omega
  · have h_min := Nat.find_min h_exists h_i
    omega

end Polls

end CLib
