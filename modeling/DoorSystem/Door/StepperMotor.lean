import Mathlib.Data.Fin.VecNotation
import Mathlib.Data.List.Basic
import Mathlib.Tactic.NormNum
import Mathlib.Tactic.Push
import Mathlib.Tactic.SplitIfs

/-!
# The stepper motor

`StepperMotor.c`: the bolt is turned by a motor that only steps forward, and its position is counted
in half steps. A rotation writes the four coil pins for every step and gives up at the first write
that fails, wherever it stands by then.

`gpio k i` is the outcome of the write to pin `i` in the `k`-th step of a rotation.
`rotateLoop_spec` is the only place where the loop is unfolded: a rotation takes the steps before
its first failing write.
-/

namespace DoorSystem

namespace Door

abbrev STEPS_PER_REV : ℕ := 4096

/-- The values on the coil pins `IN1` to `IN4`. -/
abbrev Coils := Fin 4 → Bool

/-- `halfstep_sequence`. -/
def halfstepSequence : Fin 8 → Coils :=
  ![![true, false, false, false],
    ![true, true, false, false],
    ![false, true, false, false],
    ![false, true, true, false],
    ![false, false, true, false],
    ![false, false, true, true],
    ![false, false, false, true],
    ![true, false, false, true]]

/-- `zero_pattern`. -/
def zeroPattern : Coils := fun _ => false

theorem stepsPerRev_pos : 0 < STEPS_PER_REV := by decide

/-- The motor: `current_step_position` and what is on its pins. -/
structure StepperMotor where
  currentStepPosition : ℕ
  inRange : currentStepPosition < STEPS_PER_REV
  coils : Coils

/-- The outcomes of the pin writes of one rotation. -/
abbrev Gpio := ℕ → Fin 4 → Bool

/-- Writes to the pins `is`, up to the first one that fails. -/
def writePins (pattern : Coils) (ok : Fin 4 → Bool) : List (Fin 4) → Coils → Coils × Bool
  | [], coils => (coils, true)
  | i :: is, coils =>
    if ok i then writePins pattern ok is (Function.update coils i (pattern i)) else (coils, false)

/-- `set_motor_pins`. -/
def setMotorPins (pattern : Coils) (ok : Fin 4 → Bool) (coils : Coils) : Coils × Bool :=
  writePins pattern ok (List.finRange 4) coils

/-- `StepperMotor_Init` after its pins are exported: the position is 0 also when clearing the coils
fails. -/
def StepperMotor.init (ok : Fin 4 → Bool) (m : StepperMotor) : StepperMotor × Bool :=
  let (coils, ok) := setMotorPins zeroPattern ok m.coils
  ({ currentStepPosition := 0, inRange := stepsPerRev_pos, coils := coils }, ok)

/-- `StepperMotor_GetPosition`, in degrees. -/
def StepperMotor.getPosition (m : StepperMotor) : ℕ := m.currentStepPosition * 360 / STEPS_PER_REV

/-- The counter after one step. -/
def StepperMotor.advance (m : StepperMotor) (coils : Coils) : StepperMotor where
  currentStepPosition := (m.currentStepPosition + 1) % STEPS_PER_REV
  inRange := Nat.mod_lt _ stepsPerRev_pos
  coils := coils

/-- What a rotation leaves: the motor, the result, and the positions it stepped to. -/
structure Rotation where
  motor : StepperMotor
  ok : Bool
  steps : List ℕ

/-- The loop of `StepperMotor_Rotate` with `n` steps to go, in its `k`-th step. -/
def rotateLoop (gpio : Gpio) : ℕ → ℕ → StepperMotor → Rotation
  | 0, _, m => ⟨m, true, []⟩
  | n + 1, k, m =>
    let (coils, ok) := setMotorPins (halfstepSequence (Fin.ofNat 8 k)) (gpio k) m.coils
    if ok then
      let r := rotateLoop gpio n (k + 1) (m.advance coils)
      { r with steps := (m.advance coils).currentStepPosition :: r.steps }
    else ⟨{ m with coils := coils }, false, []⟩

/-- The pattern of the `k`-th step. -/
abbrev stepPattern (k : ℕ) : Coils := halfstepSequence (Fin.ofNat 8 k)

/-- `target_step_position`. -/
def targetStepPosition (targetDegrees : ℤ) : ℤ := (targetDegrees * STEPS_PER_REV + 180) / 360

/-- `steps_needed`: the way forward to the target. -/
def stepsNeeded (targetDegrees : ℤ) (m : StepperMotor) : ℕ :=
  ((targetStepPosition targetDegrees - m.currentStepPosition + STEPS_PER_REV)
    % STEPS_PER_REV).toNat

/-- `StepperMotor_Rotate`. -/
def StepperMotor.rotate (targetDegrees : ℤ) (gpio : Gpio) (m : StepperMotor) : Rotation :=
  if targetDegrees < 0 ∨ 360 < targetDegrees then ⟨m, false, []⟩
  else rotateLoop gpio (stepsNeeded targetDegrees m) 0 m

/-! ### What a rotation does -/

/-- All writes of the first `n` steps succeed. -/
def WritesOk (gpio : Gpio) (n : ℕ) : Prop := ∀ k < n, ∀ i, gpio k i = true

theorem writePins_ok (pattern : Coils) (ok : Fin 4 → Bool) (is : List (Fin 4)) (coils : Coils) :
    (writePins pattern ok is coils).2 = true ↔ ∀ i ∈ is, ok i = true := by
  induction is generalizing coils with
  | nil => simp [writePins]
  | cons i is ih =>
    unfold writePins
    -- the first write that fails ends the loop
    split_ifs with h_ok
    · rw [ih, List.forall_mem_cons]
      exact ⟨fun h => ⟨h_ok, h⟩, fun h => h.2⟩
    · rw [List.forall_mem_cons]
      exact ⟨fun h => absurd h (by simp), fun h => absurd h.1 h_ok⟩

theorem setMotorPins_ok (pattern : Coils) (ok : Fin 4 → Bool) (coils : Coils) :
    (setMotorPins pattern ok coils).2 = true ↔ ∀ i, ok i = true := by
  unfold setMotorPins
  rw [writePins_ok]
  exact ⟨fun h i => h i (List.mem_finRange i), fun h i _ => h i⟩

/-- **The rotation loop** takes `j` of its `n` steps: those before the first one with a failing
write, and all of them if there is none. -/
theorem rotateLoop_spec (gpio : Gpio) (n k : ℕ) (m : StepperMotor) :
    ∃ j ≤ n, (rotateLoop gpio n k m).motor.currentStepPosition
        = (m.currentStepPosition + j) % STEPS_PER_REV ∧
      (rotateLoop gpio n k m).steps
        = (List.range j).map (fun i => (m.currentStepPosition + 1 + i) % STEPS_PER_REV) ∧
      ((rotateLoop gpio n k m).ok = true ↔ j = n) ∧
      (∀ i < j, ∀ pin, gpio (k + i) pin = true) ∧
      (j < n → ∃ pin, gpio (k + j) pin = false) := by
  -- on the steps to go; the motor and the step number change with every step
  induction n generalizing k m with
  | zero =>
    exact ⟨0, le_rfl, (Nat.mod_eq_of_lt m.inRange).symm, rfl, by simp [rotateLoop], by simp,
      fun h => absurd h (by simp)⟩
  | succ n ih =>
    unfold rotateLoop
    dsimp only
    split_ifs with h_ok
    · -- the first step is taken, and the rest of the loop takes `j` more
      rw [setMotorPins_ok] at h_ok
      let coils := (setMotorPins (halfstepSequence (Fin.ofNat 8 k)) (gpio k) m.coils).1
      obtain ⟨j, h_j, h_pos, h_steps, h_done, h_good, h_bad⟩ := ih (k + 1) (m.advance coils)
      have h_adv : (m.advance coils).currentStepPosition
          = (m.currentStepPosition + 1) % STEPS_PER_REV := rfl
      have h_shift : ∀ i, k + 1 + i = k + (i + 1) := fun i => by omega
      refine ⟨j + 1, Nat.succ_le_succ h_j, ?_, ?_, ?_, ?_, ?_⟩
      · calc (rotateLoop gpio n (k + 1) (m.advance coils)).motor.currentStepPosition
            = ((m.currentStepPosition + 1) % STEPS_PER_REV + j) % STEPS_PER_REV := by
              rw [h_pos, h_adv]
          _ = (m.currentStepPosition + 1 + j) % STEPS_PER_REV := Nat.mod_add_mod _ _ _
          _ = (m.currentStepPosition + (j + 1)) % STEPS_PER_REV := by
              rw [Nat.add_assoc, Nat.add_comm 1 j]
      · rw [h_steps, List.range_succ_eq_map, List.map_cons, List.map_map, h_adv]
        refine congrArg₂ List.cons rfl (List.map_congr_left (fun i _ => ?_))
        show _ = (m.currentStepPosition + 1 + (i + 1)) % STEPS_PER_REV
        rw [Nat.add_assoc, Nat.mod_add_mod]
        congr 1
        omega
      · rw [h_done]
        omega
      · intro i h_i pin
        -- the step that was just taken, or one of the rest
        rcases i with _ | i
        · exact h_ok pin
        · rw [← h_shift]
          exact h_good i (Nat.lt_of_succ_lt_succ h_i) pin
      · intro h_lt
        rw [← h_shift]
        exact h_bad (Nat.lt_of_succ_lt_succ h_lt)
    · -- a write of the first step fails, and the loop gives up where it stands
      rw [setMotorPins_ok] at h_ok
      push Not at h_ok
      obtain ⟨pin, h_pin⟩ := h_ok
      exact ⟨0, Nat.zero_le _, (Nat.mod_eq_of_lt m.inRange).symm, rfl, by simp,
        fun i h_i => absurd h_i (by simp), fun _ => ⟨pin, Bool.eq_false_iff.mpr h_pin⟩⟩

/-- A rotation to an angle of the circle takes the steps before its first failing write. -/
theorem rotate_spec {t : ℤ} (h_t : 0 ≤ t ∧ t ≤ 360) (gpio : Gpio) (m : StepperMotor) :
    ∃ j ≤ stepsNeeded t m, (m.rotate t gpio).motor.currentStepPosition
        = (m.currentStepPosition + j) % STEPS_PER_REV ∧
      (m.rotate t gpio).steps
        = (List.range j).map (fun i => (m.currentStepPosition + 1 + i) % STEPS_PER_REV) ∧
      ((m.rotate t gpio).ok = true ↔ j = stepsNeeded t m) ∧
      (∀ i < j, ∀ pin, gpio i pin = true) ∧
      (j < stepsNeeded t m → ∃ pin, gpio j pin = false) := by
  unfold StepperMotor.rotate
  rw [if_neg (by omega)]
  have h_loop := rotateLoop_spec gpio (stepsNeeded t m) 0 m
  simp only [Nat.zero_add] at h_loop
  exact h_loop

/-- The number of steps that are taken is the number needed exactly when all writes succeed. -/
theorem eq_iff_writesOk {gpio : Gpio} {j n : ℕ} (h_j : j ≤ n)
    (h_good : ∀ i < j, ∀ pin, gpio i pin = true) (h_bad : j < n → ∃ pin, gpio j pin = false) :
    j = n ↔ WritesOk gpio n := by
  constructor
  · rintro rfl
    exact h_good
  · intro h_ok
    -- if a step is missing, one of its writes has failed
    by_contra h_ne
    have h_lt : j < n := lt_of_le_of_ne h_j h_ne
    obtain ⟨pin, h_pin⟩ := h_bad h_lt
    rw [h_ok j h_lt pin] at h_pin
    exact absurd h_pin (by simp)

/-! ### The two bolt positions -/

/-- The reading 180 covers twelve steps. -/
theorem getPosition_eq_locked (m : StepperMotor) :
    m.getPosition = 180 ↔ 2048 ≤ m.currentStepPosition ∧ m.currentStepPosition ≤ 2059 := by
  unfold StepperMotor.getPosition STEPS_PER_REV
  omega

/-- The reading 0 covers twelve steps. -/
theorem getPosition_eq_unlocked (m : StepperMotor) :
    m.getPosition = 0 ↔ m.currentStepPosition ≤ 11 := by
  unfold StepperMotor.getPosition STEPS_PER_REV
  omega

theorem stepsNeeded_locked (m : StepperMotor) :
    stepsNeeded 180 m = (6144 - m.currentStepPosition) % STEPS_PER_REV := by
  have h_range := m.inRange
  unfold stepsNeeded targetStepPosition
  unfold STEPS_PER_REV at *
  omega

theorem stepsNeeded_unlocked (m : StepperMotor) :
    stepsNeeded 0 m = (4096 - m.currentStepPosition) % STEPS_PER_REV := by
  have h_range := m.inRange
  unfold stepsNeeded targetStepPosition
  unfold STEPS_PER_REV at *
  omega

/-- A rotation whose writes succeed ends where it should. -/
theorem rotate_of_writesOk {t : ℤ} (h_t : 0 ≤ t ∧ t ≤ 360) {gpio : Gpio} {m : StepperMotor}
    (h_ok : WritesOk gpio (stepsNeeded t m)) :
    (m.rotate t gpio).motor.currentStepPosition
      = (m.currentStepPosition + stepsNeeded t m) % STEPS_PER_REV ∧
    (m.rotate t gpio).steps = (List.range (stepsNeeded t m)).map
      (fun i => (m.currentStepPosition + 1 + i) % STEPS_PER_REV) ∧
    (m.rotate t gpio).ok = true := by
  obtain ⟨j, h_j, h_pos, h_steps, h_done, h_good, h_bad⟩ := rotate_spec h_t gpio m
  obtain rfl := (eq_iff_writesOk h_j h_good h_bad).mpr h_ok
  exact ⟨h_pos, h_steps, h_done.mpr rfl⟩

/-- From a position that does not read 180, a rotation to 180 ends at 180 exactly when all its
writes succeed. -/
theorem rotate_locked_iff {m : StepperMotor} (h_m : m.getPosition ≠ 180) (gpio : Gpio) :
    (m.rotate 180 gpio).motor.getPosition = 180 ↔ WritesOk gpio (stepsNeeded 180 m) := by
  obtain ⟨j, h_j, h_pos, -, -, h_good, h_bad⟩ :=
    rotate_spec (t := 180) (by norm_num) gpio m
  have h_range := m.inRange
  -- short of the target, the `j` steps end below 2048, or have come round to it from above
  rw [← eq_iff_writesOk h_j h_good h_bad, getPosition_eq_locked, h_pos]
  rw [Ne, getPosition_eq_locked] at h_m
  rw [stepsNeeded_locked] at h_j ⊢
  unfold STEPS_PER_REV at *
  omega

/-- From a position that does not read 0, a rotation to 0 ends at 0 exactly when all its writes
succeed. -/
theorem rotate_unlocked_iff {m : StepperMotor} (h_m : m.getPosition ≠ 0) (gpio : Gpio) :
    (m.rotate 0 gpio).motor.getPosition = 0 ↔ WritesOk gpio (stepsNeeded 0 m) := by
  obtain ⟨j, h_j, h_pos, -, -, h_good, h_bad⟩ :=
    rotate_spec (t := 0) (by norm_num) gpio m
  have h_range := m.inRange
  rw [← eq_iff_writesOk h_j h_good h_bad, getPosition_eq_unlocked, h_pos]
  rw [Ne, getPosition_eq_unlocked] at h_m
  rw [stepsNeeded_unlocked] at h_j ⊢
  unfold STEPS_PER_REV at *
  omega

end Door

end DoorSystem
