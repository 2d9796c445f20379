import DoorSystem.Door.DoorMod
import DoorSystem.Lib.Run

/-!
# Who turns the bolt into the locked position

The motor only turns forward, and three operations start rotations. `step_locked_cases` follows
them: the step into position 2048 belongs to a `lockDoor` that has measured a closed door, to a
`doorMod_cleanup`, or to an `unlockDoor` that was called with the motor short of the locked position
while the last reported state was LOCKED. The last one skips the sensor on purpose, and on its way
round to 0 it passes the locked position (`not_lockedOnlyWhenClosed`).
-/

namespace DoorSystem

open CLib

namespace Door

/-- One call on a door module. -/
inductive DoorOp
  | lockDoor (door : DoorT) (env : CallEnv)
  | unlockDoor (door : DoorT) (env : CallEnv)
  | getDoorStatus (door : DoorT) (env : CallEnv)
  | cleanup (gpio : Gpio)
  | heartbeat (distance : Reading) (now : ℤ)

/-- A call: the state afterwards and its effects. -/
def execOp (s : DoorModule) : DoorOp → DoorModule × List DoorEffect
  | .lockDoor door env => ((lockDoor env door s).state, (lockDoor env door s).effects)
  | .unlockDoor door env => ((unlockDoor env door s).state, (unlockDoor env door s).effects)
  | .getDoorStatus door env =>
    ((getDoorStatus env door s).state, (getDoorStatus env door s).effects)
  | .cleanup gpio => doorModCleanup gpio s
  | .heartbeat distance now => heartbeatWorker distance now s

/-- The state after a call. -/
def stepOp (s : DoorModule) (op : DoorOp) : DoorModule := (execOp s op).1

/-- The step count of the locked position. -/
abbrev lockedStep : ℕ := 2048

/-- The call is a `lockDoor` that has measured a closed door. -/
def DoorOp.IsVerifiedLock (op : DoorOp) : Prop :=
  ∃ door env, op = .lockDoor door env ∧ MeasuredClosed env

/-- The call is an `unlockDoor` that trusts the last reported state, with the motor short of the
locked position. -/
def DoorOp.IsTrustingUnlock (op : DoorOp) (s : DoorModule) : Prop :=
  ∃ door env, op = .unlockDoor door env ∧ s.lastKnownDoor.state = .LOCKED ∧
    s.motor.getPosition ≠ 0 ∧ s.motor.currentStepPosition < lockedStep

/-- A rotation to 0 passes the locked position only from short of it. -/
theorem step_locked_of_rotate_unlocked {m : StepperMotor} {gpio : Gpio}
    (h : lockedStep ∈ (m.rotate 0 gpio).steps) : m.currentStepPosition < lockedStep := by
  obtain ⟨j, h_j, -, h_steps, -, -, -⟩ := rotate_spec (t := 0) (by norm_num) gpio m
  have h_range := m.inRange
  rw [h_steps, List.mem_map] at h
  obtain ⟨i, h_i, h_eq⟩ := h
  rw [List.mem_range] at h_i
  rw [stepsNeeded_unlocked] at h_j
  unfold STEPS_PER_REV lockedStep at *
  omega

theorem step_mem_rotateDoor {t : ℤ} {state : DoorState} {gpio : Gpio} {door : DoorT}
    {s : DoorModule} {p : ℕ} :
    .step p ∈ (rotateDoor t state gpio door s).effects ↔ p ∈ (s.motor.rotate t gpio).steps := by
  unfold rotateDoor
  simp

/-- **Step.** Every call that steps the motor into the locked position is a `lockDoor` at a closed
door, a `doorMod_cleanup`, or a trusting `unlockDoor`. -/
theorem step_locked_cases {s : DoorModule} {op : DoorOp}
    (h : .step lockedStep ∈ (execOp s op).2) :
    op.IsVerifiedLock ∨ op.IsTrustingUnlock s ∨ ∃ gpio, op = .cleanup gpio := by
  cases op with
  | lockDoor door env =>
    left
    change .step lockedStep ∈ (lockDoor env door s).effects at h
    unfold lockDoor at h
    rw [step_mem_reported] at h
    unfold lockDoorAct at h
    dsimp only at h
    split_ifs at h with h_pos h_open h_error
    · exact absurd h List.not_mem_nil
    · exact absurd h List.not_mem_nil
    · exact absurd h List.not_mem_nil
    · -- the only branch that rotates has passed both checks of the measurement
      exact ⟨door, env, rfl, h_error, not_le.mp h_open⟩
  | unlockDoor door env =>
    right; left
    change .step lockedStep ∈ (unlockDoor env door s).effects at h
    unfold unlockDoor at h
    rw [step_mem_reported] at h
    unfold unlockDoorAct at h
    dsimp only at h
    split_ifs at h with h_pos h_trust
    · exact absurd h List.not_mem_nil
    · have h_short := step_locked_of_rotate_unlocked (step_mem_rotateDoor.mp h)
      refine ⟨door, env, rfl, ?_, h_pos, h_short⟩
      -- a motor that reads 180 is not short of the locked position
      rcases (Bool.or_eq_true _ _).mp h_trust with h_last | h_locked
      · exact of_decide_eq_true h_last
      · have h_reads := (getPosition_eq_locked _).mp (of_decide_eq_true h_locked)
        exact absurd h_reads.1 (not_le.mpr h_short)
    all_goals exact absurd h List.not_mem_nil
  | getDoorStatus door env =>
    change .step lockedStep ∈ (getDoorStatus env door s).effects at h
    unfold getDoorStatus at h
    rw [step_mem_reported] at h
    unfold getDoorStatusAct at h
    dsimp only at h
    split_ifs at h <;> exact absurd h List.not_mem_nil
  | cleanup gpio => exact Or.inr (Or.inr ⟨gpio, rfl⟩)
  | heartbeat distance now =>
    -- the heartbeat thread only sends
    change .step lockedStep ∈ (updateFrom distance now s).2 at h
    unfold updateFrom at h
    simp at h

/-- Every step into the locked position during the calls `ops` is one that `allowed` accepts, for
the calls before, the state they lead to and the call that makes the step. -/
def LocksOnly (allowed : List DoorOp → DoorModule → DoorOp → Prop) (s : DoorModule)
    (ops : List DoorOp) : Prop :=
  ∀ pre op post, ops = pre ++ op :: post →
    .step lockedStep ∈ (execOp (run stepOp s pre) op).2 → allowed pre (run stepOp s pre) op

/-- The pin writes of a call. -/
def DoorOp.gpio : DoorOp → Gpio
  | .lockDoor _ env => env.gpio
  | .unlockDoor _ env => env.gpio
  | .getDoorStatus _ env => env.gpio
  | .cleanup gpio => gpio
  | .heartbeat _ _ => fun _ _ => true

/-- A pin write of the call fails. -/
def DoorOp.WriteFails (op : DoorOp) : Prop := ∃ k pin, op.gpio k pin = false

/-- The motor is at one of its two targets. -/
def AtRest (m : StepperMotor) : Prop :=
  m.currentStepPosition = 0 ∨ m.currentStepPosition = lockedStep

/-- A rotation to a target whose writes succeed brings the motor there. -/
theorem atRest_rotate {t : ℤ} (h_t : t = 0 ∨ t = 180) (m : StepperMotor) {gpio : Gpio}
    (h_ok : ∀ k pin, gpio k pin = true) : AtRest (m.rotate t gpio).motor := by
  have h_range := m.inRange
  have h_writes : WritesOk gpio (stepsNeeded t m) := fun k _ => h_ok k
  obtain ⟨h_pos, -, -⟩ := rotate_of_writesOk (by omega) h_writes
  unfold AtRest
  rw [h_pos]
  rcases h_t with rfl | rfl
  · left
    rw [stepsNeeded_unlocked]
    unfold STEPS_PER_REV at *
    omega
  · right
    rw [stepsNeeded_locked]
    unfold STEPS_PER_REV lockedStep at *
    omega

/-- A call whose writes succeed leaves the motor at rest. -/
theorem atRest_step {s : DoorModule} {op : DoorOp} (h_ok : ¬ op.WriteFails)
    (h_rest : AtRest s.motor) : AtRest (stepOp s op).motor := by
  unfold DoorOp.WriteFails at h_ok
  push Not at h_ok
  simp only [ne_eq, Bool.not_eq_false] at h_ok
  cases op with
  | lockDoor door env =>
    show AtRest (lockDoor env door s).state.motor
    unfold lockDoor
    rw [reported_motor]
    unfold lockDoorAct
    dsimp only
    split_ifs
    · -- already locked, open or blind: the motor is left alone
      exact h_rest
    · exact h_rest
    · exact h_rest
    · exact atRest_rotate (Or.inr rfl) s.motor h_ok
  | unlockDoor door env =>
    show AtRest (unlockDoor env door s).state.motor
    unfold unlockDoor
    rw [reported_motor]
    unfold unlockDoorAct
    dsimp only
    split_ifs
    · exact h_rest
    · -- the rotation to the unlocked position
      exact atRest_rotate (Or.inl rfl) s.motor h_ok
    all_goals exact h_rest
  | getDoorStatus door env =>
    show AtRest (getDoorStatus env door s).state.motor
    unfold getDoorStatus
    rw [reported_motor]
    unfold getDoorStatusAct
    dsimp only
    split_ifs <;> exact h_rest
  | cleanup gpio =>
    -- the cleanup turns to 180, from wherever it is not at 0
    show AtRest (doorModCleanup gpio s).1.motor
    unfold doorModCleanup
    dsimp only
    split_ifs
    · exact atRest_rotate (Or.inr rfl) s.motor h_ok
    · exact h_rest
  | heartbeat distance now => exact h_rest

/-- **Run.** From the initialised motor on, through any calls with any sensor readings and failing
writes, every step into the locked position outside `doorMod_cleanup` is made by a `lockDoor` that
has measured a closed door, or by an `unlockDoor` that trusts the last reported state LOCKED and
starts short of the locked position, where an earlier failing write has left the motor. -/
theorem locksOnly_verified_or_trusting (ok : Fin 4 → Bool) (m : StepperMotor) (udp : DoorUdp)
    (ops : List DoorOp) :
    LocksOnly (fun pre s op => (∃ gpio, op = .cleanup gpio) ∨ op.IsVerifiedLock ∨
        op.IsTrustingUnlock s ∧ ∃ op' ∈ pre, op'.WriteFails)
      (DoorModule.initial (m.init ok).1.coils udp) ops := by
  intro pre op post _ h_step
  rcases step_locked_cases h_step with h_lock | h_unlock | h_cleanup
  · exact Or.inr (Or.inl h_lock)
  · refine Or.inr (Or.inr ⟨h_unlock, ?_⟩)
    by_contra h_none
    have h_ok : ∀ op' ∈ pre, ¬ op'.WriteFails := fun op' h_op' h_fail => h_none ⟨op', h_op', h_fail⟩
    -- without a failing write the motor rests at 0 or at the locked position
    have h_rest : AtRest (run stepOp (DoorModule.initial (m.init ok).1.coils udp) pre).motor :=
      run_invariant_of_forall (C := fun op : DoorOp => ¬ op.WriteFails)
        (fun s : DoorModule => AtRest s.motor) (fun _ _ h_ok h_rest => atRest_step h_ok h_rest)
        (Or.inl rfl) h_ok
    obtain ⟨door, env, -, -, h_pos, h_short⟩ := h_unlock
    rw [Ne, getPosition_eq_unlocked] at h_pos
    rcases h_rest with h_zero | h_locked <;> omega
  · exact Or.inl h_cleanup

/-! ### A run that locks without a measurement -/

/-- All writes succeed. -/
def goodGpio : Gpio := fun _ _ => true

/-- The writes fail from the step `n` on. -/
def gpioUntil (n : ℕ) : Gpio := fun k _ => decide (k < n)

/-- A closed door. -/
def closedReading : Reading := ⟨5, Or.inr (by norm_num)⟩

/-- Readings of a closed door. -/
def closedEnv (gpio : Gpio) : CallEnv := ⟨[closedReading], closedReading, closedReading, gpio, 0⟩

/-- `lockDoor` for a caller whose last state was LOCKED fails after 100 steps; the `unlockDoor`
that follows turns the bolt through the locked position. -/
theorem not_lockedOnlyWhenClosed :
    ¬ LocksOnly (fun _ _ op => op.IsVerifiedLock)
      (DoorModule.initial zeroPattern DoorUdp.initial)
      [.lockDoor ⟨.LOCKED, 0⟩ (closedEnv (gpioUntil 100)),
        .unlockDoor ⟨.UNKNOWN, 0⟩ (closedEnv goodGpio)] := by
  intro h_only
  let s := stepOp (DoorModule.initial zeroPattern DoorUdp.initial)
    (.lockDoor ⟨.LOCKED, 0⟩ (closedEnv (gpioUntil 100)))
  have h_pos : s.motor.currentStepPosition = 100 := by decide +kernel
  have h_last : s.lastKnownDoor.state = .LOCKED := by decide +kernel
  -- from 100 on, the 1948th step of the way to 0 is the one into 2048
  have h_steps : lockedStep ∈ (s.motor.rotate 0 goodGpio).steps := by
    have h_ok : WritesOk goodGpio (stepsNeeded 0 s.motor) := fun _ _ _ => rfl
    obtain ⟨-, h_steps, -⟩ := rotate_of_writesOk (by norm_num) h_ok
    rw [h_steps, stepsNeeded_unlocked, h_pos]
    exact List.mem_map.mpr ⟨1947, List.mem_range.mpr (by norm_num), by norm_num⟩
  -- `unlockDoor` trusts the last state and rotates
  have h_act : unlockDoorAct (closedEnv goodGpio) ⟨.UNKNOWN, 0⟩ s
      = rotateDoor 0 .UNLOCKED goodGpio ⟨.UNKNOWN, 0⟩ s := by
    have h_away : s.motor.getPosition ≠ 0 := by
      rw [Ne, getPosition_eq_unlocked, h_pos]
      decide
    unfold unlockDoorAct
    rw [if_neg h_away]
    simp only [h_last, decide_true, Bool.true_or, if_true]
    rfl
  have h_mem : .step lockedStep
      ∈ (execOp s (.unlockDoor ⟨.UNKNOWN, 0⟩ (closedEnv goodGpio))).2 := by
    show .step lockedStep ∈ (unlockDoor (closedEnv goodGpio) ⟨.UNKNOWN, 0⟩ s).effects
    unfold unlockDoor
    rw [step_mem_reported, h_act, step_mem_rotateDoor]
    exact h_steps
  obtain ⟨door, env, h_eq, -⟩ := h_only [_] _ [] rfl h_mem
  exact absurd h_eq (by simp)

end Door

end DoorSystem
