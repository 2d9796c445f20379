import DoorSystem.Door.Bolt
import DoorSystem.Door.Handler
import DoorSystem.Door.Reporting

/-!
# What an operation returns and where the motor is

Each of the three operations changes a door object of its caller, and some branches return without
touching it: `lockDoor` and `unlockDoor` when the motor is already there or a rotation fails, and
`get_door_status` after a failed measurement. `unlockDoor` also calls a closed door unlocked without
a look at the motor.

`opAgrees_iff` says for each operation, each door object and each position of the motor when the
state that is returned agrees with the motor.
-/

namespace DoorSystem

open CLib

namespace Door

/-! ### The property and its condition -/

/-- The state that a call returns agrees with the position it leaves. -/
def OpAgrees (kind : OpKind) (env : CallEnv) (r : OpResult) : Prop :=
  match kind with
  | .lock => r.door.state = .LOCKED ↔ r.state.motor.getPosition = STEPPER_LOCKED_POSITION
  | .unlock => r.door.state = .UNLOCKED ↔ r.state.motor.getPosition = 0
  | .status =>
    (r.door.state = .LOCKED ↔ r.state.motor.getPosition = STEPPER_LOCKED_POSITION) ∧
      (r.state.motor.getPosition ≠ STEPPER_LOCKED_POSITION → env.distance.cm = -1 →
        r.door.state = .UNKNOWN)

/-- `unlockDoor` turns the motor without asking the sensor. -/
def Trusting (s : DoorModule) : Prop :=
  s.lastKnownDoor.state = .LOCKED ∨ s.motor.getPosition = STEPPER_LOCKED_POSITION

/-- The condition on `lockDoor`: the branches that leave the door object alone find it right. -/
structure LockAgrees (env : CallEnv) (door : DoorT) (s : DoorModule) : Prop where
  /-- The motor is already at 180. -/
  there : s.motor.getPosition = STEPPER_LOCKED_POSITION → door.state = .LOCKED
  /-- The rotation fails. -/
  failed : s.motor.getPosition ≠ STEPPER_LOCKED_POSITION → MeasuredClosed env →
    ¬ WritesOk env.gpio (stepsNeeded 180 s.motor) → door.state ≠ .LOCKED

/-- The condition on `unlockDoor`. -/
structure UnlockAgrees (env : CallEnv) (door : DoorT) (s : DoorModule) : Prop where
  /-- The motor is already at 0. -/
  there : s.motor.getPosition = 0 → door.state = .UNLOCKED
  /-- The rotation fails. -/
  failed : s.motor.getPosition ≠ 0 → Trusting s →
    ¬ WritesOk env.gpio (stepsNeeded 0 s.motor) → door.state ≠ .UNLOCKED
  /-- Away from 0, a bolt that is not taken for locked is met at an open door only. -/
  away : s.motor.getPosition ≠ 0 → ¬ Trusting s → DOOR_CLOSED_THRESHOLD_CM ≤ env.distance.cm

/-- The condition on `get_door_status`. -/
def StatusAgrees (env : CallEnv) (door : DoorT) (s : DoorModule) : Prop :=
  s.motor.getPosition ≠ STEPPER_LOCKED_POSITION → env.distance.cm = -1 → door.state = .UNKNOWN

/-- The condition on a call. -/
def AgreesWhen (kind : OpKind) (env : CallEnv) (door : DoorT) (s : DoorModule) : Prop :=
  match kind with
  | .lock => LockAgrees env door s
  | .unlock => UnlockAgrees env door s
  | .status => StatusAgrees env door s

/-! ### Rotations -/

@[simp] theorem reported_door (env : CallEnv) (r : OpResult) : (r.reported env).door = r.door := rfl

/-- A rotation reports success exactly when all its writes succeed. -/
theorem rotate_ok_iff {t : ℤ} (h_t : 0 ≤ t ∧ t ≤ 360) (gpio : Gpio) (m : StepperMotor) :
    (m.rotate t gpio).ok = true ↔ WritesOk gpio (stepsNeeded t m) := by
  obtain ⟨j, h_j, -, -, h_done, h_good, h_bad⟩ := rotate_spec h_t gpio m
  rw [h_done]
  exact eq_iff_writesOk h_j h_good h_bad

/-- The state of a door object after a rotation, when it succeeds in the operation's own word
`state` exactly if the motor gets there. -/
theorem rotateDoor_agrees_iff {t : ℤ} (h_t : 0 ≤ t ∧ t ≤ 360) (state : DoorState) (gpio : Gpio)
    (door : DoorT) {s : DoorModule} {P : Prop}
    (h_there : P ↔ WritesOk gpio (stepsNeeded t s.motor)) :
    ((rotateDoor t state gpio door s).door.state = state ↔ P) ↔
      (¬ WritesOk gpio (stepsNeeded t s.motor) → door.state ≠ state) := by
  unfold rotateDoor
  dsimp only
  split_ifs with h_ok
  · -- the rotation has set the state
    rw [rotate_ok_iff h_t] at h_ok
    refine iff_of_true (iff_of_true rfl (h_there.mpr h_ok)) ?_
    intro h_bad
    exact absurd h_ok h_bad
  · -- the caller's own state is returned, and the motor is elsewhere
    rw [rotate_ok_iff h_t] at h_ok
    have h_away : ¬ P := fun h => h_ok (h_there.mp h)
    constructor
    · intro h_agrees _ h_state
      exact h_away (h_agrees.mp h_state)
    · intro h_ne
      exact iff_of_false (h_ne h_ok) h_away

/-! ### The three operations -/

/-- **Lock.** -/
theorem lockDoor_agrees_iff (env : CallEnv) (door : DoorT) (s : DoorModule) :
    OpAgrees .lock env (lockDoor env door s) ↔ LockAgrees env door s := by
  unfold lockDoor
  show (((lockDoorAct env door s).reported env).door.state = .LOCKED ↔ _) ↔ _
  rw [reported_door, reported_motor]
  unfold lockDoorAct
  dsimp only
  split_ifs with h_there h_open h_error
  · -- already at 180: nothing is written
    constructor
    · intro h_agrees
      exact ⟨fun _ => h_agrees.mpr h_there, fun h_away => absurd h_there h_away⟩
    · intro h_when
      exact iff_of_true (h_when.there h_there) h_there
  · -- open: the state says so
    refine iff_of_true (iff_of_false (by simp) h_there) ⟨fun h => absurd h h_there, ?_⟩
    intro _ h_closed
    exact absurd h_open (not_le.mpr h_closed.2)
  · -- a failed measurement
    refine iff_of_true (iff_of_false (by simp) h_there) ⟨fun h => absurd h h_there, ?_⟩
    intro _ h_closed
    exact absurd h_error h_closed.1
  · -- closed: the rotation decides
    have h_rotate := rotateDoor_agrees_iff (t := 180) (by norm_num) .LOCKED env.gpio door
      (rotate_locked_iff h_there env.gpio)
    refine h_rotate.trans ⟨?_, ?_⟩
    · intro h_failed
      exact ⟨fun h => absurd h h_there, fun _ _ => h_failed⟩
    · intro h_when
      exact h_when.failed h_there ⟨h_error, not_le.mp h_open⟩

/-- **Unlock.** -/
theorem unlockDoor_agrees_iff (env : CallEnv) (door : DoorT) (s : DoorModule) :
    OpAgrees .unlock env (unlockDoor env door s) ↔ UnlockAgrees env door s := by
  unfold unlockDoor
  show (((unlockDoorAct env door s).reported env).door.state = .UNLOCKED ↔ _) ↔ _
  rw [reported_door, reported_motor]
  unfold unlockDoorAct
  dsimp only
  split_ifs with h_there h_trust h_open h_last
  · -- already at 0: nothing is written
    constructor
    · intro h_agrees
      exact ⟨fun _ => h_agrees.mpr h_there, fun h_away => absurd h_there h_away,
        fun h_away => absurd h_there h_away⟩
    · intro h_when
      exact iff_of_true (h_when.there h_there) h_there
  · -- taken for locked: the rotation decides
    rw [Bool.or_eq_true, decide_eq_true_eq, decide_eq_true_eq] at h_trust
    have h_rotate := rotateDoor_agrees_iff (t := 0) (by norm_num) .UNLOCKED env.gpio door
      (rotate_unlocked_iff h_there env.gpio)
    refine h_rotate.trans ⟨?_, ?_⟩
    · intro h_failed
      exact ⟨fun h => absurd h h_there, fun _ _ => h_failed, fun _ h => absurd h_trust h⟩
    · intro h_when
      exact h_when.failed h_there h_trust
  · -- open: the state says so
    rw [Bool.or_eq_true, decide_eq_true_eq, decide_eq_true_eq] at h_trust
    refine iff_of_true (iff_of_false (by simp) h_there) ?_
    exact ⟨fun h => absurd h h_there, fun _ h => absurd h h_trust, fun _ _ => h_open⟩
  · -- neither locked nor open: the state becomes UNLOCKED wherever the motor stands
    rw [Bool.or_eq_true, decide_eq_true_eq, decide_eq_true_eq] at h_trust
    refine iff_of_false ?_ ?_
    · intro h_agrees
      exact h_there (h_agrees.mp rfl)
    · intro h_when
      exact h_open (h_when.away h_there h_trust)
  · -- a last state LOCKED has been trusted
    rw [Bool.or_eq_true, decide_eq_true_eq, decide_eq_true_eq] at h_trust
    exact absurd (Or.inl (by simpa using h_last)) h_trust

/-- **Status.** -/
theorem getDoorStatus_agrees_iff (env : CallEnv) (door : DoorT) (s : DoorModule) :
    OpAgrees .status env (getDoorStatus env door s) ↔ StatusAgrees env door s := by
  unfold getDoorStatus
  show (((getDoorStatusAct env door s).reported env).door.state = .LOCKED ↔ _) ∧ _ ↔ _
  rw [reported_door, reported_motor]
  unfold getDoorStatusAct StatusAgrees
  dsimp only
  split_ifs with h_there h_closed h_error h_open
  · -- at 180: the state becomes LOCKED
    refine iff_of_true ⟨iff_of_true rfl h_there, ?_⟩ ?_
    · exact fun h_away => absurd h_there h_away
    · exact fun h_away => absurd h_there h_away
  · -- away from 180 and closed: the state becomes UNLOCKED
    refine iff_of_true ⟨iff_of_false (by simp) h_there, ?_⟩ ?_
    · exact fun _ h_error => absurd h_error h_closed.2
    · exact fun _ h_error => absurd h_error h_closed.2
  · -- a failed measurement: nothing is written
    constructor
    · intro h_agrees
      exact h_agrees.2
    · intro h_when
      have h_unknown := h_when h_there h_error
      exact ⟨iff_of_false (by simp [h_unknown]) h_there, fun _ _ => h_unknown⟩
  · refine iff_of_true ⟨iff_of_false (by simp) h_there, ?_⟩ ?_
    · exact fun _ h => absurd h h_error
    · exact fun _ h => absurd h h_error
  · refine iff_of_true ⟨iff_of_false (by simp) h_there, ?_⟩ ?_
    · exact fun _ _ => rfl
    · exact fun _ h => absurd h h_error

/-- **When an operation returns the truth.** For every operation, door object, position of the
motor and answer of the hardware, the state that is returned agrees with the motor if and only if
each branch that leaves the object alone gets an object that is right, and no `unlockDoor` meets a
bolt away from 0 that is not taken for locked, except at an open door. -/
theorem opAgrees_iff (kind : OpKind) (env : CallEnv) (door : DoorT) (s : DoorModule) :
    OpAgrees kind env (opCall kind env door s) ↔ AgreesWhen kind env door s := by
  cases kind with
  | lock => exact lockDoor_agrees_iff env door s
  | unlock => exact unlockDoor_agrees_iff env door s
  | status => exact getDoorStatus_agrees_iff env door s

/-- A second `lockDoor` with the object that `app_command_handler` passes; an `unlockDoor` after a
rotation that failed; and a `get_door_status` whose measurement fails, on an object that says
LOCKED. -/
theorem not_opAgrees :
    ¬ OpAgrees .lock (closedEnv goodGpio) (opCall .lock (closedEnv goodGpio) ⟨.UNKNOWN, 0⟩
        (run stepOp (DoorModule.initial zeroPattern DoorUdp.initial)
          [.lockDoor ⟨.UNKNOWN, 0⟩ (closedEnv goodGpio)])) ∧
      ¬ OpAgrees .unlock (closedEnv goodGpio) (opCall .unlock (closedEnv goodGpio) ⟨.UNKNOWN, 0⟩
        (run stepOp (DoorModule.initial zeroPattern DoorUdp.initial)
          [.lockDoor ⟨.UNKNOWN, 0⟩ (closedEnv (gpioUntil 100))])) ∧
      ¬ OpAgrees .status deadEnv (opCall .status deadEnv ⟨.LOCKED, 0⟩
        (DoorModule.initial zeroPattern DoorUdp.initial)) := by
  refine ⟨?_, ?_, ?_⟩
  · intro h_agrees
    -- the first call has brought the motor to 180
    have h_completes : LockCompletes (closedEnv goodGpio)
        (DoorModule.initial zeroPattern DoorUdp.initial) :=
      Or.inr ⟨⟨by decide, by decide⟩, fun _ _ _ => rfl⟩
    have h_there := (lockDoor_reaches_iff _ ⟨.UNKNOWN, 0⟩ _).mpr h_completes
    have h_when := (lockDoor_agrees_iff _ _ _).mp h_agrees
    exact absurd (h_when.there h_there) (by simp)
  · intro h_agrees
    have h_when := (unlockDoor_agrees_iff _ _ _).mp h_agrees
    -- the motor has stopped on its way, with the door closed
    have h_open := h_when.away (by decide +kernel) (by unfold Trusting; decide +kernel)
    exact absurd h_open (by decide)
  · intro h_agrees
    have h_when := (getDoorStatus_agrees_iff _ _ _).mp h_agrees
    -- the measurement fails at the position 0
    exact absurd (h_when (by decide) rfl) (by simp)

end Door

end DoorSystem
