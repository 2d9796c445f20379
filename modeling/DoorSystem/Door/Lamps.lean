import DoorSystem.Door.Agreement
import DoorSystem.Led.Queue

/-!
# What the lamps tell of the bolt

The operations of the door module end with a task for the LED worker: a success or a failure of
LOCK or UNLOCK, or a sensor error. The last of these tasks that speaks of the bolt is what a person
at the door goes by. It stays true through every run in which no `unlockDoor` takes the way that
neither checks the motor nor turns it (`lamps_true_iff`): `unlockDoor` shows a success there and
leaves the bolt half-way (`shamUnlock_shows`). Operations do not overlap here: one that arrives
while a call is under way does nothing.
-/

namespace DoorSystem

open CLib Led

namespace Door

/-! ### The tasks of an operation -/

/-- The LED tasks of a rotation. -/
def rotateLeds (targetDegrees : ℤ) (gpio : Gpio) (s : DoorModule) (success failure : LedCall) :
    List LedCall :=
  if (s.motor.rotate targetDegrees gpio).ok then [success] else [failure]

/-- The LED tasks of `lockDoor`. -/
def lockDoorLeds (env : CallEnv) (s : DoorModule) : List LedCall :=
  let dist := avgDistanceSample env.samples
  if s.motor.getPosition = 180 then []
  else if DOOR_CLOSED_THRESHOLD_CM ≤ dist then [.lockFailure]
  else if dist = -1 then [.statusDoorError]
  else rotateLeds 180 env.gpio s .lockSuccess .lockFailure

/-- The LED tasks of `unlockDoor`. -/
def unlockDoorLeds (env : CallEnv) (s : DoorModule) : List LedCall :=
  if s.motor.getPosition = 0 then []
  else
    let distance := env.distance
    let lastWasLocked : Bool := s.lastKnownDoor.state = .LOCKED
    if lastWasLocked || s.motor.getPosition = STEPPER_LOCKED_POSITION then
      rotateLeds STEPPER_UNLOCKED_POSITION env.gpio s .unlockSuccess .unlockFailure
    else if DOOR_CLOSED_THRESHOLD_CM ≤ distance.cm then [.unlockFailure]
    else if !lastWasLocked then [.unlockSuccess]
    else [.unlockFailure]

/-- The LED tasks of `get_door_status`. -/
def getDoorStatusLeds (env : CallEnv) (s : DoorModule) : List LedCall :=
  let distance := env.distance
  if s.motor.getPosition = STEPPER_LOCKED_POSITION then []
  else if distance.cm < DOOR_CLOSED_THRESHOLD_CM ∧ distance.cm ≠ -1 then []
  else if distance.cm = -1 then [.statusDoorError]
  else []

/-- The LED tasks of an operation. -/
def opLeds : OpKind → CallEnv → DoorModule → List LedCall
  | .lock => lockDoorLeds
  | .unlock => unlockDoorLeds
  | .status => getDoorStatusLeds

/-- The LED tasks of an event. -/
def evLeds (s : DoorRun) : DoorEv → List LedCall
  | .act kind _ env => if s.inCall = none then opLeds kind env s.module else []
  | .report _ _ | .heartbeat _ _ => []

/-! ### What they tell -/

/-- The task speaks of the bolt. -/
def TellsOfBolt : LedCall → Bool
  | .lockSuccess | .lockFailure | .unlockSuccess | .unlockFailure => true
  | _ => false

/-- What the task tells is true of a motor at `position`. -/
def LedTrue (position : ℕ) : LedCall → Prop
  | .lockSuccess => position = 180
  | .lockFailure => position ≠ 180
  | .unlockSuccess => position = 0
  | .unlockFailure => position ≠ 0
  | _ => True

/-- A door module and the last task that has spoken of its bolt. -/
structure Lamps where
  run : DoorRun
  last : Option LedCall

/-- One event. -/
def stepLamps (L : Lamps) (e : DoorEv) : Lamps where
  run := (execEv L.run e).1
  last := (((evLeds L.run e).filter TellsOfBolt).getLast?).or L.last

/-- The lamps tell the truth. -/
def LampsTrue (L : Lamps) : Prop := ∀ c ∈ L.last, LedTrue L.run.module.motor.getPosition c

/-- An `unlockDoor` that shows a success without a look at the motor: the bolt is neither locked nor
unlocked, it was not last seen locked, and the sensor does not show an open door. -/
def IsShamUnlock (s : DoorRun) : DoorEv → Prop
  | .act .unlock _ env => s.inCall = none ∧
    s.module.motor.getPosition ≠ 0 ∧ s.module.motor.getPosition ≠ 180 ∧
    s.module.lastKnownDoor.state ≠ .LOCKED ∧ env.distance.cm < DOOR_CLOSED_THRESHOLD_CM
  | _ => False

/-! ### One event -/

/-- An event without a task that speaks of the bolt, which leaves the motor alone. -/
theorem lampsTrue_quiet {L : Lamps} (h : LampsTrue L) {e : DoorEv}
    (h_motor : (execEv L.run e).1.module.motor = L.run.module.motor)
    (h_leds : (evLeds L.run e).filter TellsOfBolt = []) : LampsTrue (stepLamps L e) := by
  unfold LampsTrue stepLamps
  dsimp only
  rw [h_motor, h_leds]
  exact h

/-- An event with one task that speaks of the bolt. -/
theorem lampsTrue_tells {L : Lamps} {e : DoorEv} {c : LedCall} (h_leds : evLeds L.run e = [c])
    (h_tells : TellsOfBolt c = true) :
    LampsTrue (stepLamps L e) ↔ LedTrue (execEv L.run e).1.module.motor.getPosition c := by
  unfold LampsTrue stepLamps
  dsimp only
  rw [h_leds, List.filter_cons_of_pos h_tells]
  simp

/-- A rotation tells whether the motor has got there. -/
theorem rotateLeds_true {t : ℤ} (h_t : 0 ≤ t ∧ t ≤ 360) {gpio : Gpio} {s : DoorModule}
    {success failure : LedCall} {there : Prop}
    (h_there : there ↔ WritesOk gpio (stepsNeeded t s.motor)) :
    (rotateLeds t gpio s success failure = [success] ∧ there) ∨
      (rotateLeds t gpio s success failure = [failure] ∧ ¬ there) := by
  unfold rotateLeds
  by_cases h_ok : (s.motor.rotate t gpio).ok = true
  · rw [if_pos h_ok, h_there]
    exact Or.inl ⟨rfl, (rotate_ok_iff h_t gpio s.motor).mp h_ok⟩
  · rw [if_neg h_ok, h_there]
    exact Or.inr ⟨rfl, fun h => h_ok ((rotate_ok_iff h_t gpio s.motor).mpr h)⟩

/-- **A call of `lockDoor`** leaves the lamps true. -/
theorem lampsTrue_lock {L : Lamps} (h : LampsTrue L) (h_call : L.run.inCall = none) (door : DoorT)
    (env : CallEnv) : LampsTrue (stepLamps L (.act .lock door env)) := by
  have h_exec : (execEv L.run (.act .lock door env)).1.module
      = (lockDoorAct env door L.run.module).state := by
    unfold execEv
    rw [h_call]
    rfl
  have h_leds : evLeds L.run (.act .lock door env) = lockDoorLeds env L.run.module :=
    if_pos h_call
  unfold lockDoorAct at h_exec
  unfold lockDoorLeds at h_leds
  dsimp only at h_exec h_leds
  by_cases h_at : L.run.module.motor.getPosition = 180
  · -- locked already: nothing is shown
    rw [if_pos h_at] at h_exec h_leds
    refine lampsTrue_quiet h (by rw [h_exec]) (by rw [h_leds]; rfl)
  rw [if_neg h_at] at h_exec h_leds
  by_cases h_open : DOOR_CLOSED_THRESHOLD_CM ≤ avgDistanceSample env.samples
  · -- the failure is shown with the bolt where it was, not locked
    rw [if_pos h_open] at h_exec h_leds
    rw [lampsTrue_tells h_leds rfl, h_exec]
    exact h_at
  rw [if_neg h_open] at h_exec h_leds
  by_cases h_error : avgDistanceSample env.samples = -1
  · -- the sensor error says nothing of the bolt
    rw [if_pos h_error] at h_exec h_leds
    refine lampsTrue_quiet h (by rw [h_exec]) (by rw [h_leds]; rfl)
  rw [if_neg h_error] at h_exec h_leds
  -- the motor turns, and the task is that of the rotation
  rcases rotateLeds_true (by norm_num) (rotate_locked_iff h_at env.gpio) with
    ⟨h_eq, h_there⟩ | ⟨h_eq, h_there⟩
  · rw [lampsTrue_tells (h_leds.trans h_eq) rfl, h_exec]
    exact h_there
  · rw [lampsTrue_tells (h_leds.trans h_eq) rfl, h_exec]
    exact h_there

/-- A call of `unlockDoor` shows the tasks of the branch it takes. -/
theorem evLeds_unlock {s : DoorRun} (h_call : s.inCall = none) (door : DoorT) (env : CallEnv) :
    evLeds s (.act .unlock door env) = unlockDoorLeds env s.module :=
  if_pos h_call

/-- A call of `unlockDoor` leaves the module as `unlockDoor` does. -/
theorem execEv_unlock {s : DoorRun} (h_call : s.inCall = none) (door : DoorT) (env : CallEnv) :
    (execEv s (.act .unlock door env)).1.module = (unlockDoorAct env door s.module).state := by
  unfold execEv
  rw [h_call]
  rfl

/-- **A sham**: a success is shown, and the bolt stays where it was. -/
theorem shamUnlock_shows {s : DoorRun} {e : DoorEv} (h_sham : IsShamUnlock s e) :
    evLeds s e = [.unlockSuccess] ∧ (execEv s e).1.module.motor = s.module.motor := by
  match e, h_sham with
  | .act .unlock door env, ⟨h_call, h_unlocked, h_locked, h_last, h_closed⟩ =>
    have h_turn : ¬ (decide (s.module.lastKnownDoor.state = .LOCKED) ||
        decide (s.module.motor.getPosition = STEPPER_LOCKED_POSITION)) = true := by
      simpa using And.intro h_last h_locked
    have h_open : ¬ DOOR_CLOSED_THRESHOLD_CM ≤ env.distance.cm := not_le.mpr h_closed
    have h_not : (!decide (s.module.lastKnownDoor.state = .LOCKED)) = true := by
      simpa using h_last
    rw [evLeds_unlock h_call, execEv_unlock h_call]
    unfold unlockDoorLeds unlockDoorAct
    dsimp only
    -- neither at rest nor to be turned, and the sensor shows no open door
    rw [if_neg h_unlocked, if_neg h_turn, if_neg h_open, if_pos h_not, if_neg h_unlocked,
      if_neg h_turn, if_neg h_open, if_pos h_not]
    exact ⟨rfl, rfl⟩

/-- **A call of `unlockDoor`** leaves the lamps true, unless it is a sham. -/
theorem lampsTrue_unlock {L : Lamps} (h : LampsTrue L) (h_call : L.run.inCall = none)
    (door : DoorT) (env : CallEnv) :
    LampsTrue (stepLamps L (.act .unlock door env))
      ↔ ¬ IsShamUnlock L.run (.act .unlock door env) := by
  by_cases h_sham : IsShamUnlock L.run (.act .unlock door env)
  · -- the success is shown with the bolt where it was
    obtain ⟨h_leds, h_motor⟩ := shamUnlock_shows h_sham
    rw [lampsTrue_tells h_leds rfl, h_motor]
    exact iff_of_false h_sham.2.1 (not_not.mpr h_sham)
  refine iff_of_true ?_ h_sham
  have h_exec := execEv_unlock h_call door env
  have h_leds := evLeds_unlock h_call door env
  unfold unlockDoorAct at h_exec
  unfold unlockDoorLeds at h_leds
  dsimp only at h_exec h_leds
  by_cases h_at : L.run.module.motor.getPosition = 0
  · -- unlocked already: nothing is shown
    rw [if_pos h_at] at h_exec h_leds
    exact lampsTrue_quiet h (by rw [h_exec]) (by rw [h_leds]; rfl)
  rw [if_neg h_at] at h_exec h_leds
  by_cases h_turn : (decide (L.run.module.lastKnownDoor.state = .LOCKED) ||
      decide (L.run.module.motor.getPosition = STEPPER_LOCKED_POSITION)) = true
  · -- the motor turns, and the task is that of the rotation
    rw [if_pos h_turn] at h_exec h_leds
    rcases rotateLeds_true (by norm_num) (rotate_unlocked_iff h_at env.gpio) with
      ⟨h_eq, h_there⟩ | ⟨h_eq, h_there⟩
    · rw [lampsTrue_tells (h_leds.trans h_eq) rfl, h_exec]
      exact h_there
    · rw [lampsTrue_tells (h_leds.trans h_eq) rfl, h_exec]
      exact h_there
  rw [if_neg h_turn] at h_exec h_leds
  have h_unknown : L.run.module.lastKnownDoor.state ≠ .LOCKED ∧
      L.run.module.motor.getPosition ≠ 180 := by
    simpa using h_turn
  by_cases h_open : DOOR_CLOSED_THRESHOLD_CM ≤ env.distance.cm
  · -- refused, with the bolt not unlocked
    rw [if_pos h_open] at h_exec h_leds
    rw [lampsTrue_tells h_leds rfl, h_exec]
    exact h_at
  -- what is left is the sham
  exact absurd ⟨h_call, h_at, h_unknown.2, h_unknown.1, not_le.mp h_open⟩ h_sham

/-- **Step.** -/
theorem lampsTrue_step {L : Lamps} (h : LampsTrue L) (e : DoorEv) :
    LampsTrue (stepLamps L e) ↔ ¬ IsShamUnlock L.run e := by
  cases e with
  | act kind door env =>
    cases h_call : L.run.inCall with
    | some door' =>
      -- a call is under way
      have h_motor : (execEv L.run (.act kind door env)).1.module.motor = L.run.module.motor := by
        unfold execEv
        rw [h_call]
      have h_leds : evLeds L.run (.act kind door env) = [] := if_neg (by simp [h_call])
      refine iff_of_true (lampsTrue_quiet h h_motor (by rw [h_leds]; rfl)) ?_
      cases kind with
      | unlock => exact fun h_sham => absurd (h_call.symm.trans h_sham.1) (by simp)
      | lock => exact id
      | status => exact id
    | none =>
      cases kind with
      | lock => exact iff_of_true (lampsTrue_lock h h_call door env) id
      | unlock => exact lampsTrue_unlock h h_call door env
      | status =>
        have h_motor : (execEv L.run (.act .status door env)).1.module.motor
            = L.run.module.motor := by
          unfold execEv
          rw [h_call]
          show (getDoorStatusAct env door L.run.module).state.motor = _
          unfold getDoorStatusAct
          dsimp only
          split_ifs <;> rfl
        have h_leds : evLeds L.run (.act .status door env)
            = getDoorStatusLeds env L.run.module := if_pos h_call
        refine iff_of_true (lampsTrue_quiet h h_motor ?_) id
        rw [h_leds]
        unfold getDoorStatusLeds
        dsimp only
        split_ifs <;> rfl
  | report distance now =>
    refine iff_of_true (lampsTrue_quiet h ?_ rfl) id
    unfold execEv reportDoorStateUdp
    dsimp only
    split
    · split_ifs <;> rfl
    · rfl
  | heartbeat distance now => exact iff_of_true (lampsTrue_quiet h rfl rfl) id

/-! ### Runs -/

/-- **The lamps in a run**, from a module of which they have told nothing yet. -/
theorem lamps_true_iff (s : DoorRun) (es : List DoorEv) :
    AlwaysAlong stepLamps LampsTrue ⟨s, none⟩ es ↔
      ∀ pre e post, es = pre ++ e :: post →
        ¬ IsShamUnlock (run stepLamps ⟨s, none⟩ pre).run e := by
  have h_start : LampsTrue ⟨s, none⟩ := fun c h_c => absurd h_c (by simp)
  have h_block : ∀ L e, LampsTrue L →
      (AlwaysAlong stepLamps LampsTrue L [e] ↔ ¬ IsShamUnlock L.run e) := by
    intro L e h
    rw [alwaysAlong_cons, alwaysAlong_nil, lampsTrue_step h e]
    exact and_iff_right h
  have h_rule := alwaysAlong_flatMap_iff h_block h_start es
  simpa only [List.flatMap_singleton'] using h_rule

end Door

end DoorSystem
