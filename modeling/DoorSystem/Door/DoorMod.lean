import DoorSystem.Door.StepperMotor
import DoorSystem.Door.Transport

/-!
# The door module

`doorMod.c` over the distance sensor, the motor and the UDP transport: `lockDoor`, `unlockDoor`,
`get_door_status`, the two paths that report to the hub, and `doorMod_cleanup`. What the hardware
and the clock answer is an input (`CallEnv`); what an operation does to the outside is its list of
effects, in order.

Each operation acts first and reports at its end, so it is the composition of an acting part and
`reportDoorStateUdp`; a heartbeat of the other thread may come in between (`DoorEv`).
-/

namespace DoorSystem

open CLib

namespace Door

abbrev DOOR_CLOSED_THRESHOLD_CM : ℤ := 10
abbrev STEPPER_LOCKED_POSITION : ℕ := 180
abbrev STEPPER_UNLOCKED_POSITION : ℤ := 0

/-! ### The distance sensor -/

/-- A result of `get_distance`: a distance in centimetres or -1. -/
structure Reading where
  cm : ℤ
  range : cm = -1 ∨ 1 ≤ cm ∧ cm ≤ 1029
deriving DecidableEq

/-- The reading of a failed measurement. -/
def Reading.error : Reading := ⟨-1, Or.inl rfl⟩

/-- How a loop that polls the echo pin ends. -/
inductive EdgeWait
  | error
  | timeout
  | edge
deriving DecidableEq

/-- One measurement: the writes of the trigger pulse, the two waits and the length of the echo. -/
structure Echo where
  trigger : Fin 3 → Bool
  rising : EdgeWait
  falling : EdgeWait
  pulseUs : ℤ

/-- `get_distance`. On the accepted lengths, the product with 0.01716 in double precision has the
integer part computed here. -/
def getDistance (e : Echo) : Reading :=
  if h : (∀ i, e.trigger i = true) ∧ e.rising = .edge ∧ e.falling = .edge ∧
      100 ≤ e.pulseUs ∧ e.pulseUs ≤ 60000 then
    ⟨e.pulseUs * 1716 / 100000, Or.inr (by omega)⟩
  else Reading.error

/-- The loop of `avgDistanceSample`, with `totalDistance` and `sample_count`. -/
def sampleLoop : List Reading → ℤ → ℕ → ℤ × ℕ
  | [], totalDistance, sampleCount => (totalDistance, sampleCount)
  | d :: ds, totalDistance, sampleCount =>
    if d.cm ≠ -1 then sampleLoop ds (totalDistance + d.cm) (sampleCount + 1)
    else sampleLoop ds totalDistance sampleCount

/-- `avgDistanceSample`, over the readings it takes within its 100 ms. -/
def avgDistanceSample (samples : List Reading) : ℤ :=
  let (totalDistance, sampleCount) := sampleLoop samples 0 0
  if sampleCount = 0 then -1 else totalDistance.tdiv sampleCount

/-! ### State and effects -/

/-- `DoorState_t`. -/
inductive DoorState
  | LOCKED
  | UNLOCKED
  | OPEN
  | UNKNOWN
deriving DecidableEq

/-- `Door_t`. -/
structure DoorT where
  state : DoorState
  id : ℤ
deriving DecidableEq

/-- The state of a door module: the motor, `__last_known_door` and the transport. -/
structure DoorModule where
  motor : StepperMotor
  lastKnownDoor : DoorT
  udp : DoorUdp

/-- What a door module does. -/
inductive DoorEffect
  /-- The motor steps to a position. -/
  | step (position : ℕ)
  /-- `door_udp_update` is called, with a report made from a reading. -/
  | update (reading : Reading) (report : Report)
  /-- A datagram is sent. -/
  | send (out : DoorOut)
deriving DecidableEq

/-- The answers an operation gets: the readings of `avgDistanceSample`, the one of its own
`get_distance` and the one of its report, the pin writes of its rotation and the time of its
report. -/
structure CallEnv where
  samples : List Reading
  distance : Reading
  report : Reading
  gpio : Gpio
  now : ℤ

/-- The result of an operation. -/
structure OpResult where
  door : DoorT
  state : DoorModule
  effects : List DoorEffect

/-! ### Reporting -/

/-- The report on the door as `distance` and the motor have it. -/
def reportOf (distance : Reading) (s : DoorModule) : Report where
  d0Open := decide (DOOR_CLOSED_THRESHOLD_CM ≤ distance.cm)
  d0Locked := false
  d1Open := false
  d1Locked := decide (s.motor.getPosition = STEPPER_LOCKED_POSITION)

/-- A call of `door_udp_update`. -/
def updateFrom (distance : Reading) (now : ℤ) (s : DoorModule) : DoorModule × List DoorEffect :=
  let (udp, outs) := doorUdpUpdate (reportOf distance s) now s.udp
  ({ s with udp := udp }, .update distance (reportOf distance s) :: outs.map .send)

/-- `report_door_state_udp`: nothing is sent after a sensor error. -/
def reportDoorStateUdp (door : DoorT) (distance : Reading) (now : ℤ) (s : DoorModule) :
    DoorModule × List DoorEffect :=
  if distance.cm = -1 then (s, [])
  else
    let (s, effects) := updateFrom distance now s
    ({ s with lastKnownDoor := door }, effects)

/-- One iteration of `heartbeat_worker`. -/
def heartbeatWorker (distance : Reading) (now : ℤ) (s : DoorModule) :
    DoorModule × List DoorEffect :=
  updateFrom distance now s

/-! ### Operations -/

/-- A rotation, and the state a door has after one that succeeds. -/
def rotateDoor (targetDegrees : ℤ) (state : DoorState) (gpio : Gpio) (door : DoorT)
    (s : DoorModule) : OpResult :=
  let r := s.motor.rotate targetDegrees gpio
  { door := if r.ok then { door with state := state } else door
    state := { s with motor := r.motor }
    effects := r.steps.map .step }

/-- `lockDoor` up to its report. -/
def lockDoorAct (env : CallEnv) (door : DoorT) (s : DoorModule) : OpResult :=
  let dist := avgDistanceSample env.samples
  if s.motor.getPosition = 180 then ⟨door, s, []⟩
  -- the error value is below the threshold and is caught by the next test
  else if DOOR_CLOSED_THRESHOLD_CM ≤ dist then ⟨{ door with state := .OPEN }, s, []⟩
  else if dist = -1 then ⟨{ door with state := .UNKNOWN }, s, []⟩
  else rotateDoor 180 .LOCKED env.gpio door s

/-- `unlockDoor` up to its report. -/
def unlockDoorAct (env : CallEnv) (door : DoorT) (s : DoorModule) : OpResult :=
  if s.motor.getPosition = 0 then ⟨door, s, []⟩
  else
    let distance := env.distance
    let lastWasLocked : Bool := s.lastKnownDoor.state = .LOCKED
    -- the sensor is not asked when the door was last seen locked
    if lastWasLocked || s.motor.getPosition = STEPPER_LOCKED_POSITION then
      rotateDoor STEPPER_UNLOCKED_POSITION .UNLOCKED env.gpio door s
    else if DOOR_CLOSED_THRESHOLD_CM ≤ distance.cm then ⟨{ door with state := .OPEN }, s, []⟩
    else if !lastWasLocked then ⟨{ door with state := .UNLOCKED }, s, []⟩
    else ⟨door, s, []⟩

/-- `get_door_status` up to its report. -/
def getDoorStatusAct (env : CallEnv) (door : DoorT) (s : DoorModule) : OpResult :=
  let distance := env.distance
  if s.motor.getPosition = STEPPER_LOCKED_POSITION then ⟨{ door with state := .LOCKED }, s, []⟩
  else if distance.cm < DOOR_CLOSED_THRESHOLD_CM ∧ distance.cm ≠ -1 then
    ⟨{ door with state := .UNLOCKED }, s, []⟩
  else if distance.cm = -1 then ⟨door, s, []⟩
  else if DOOR_CLOSED_THRESHOLD_CM ≤ distance.cm then ⟨{ door with state := .OPEN }, s, []⟩
  else ⟨{ door with state := .UNKNOWN }, s, []⟩

/-- The report at the end of an operation. -/
def OpResult.reported (env : CallEnv) (r : OpResult) : OpResult :=
  let (s, effects) := reportDoorStateUdp r.door env.report env.now r.state
  ⟨r.door, s, r.effects ++ effects⟩

/-- `lockDoor`. -/
def lockDoor (env : CallEnv) (door : DoorT) (s : DoorModule) : OpResult :=
  (lockDoorAct env door s).reported env

/-- `unlockDoor`. -/
def unlockDoor (env : CallEnv) (door : DoorT) (s : DoorModule) : OpResult :=
  (unlockDoorAct env door s).reported env

/-- `get_door_status`. -/
def getDoorStatus (env : CallEnv) (door : DoorT) (s : DoorModule) : OpResult :=
  (getDoorStatusAct env door s).reported env

/-- `doorMod_cleanup`: the rotation and the end of reporting. -/
def doorModCleanup (gpio : Gpio) (s : DoorModule) : DoorModule × List DoorEffect :=
  let r : Rotation :=
    if s.motor.getPosition ≠ 0 then s.motor.rotate 180 gpio else ⟨s.motor, true, []⟩
  ({ s with motor := r.motor, udp := doorUdpClose s.udp }, r.steps.map .step)

/-- `avgDistanceSample` has measured a closed door. -/
def MeasuredClosed (env : CallEnv) : Prop :=
  avgDistanceSample env.samples ≠ -1 ∧ avgDistanceSample env.samples < DOOR_CLOSED_THRESHOLD_CM

/-- A door module after `initializeDoorSystem`, with the transport `udp`. -/
def DoorModule.initial (coils : Coils) (udp : DoorUdp) : DoorModule where
  motor := { currentStepPosition := 0, inRange := stepsPerRev_pos, coils := coils }
  lastKnownDoor := ⟨.UNKNOWN, 0⟩
  udp := udp

/-! ### Lemmas on the parts -/

/-- Reporting does not move the motor. -/
@[simp] theorem reported_motor (env : CallEnv) (r : OpResult) :
    (r.reported env).state.motor = r.state.motor := by
  unfold OpResult.reported reportDoorStateUdp
  dsimp only
  split_ifs <;> rfl

/-- No step is taken while reporting. -/
theorem step_mem_reported {env : CallEnv} {r : OpResult} {p : ℕ} :
    .step p ∈ (r.reported env).effects ↔ .step p ∈ r.effects := by
  unfold OpResult.reported reportDoorStateUdp updateFrom
  dsimp only
  rw [List.mem_append]
  refine or_iff_left ?_
  split_ifs
  · exact List.not_mem_nil
  · simp

end Door

end DoorSystem
