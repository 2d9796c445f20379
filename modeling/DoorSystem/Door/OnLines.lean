import DoorSystem.Door.Reporting
import DoorSystem.Door.SensorLines

/-!
# The door module on its lines

The operations of the door module reach the motor and the sensor through `GPIO.c`. Here they are
written over the lines, as the source has them, and `doorLines_refines` says that in every run they
are the operations of `Door.DoorMod`: a measurement whose lines are not configured has failed, and
so has a write. What is proved there for every outcome of the writes and measurements holds on the
lines.
-/

namespace DoorSystem

open CLib Hal

namespace Door

variable {ο : Type}

/-! ### The module -/

/-- The lines, the motor, `__last_known_door`, the transport, and the door object of a call that has
acted and not yet reported. -/
structure DoorOnLines (ο : Type) where
  lines : MotorOnLines ο
  lastKnownDoor : DoorT
  udp : DoorUdp
  inCall : Option DoorT

/-- The module without its lines. -/
def DoorOnLines.module (d : DoorOnLines ο) : DoorModule where
  motor := d.lines.motor
  lastKnownDoor := d.lastKnownDoor
  udp := d.udp

/-- What the module is of `Door.Reporting`. -/
def DoorOnLines.doorRun (d : DoorOnLines ο) : DoorRun := ⟨d.module, d.inCall⟩

/-- The answers an operation gets: what its measurements see, and the ioctls of its rotation. -/
structure LineEnv where
  samples : List Measurement
  distance : Measurement
  report : Measurement
  gpio : Gpio
  now : ℤ

/-! ### Operations -/

/-- A call of `get_distance`. -/
def DoorOnLines.measure (m : Measurement) (d : DoorOnLines ο) : DoorOnLines ο × ℤ :=
  let (gpio, distance) := getDistanceLines m d.lines.gpio
  ({ d with lines := { d.lines with gpio := gpio } }, distance)

/-- A call of `StepperMotor_Rotate`, and the state of the door after one that succeeds. -/
def DoorOnLines.rotate (targetDegrees : ℤ) (state : DoorState) (ok : Gpio) (door : DoorT)
    (d : DoorOnLines ο) : DoorOnLines ο × DoorT :=
  let (lines, done) := rotateLines targetDegrees ok d.lines
  ({ d with lines := lines }, if done then { door with state := state } else door)

/-- The loop of `avgDistanceSample`. -/
def DoorOnLines.sampleLoop : List Measurement → ℤ → ℕ → DoorOnLines ο → DoorOnLines ο × ℤ × ℕ
  | [], totalDistance, sampleCount, d => (d, totalDistance, sampleCount)
  | m :: ms, totalDistance, sampleCount, d =>
    let (d, distance) := d.measure m
    if distance ≠ -1 then sampleLoop ms (totalDistance + distance) (sampleCount + 1) d
    else sampleLoop ms totalDistance sampleCount d

/-- `avgDistanceSample`. -/
def DoorOnLines.avgDistanceSample (ms : List Measurement) (d : DoorOnLines ο) :
    DoorOnLines ο × ℤ :=
  let (d, totalDistance, sampleCount) := d.sampleLoop ms 0 0
  (d, if sampleCount = 0 then -1 else totalDistance.tdiv sampleCount)

/-- `lockDoor` up to its report. -/
def lockDoorLines (env : LineEnv) (door : DoorT) (d : DoorOnLines ο) : DoorOnLines ο × DoorT :=
  let (d, dist) := d.avgDistanceSample env.samples
  if d.lines.motor.getPosition = 180 then (d, door)
  else if DOOR_CLOSED_THRESHOLD_CM ≤ dist then (d, { door with state := .OPEN })
  else if dist = -1 then (d, { door with state := .UNKNOWN })
  else d.rotate 180 .LOCKED env.gpio door

/-- `unlockDoor` up to its report. -/
def unlockDoorLines (env : LineEnv) (door : DoorT) (d : DoorOnLines ο) : DoorOnLines ο × DoorT :=
  if d.lines.motor.getPosition = 0 then (d, door)
  else
    let (d, distance) := d.measure env.distance
    let lastWasLocked : Bool := d.lastKnownDoor.state = .LOCKED
    if lastWasLocked || d.lines.motor.getPosition = STEPPER_LOCKED_POSITION then
      d.rotate STEPPER_UNLOCKED_POSITION .UNLOCKED env.gpio door
    else if DOOR_CLOSED_THRESHOLD_CM ≤ distance then (d, { door with state := .OPEN })
    else if !lastWasLocked then (d, { door with state := .UNLOCKED })
    else (d, door)

/-- `get_door_status` up to its report. -/
def getDoorStatusLines (env : LineEnv) (door : DoorT) (d : DoorOnLines ο) :
    DoorOnLines ο × DoorT :=
  let (d, distance) := d.measure env.distance
  if d.lines.motor.getPosition = STEPPER_LOCKED_POSITION then (d, { door with state := .LOCKED })
  else if distance < DOOR_CLOSED_THRESHOLD_CM ∧ distance ≠ -1 then
    (d, { door with state := .UNLOCKED })
  else if distance = -1 then (d, door)
  else if DOOR_CLOSED_THRESHOLD_CM ≤ distance then (d, { door with state := .OPEN })
  else (d, { door with state := .UNKNOWN })

/-- The acting part of a call. -/
def opActLines : OpKind → LineEnv → DoorT → DoorOnLines ο → DoorOnLines ο × DoorT
  | .lock => lockDoorLines
  | .unlock => unlockDoorLines
  | .status => getDoorStatusLines

/-- A call of `door_udp_update`. -/
def DoorOnLines.updateFrom (distance now : ℤ) (d : DoorOnLines ο) :
    DoorOnLines ο × List DoorOut :=
  let report : Report :=
    { d0Open := decide (DOOR_CLOSED_THRESHOLD_CM ≤ distance)
      d0Locked := false
      d1Open := false
      d1Locked := decide (d.lines.motor.getPosition = STEPPER_LOCKED_POSITION) }
  let (udp, outs) := doorUdpUpdate report now d.udp
  ({ d with udp := udp }, outs)

/-- `report_door_state_udp`. -/
def reportDoorStateLines (door : DoorT) (m : Measurement) (now : ℤ) (d : DoorOnLines ο) :
    DoorOnLines ο × List DoorOut :=
  let (d, distance) := d.measure m
  if distance = -1 then (d, [])
  else
    let (d, outs) := d.updateFrom distance now
    ({ d with lastKnownDoor := door }, outs)

/-- What happens on a door module. -/
inductive DoorLineEv (ο : Type)
  | act (kind : OpKind) (door : DoorT) (env : LineEnv)
  | report (distance : Measurement) (now : ℤ)
  | heartbeat (distance : Measurement) (now : ℤ)
  /-- The rest of the program opens or closes a file. -/
  | otherOpen (file : ο)
  | otherClose (fd : ℕ)

/-- One event: the module afterwards and the datagrams it sends. -/
def execLines (d : DoorOnLines ο) : DoorLineEv ο → DoorOnLines ο × List DoorOut
  | .act kind door env =>
    match d.inCall with
    | none =>
      let (d, door) := opActLines kind env door d
      ({ d with inCall := some door }, [])
    | some _ => (d, [])
  | .report distance now =>
    match d.inCall with
    | some door =>
      let (d, outs) := reportDoorStateLines door distance now d
      ({ d with inCall := none }, outs)
    | none => (d, [])
  | .heartbeat distance now =>
    let (d, distance) := d.measure distance
    d.updateFrom distance now
  | .otherOpen file =>
    ({ d with lines := { d.lines with gpio := stepGpio d.lines.gpio (.otherOpen file) } }, [])
  | .otherClose fd =>
    ({ d with lines := { d.lines with gpio := stepGpio d.lines.gpio (.otherClose fd) } }, [])

/-! ### What the lines let through -/

/-- The reading of a measurement on the lines. -/
def readingOn (s : GpioState ο) (m : Measurement) : Reading := getDistance (m.onLines s).echo

/-- The answers as the lines let them through. -/
def LineEnv.onLines (s : GpioState ο) (env : LineEnv) : CallEnv where
  samples := env.samples.map (readingOn s)
  distance := readingOn s env.distance
  report := readingOn s env.report
  gpio := fun k i => motorOut s i && env.gpio k i
  now := env.now

/-- The event as the lines let it through. Files do not concern the module. -/
def DoorLineEv.onLines (s : GpioState ο) : DoorLineEv ο → Option DoorEv
  | .act kind door env => some (.act kind door (env.onLines s))
  | .report distance now => some (.report (readingOn s distance) now)
  | .heartbeat distance now => some (.heartbeat (readingOn s distance) now)
  | .otherOpen _ | .otherClose _ => none

/-- The datagrams among the effects. -/
def sentOf (effects : List DoorEffect) : List DoorOut :=
  effects.filterMap fun
    | .send out => some out
    | _ => none

/-- An event of the model, if there is one, with the datagrams that it sends. -/
def execSent (s : DoorRun) : Option DoorEv → DoorRun × List DoorOut
  | some e => ((execEv s e).1, sentOf (execEv s e).2)
  | none => (s, [])

/-- The trigger line and the lines of the motor. -/
def drivenPins : Set Pin := insert trigPin (Set.range motorPin)

/-- The lines are in order, and the echo line is not an output. -/
structure LinesReady (s : GpioState ο) : Prop where
  kept : GpioKept s
  echo : s.bank.mode echoPin ≠ some true

theorem LinesReady.frame {ps : Set Pin} {s s' : GpioState ο} (h : LinesReady s)
    (h_frame : LinesFrame ps s s') : LinesReady s' where
  kept := h_frame.kept h.kept
  echo := by
    rw [h_frame.mode]
    exact h.echo

/-- Only the directions of the lines count. -/
theorem readingOn_congr {s s' : GpioState ο} (h : s'.bank.mode = s.bank.mode) :
    readingOn s' = readingOn s := by
  funext m
  unfold readingOn Measurement.onLines trigOut echoIn
  rw [h]

theorem DoorLineEv.onLines_congr {s s' : GpioState ο} (h : s'.bank.mode = s.bank.mode)
    (e : DoorLineEv ο) : e.onLines s' = e.onLines s := by
  unfold DoorLineEv.onLines LineEnv.onLines
  rw [readingOn_congr h, motorOut_congr h]

/-! ### One operation -/

/-- A measurement and the module around it. -/
structure Measured (d d' : DoorOnLines ο) : Prop where
  frame : LinesFrame drivenPins d.lines.gpio d'.lines.gpio
  module : d'.module = d.module
  inCall : d'.inCall = d.inCall

theorem Measured.refl (d : DoorOnLines ο) : Measured d d := ⟨LinesFrame.refl _ _, rfl, rfl⟩

theorem Measured.trans {d d' d'' : DoorOnLines ο} (h : Measured d d') (h' : Measured d' d'') :
    Measured d d'' where
  frame := h.frame.trans h'.frame
  module := h'.module.trans h.module
  inCall := h'.inCall.trans h.inCall

/-- **A measurement** is the one that the lines let through, and leaves the motor alone. -/
theorem measure_spec {d : DoorOnLines ο} (h : LinesReady d.lines.gpio) (m : Measurement) :
    (d.measure m).2 = (readingOn d.lines.gpio m).cm ∧ Measured d (d.measure m).1 := by
  obtain ⟨h_distance, h_frame⟩ := getDistanceLines_refines h.kept h.echo m
  have h_coils : coilsOf (getDistanceLines m d.lines.gpio).1 = coilsOf d.lines.gpio := by
    funext i
    refine h_frame.levels _ (fun h_eq => ?_)
    have h_ne : ∀ i, motorPin i ≠ trigPin := by decide
    exact h_ne i (Set.mem_singleton_iff.mp h_eq)
  refine ⟨h_distance.trans (getDistanceTimed_spec _).result, ?_, ?_, rfl⟩
  · exact h_frame.mono (Set.singleton_subset_iff.mpr (Set.mem_insert _ _))
  · unfold DoorOnLines.measure DoorOnLines.module MotorOnLines.motor
    dsimp only
    rw [h_coils]

theorem sampleLoop_spec {d : DoorOnLines ο} (h : LinesReady d.lines.gpio) (ms : List Measurement)
    (totalDistance : ℤ) (sampleCount : ℕ) :
    (d.sampleLoop ms totalDistance sampleCount).2
        = sampleLoop (ms.map (readingOn d.lines.gpio)) totalDistance sampleCount ∧
      Measured d (d.sampleLoop ms totalDistance sampleCount).1 := by
  induction ms generalizing d totalDistance sampleCount with
  | nil => exact ⟨rfl, Measured.refl d⟩
  | cons m ms ih =>
    -- a sample leaves the echo line an input, so the next one reads it as well
    obtain ⟨h_distance, h_measured⟩ := measure_spec h m
    have h_rest := ih (h.frame h_measured.frame)
    rw [readingOn_congr h_measured.frame.mode] at h_rest
    rw [List.map_cons]
    unfold DoorOnLines.sampleLoop sampleLoop
    dsimp only
    rw [h_distance]
    split_ifs
    · exact ⟨(h_rest _ _).1, h_measured.trans (h_rest _ _).2⟩
    · exact ⟨(h_rest _ _).1, h_measured.trans (h_rest _ _).2⟩

/-- **The average** is the one of the readings. -/
theorem avgDistanceSample_spec {d : DoorOnLines ο} (h : LinesReady d.lines.gpio)
    (ms : List Measurement) :
    (d.avgDistanceSample ms).2 = avgDistanceSample (ms.map (readingOn d.lines.gpio)) ∧
      Measured d (d.avgDistanceSample ms).1 := by
  obtain ⟨h_loop, h_measured⟩ := sampleLoop_spec h ms 0 0
  obtain ⟨h_total, h_count⟩ := Prod.ext_iff.mp h_loop
  refine ⟨?_, h_measured⟩
  unfold DoorOnLines.avgDistanceSample avgDistanceSample
  dsimp only
  rw [h_total, h_count]

/-- An operation on the lines has done what the operation of the model does. -/
structure ActsAs (d : DoorOnLines ο) (r : DoorOnLines ο × DoorT) (r' : OpResult) : Prop where
  door : r.2 = r'.door
  module : r.1.module = r'.state
  frame : LinesFrame drivenPins d.lines.gpio r.1.lines.gpio

/-- An operation that has only measured. -/
theorem Measured.acts {d d' : DoorOnLines ο} (h : Measured d d') (door : DoorT)
    (effects : List DoorEffect) : ActsAs d (d', door) ⟨door, d.module, effects⟩ :=
  ⟨rfl, h.module, h.frame⟩

/-- **A rotation** after measurements. -/
theorem Measured.rotate {d d' : DoorOnLines ο} (h : Measured d d')
    (h_ready : LinesReady d.lines.gpio) (targetDegrees : ℤ) (state : DoorState) (ok : Gpio)
    (door : DoorT) :
    ActsAs d (d'.rotate targetDegrees state ok door)
      (rotateDoor targetDegrees state (fun k i => motorOut d.lines.gpio i && ok k i) door
        d.module) := by
  obtain ⟨h_motor, h_done, h_frame⟩ :=
    rotateLines_refines targetDegrees ok (h.frame.kept h_ready.kept)
  rw [motorOut_frame h.frame] at h_motor h_done
  -- the measurement before has not moved the motor
  have h_same : d'.lines.motor = d.module.motor := congrArg DoorModule.motor h.module
  rw [h_same] at h_motor h_done
  unfold DoorOnLines.rotate rotateDoor
  refine ⟨?_, ?_, h.frame.trans (h_frame.mono (Set.subset_insert _ _))⟩
  · dsimp only
    rw [h_done]
  · -- nor has it touched what the module remembers
    have h_last : d'.lastKnownDoor = d.module.lastKnownDoor :=
      congrArg DoorModule.lastKnownDoor h.module
    have h_udp : d'.udp = d.module.udp := congrArg DoorModule.udp h.module
    unfold DoorOnLines.module at h_last h_udp ⊢
    dsimp only at h_last h_udp ⊢
    rw [h_motor, h_last, h_udp]
    rfl

/-- **An operation** on the lines is the operation of the model on what the lines let through. -/
theorem opActLines_refines (kind : OpKind) (env : LineEnv) (door : DoorT) {d : DoorOnLines ο}
    (h : LinesReady d.lines.gpio) :
    ActsAs d (opActLines kind env door d)
      (opAct kind (env.onLines d.lines.gpio) door d.module) := by
  cases kind with
  | lock =>
    -- `lockDoor` measures first
    obtain ⟨h_dist, h_measured⟩ := avgDistanceSample_spec h env.samples
    have h_motor : (d.avgDistanceSample env.samples).1.lines.motor = d.module.motor :=
      congrArg DoorModule.motor h_measured.module
    change _ = avgDistanceSample (env.onLines d.lines.gpio).samples at h_dist
    show ActsAs d (lockDoorLines env door d) (lockDoorAct (env.onLines d.lines.gpio) door d.module)
    unfold lockDoorLines lockDoorAct
    dsimp only
    rw [h_dist, h_motor]
    split_ifs
    · exact h_measured.acts _ _
    · exact h_measured.acts _ _
    · exact h_measured.acts _ _
    · exact h_measured.rotate h _ _ _ _
  | unlock =>
    obtain ⟨h_distance, h_measured⟩ := measure_spec h env.distance
    have h_motor : (d.measure env.distance).1.lines.motor = d.module.motor :=
      congrArg DoorModule.motor h_measured.module
    have h_last : (d.measure env.distance).1.lastKnownDoor = d.module.lastKnownDoor :=
      congrArg DoorModule.lastKnownDoor h_measured.module
    change _ = (env.onLines d.lines.gpio).distance.cm at h_distance
    show ActsAs d (unlockDoorLines env door d)
      (unlockDoorAct (env.onLines d.lines.gpio) door d.module)
    unfold unlockDoorLines unlockDoorAct
    dsimp only
    rw [h_distance, h_motor, h_last, show d.lines.motor = d.module.motor from rfl]
    split_ifs
    · -- unlocked already: nothing is measured
      exact (Measured.refl d).acts _ _
    · exact h_measured.rotate h _ _ _ _
    · exact h_measured.acts _ _
    · exact h_measured.acts _ _
    · exact h_measured.acts _ _
  | status =>
    -- `get_door_status` measures and turns nothing
    obtain ⟨h_distance, h_measured⟩ := measure_spec h env.distance
    have h_motor : (d.measure env.distance).1.lines.motor = d.module.motor :=
      congrArg DoorModule.motor h_measured.module
    change _ = (env.onLines d.lines.gpio).distance.cm at h_distance
    show ActsAs d (getDoorStatusLines env door d)
      (getDoorStatusAct (env.onLines d.lines.gpio) door d.module)
    unfold getDoorStatusLines getDoorStatusAct
    dsimp only
    rw [h_distance, h_motor]
    split_ifs
    · exact h_measured.acts _ _
    · exact h_measured.acts _ _
    · exact h_measured.acts _ _
    · exact h_measured.acts _ _
    · exact h_measured.acts _ _

/-! ### Reports -/

theorem sentOf_updateFrom (distance : Reading) (now : ℤ) (s : DoorModule) :
    sentOf (updateFrom distance now s).2 = (doorUdpUpdate (reportOf distance s) now s.udp).2 := by
  unfold sentOf updateFrom
  simp [List.filterMap_map]

/-- An operation turns the motor and sends nothing. -/
theorem sentOf_opAct (kind : OpKind) (env : CallEnv) (door : DoorT) (s : DoorModule) :
    sentOf (opAct kind env door s).effects = [] := by
  have h_steps : ∀ positions : List ℕ, sentOf (positions.map .step) = [] := by
    intro positions
    unfold sentOf
    simp [List.filterMap_map]
  cases kind with
  | lock =>
    -- the branches differ in the steps of the motor only
    show sentOf (lockDoorAct env door s).effects = []
    unfold lockDoorAct
    dsimp only
    split_ifs
    · rfl
    · rfl
    · rfl
    · exact h_steps _
  | unlock =>
    show sentOf (unlockDoorAct env door s).effects = []
    unfold unlockDoorAct
    dsimp only
    split_ifs
    · rfl
    · exact h_steps _
    all_goals rfl
  | status =>
    show sentOf (getDoorStatusAct env door s).effects = []
    unfold getDoorStatusAct
    dsimp only
    split_ifs <;> rfl

/-- **A call of `door_udp_update`** after measurements. -/
theorem Measured.updateFrom {d d' : DoorOnLines ο} (h : Measured d d') (distance : Reading)
    (now : ℤ) :
    (d'.updateFrom distance.cm now).1.module = (updateFrom distance now d.module).1 ∧
      (d'.updateFrom distance.cm now).2 = sentOf (updateFrom distance now d.module).2 := by
  rw [sentOf_updateFrom, ← h.module]
  exact ⟨rfl, rfl⟩

/-! ### One event -/

/-- An event on the lines has done what the event of the model does, and has left the lines in
order. -/
structure StepsAs (d : DoorOnLines ο) (e : DoorLineEv ο) : Prop where
  doorRun : (execLines d e).1.doorRun = (execSent d.doorRun (e.onLines d.lines.gpio)).1
  sent : (execLines d e).2 = (execSent d.doorRun (e.onLines d.lines.gpio)).2
  ready : LinesReady (execLines d e).1.lines.gpio
  mode : (execLines d e).1.lines.gpio.bank.mode = d.lines.gpio.bank.mode
  levels : ∀ p, p ∉ drivenPins → (execLines d e).1.lines.gpio.levels p = d.lines.gpio.levels p

/-- An event that is a use of the lines. -/
theorem StepsAs.of_frame {d : DoorOnLines ο} (h : LinesReady d.lines.gpio) {e : DoorLineEv ο}
    (h_run : (execLines d e).1.doorRun = (execSent d.doorRun (e.onLines d.lines.gpio)).1)
    (h_sent : (execLines d e).2 = (execSent d.doorRun (e.onLines d.lines.gpio)).2)
    (h_frame : LinesFrame drivenPins d.lines.gpio (execLines d e).1.lines.gpio) : StepsAs d e where
  doorRun := h_run
  sent := h_sent
  ready := h.frame h_frame
  mode := h_frame.mode
  levels := h_frame.levels

/-- An event that opens or closes a file. -/
theorem StepsAs.of_file {d : DoorOnLines ο} (h : LinesReady d.lines.gpio) {e : DoorLineEv ο}
    (op : GpioOp ο)
    (h_exec : execLines d e
      = ({ d with lines := { d.lines with gpio := stepGpio d.lines.gpio op } }, []))
    (h_fds : (stepGpio d.lines.gpio op).gpioFds = d.lines.gpio.gpioFds)
    (h_levels : (stepGpio d.lines.gpio op).levels = d.lines.gpio.levels)
    (h_none : e.onLines d.lines.gpio = none) : StepsAs d e := by
  have h_mode : (stepGpio d.lines.gpio op).bank.mode = d.lines.gpio.bank.mode := by
    -- files of others neither configure a line nor drive one
    rw [bank_congr h_fds h_levels]
  refine ⟨?_, ?_, ?_, ?_, ?_⟩
  · rw [h_exec, h_none]
    unfold execSent DoorOnLines.doorRun DoorOnLines.module MotorOnLines.motor coilsOf
    dsimp only
    rw [h_levels]
  · rw [h_exec, h_none]
    rfl
  · rw [h_exec]
    refine ⟨h.kept.step op, ?_⟩
    dsimp only
    rw [h_mode]
    exact h.echo
  · rw [h_exec]
    exact h_mode
  · intro p _
    rw [h_exec]
    exact congrFun h_levels p

/-- **Step.** -/
theorem execLines_refines {d : DoorOnLines ο} (h : LinesReady d.lines.gpio) (e : DoorLineEv ο) :
    StepsAs d e := by
  cases e with
  | act kind door env =>
    have h_acts := opActLines_refines kind env door h
    have h_sent := sentOf_opAct kind (env.onLines d.lines.gpio) door d.module
    cases h_call : d.inCall with
    | none =>
      have h_exec : execLines d (.act kind door env)
          = ({ (opActLines kind env door d).1 with
                inCall := some (opActLines kind env door d).2 }, []) := by
        unfold execLines
        rw [h_call]
      have h_model : execSent d.doorRun ((DoorLineEv.act kind door env).onLines d.lines.gpio)
          = (⟨(opAct kind (env.onLines d.lines.gpio) door d.module).state,
              some (opAct kind (env.onLines d.lines.gpio) door d.module).door⟩, []) := by
        unfold DoorLineEv.onLines execSent execEv DoorOnLines.doorRun
        rw [h_call]
        exact Prod.ext rfl h_sent
      refine .of_frame h ?_ ?_ ?_ <;> rw [h_exec]
      · rw [h_model, ← h_acts.door, ← h_acts.module]
        rfl
      · rw [h_model]
      · exact h_acts.frame
    | some door' =>
      -- a call is under way
      have h_exec : execLines d (.act kind door env) = (d, []) := by
        unfold execLines
        rw [h_call]
      have h_model : execSent d.doorRun ((DoorLineEv.act kind door env).onLines d.lines.gpio)
          = (d.doorRun, []) := by
        unfold DoorLineEv.onLines execSent execEv DoorOnLines.doorRun
        rw [h_call]
        rfl
      refine .of_frame h ?_ ?_ ?_ <;> rw [h_exec]
      · rw [h_model]
      · rw [h_model]
      · exact LinesFrame.refl _ _
  | report distance now =>
    obtain ⟨h_distance, h_measured⟩ := measure_spec h distance
    obtain ⟨h_module, h_outs⟩ := h_measured.updateFrom (readingOn d.lines.gpio distance) now
    cases h_call : d.inCall with
    | none =>
      have h_exec : execLines d (.report distance now) = (d, []) := by
        unfold execLines
        rw [h_call]
      have h_model : execSent d.doorRun ((DoorLineEv.report distance now).onLines d.lines.gpio)
          = (d.doorRun, []) := by
        unfold DoorLineEv.onLines execSent execEv DoorOnLines.doorRun
        rw [h_call]
        rfl
      refine .of_frame h ?_ ?_ ?_ <;> rw [h_exec]
      · rw [h_model]
      · rw [h_model]
      · exact LinesFrame.refl _ _
    | some door =>
      by_cases h_error : (readingOn d.lines.gpio distance).cm = -1
      · have h_exec : execLines d (.report distance now)
            = ({ (d.measure distance).1 with inCall := none }, []) := by
          unfold execLines reportDoorStateLines
          rw [h_call]
          dsimp only
          rw [h_distance, if_pos h_error]
        have h_model : execSent d.doorRun ((DoorLineEv.report distance now).onLines d.lines.gpio)
            = (⟨d.module, none⟩, []) := by
          unfold DoorLineEv.onLines execSent execEv DoorOnLines.doorRun reportDoorStateUdp
          rw [h_call]
          dsimp only
          rw [if_pos h_error]
          rfl
        refine .of_frame h ?_ ?_ ?_ <;> rw [h_exec]
        · rw [h_model, ← h_measured.module]
          rfl
        · rw [h_model]
        · exact h_measured.frame
      · have h_exec : execLines d (.report distance now)
            = ({ ((d.measure distance).1.updateFrom
                    (readingOn d.lines.gpio distance).cm now).1 with
                  lastKnownDoor := door
                  inCall := none },
                ((d.measure distance).1.updateFrom
                  (readingOn d.lines.gpio distance).cm now).2) := by
          unfold execLines reportDoorStateLines
          rw [h_call]
          dsimp only
          rw [h_distance, if_neg h_error]
        have h_model : execSent d.doorRun ((DoorLineEv.report distance now).onLines d.lines.gpio)
            = (⟨{ (updateFrom (readingOn d.lines.gpio distance) now d.module).1 with
                    lastKnownDoor := door }, none⟩,
                sentOf (updateFrom (readingOn d.lines.gpio distance) now d.module).2) := by
          unfold DoorLineEv.onLines execSent execEv DoorOnLines.doorRun reportDoorStateUdp
          rw [h_call]
          dsimp only
          rw [if_neg h_error]
        refine .of_frame h ?_ ?_ ?_ <;> rw [h_exec]
        · rw [h_model, ← h_module]
          rfl
        · rw [h_model]
          exact h_outs
        · exact h_measured.frame
  | heartbeat distance now =>
    obtain ⟨h_distance, h_measured⟩ := measure_spec h distance
    obtain ⟨h_module, h_outs⟩ := h_measured.updateFrom (readingOn d.lines.gpio distance) now
    have h_exec : execLines d (.heartbeat distance now)
        = (d.measure distance).1.updateFrom (readingOn d.lines.gpio distance).cm now := by
      unfold execLines
      dsimp only
      rw [h_distance]
    refine .of_frame h ?_ ?_ ?_ <;> rw [h_exec]
    · show DoorRun.mk _ _ = DoorRun.mk _ _
      rw [h_module]
      rfl
    · exact h_outs
    · exact h_measured.frame
  | otherOpen file => exact .of_file h (.otherOpen file) rfl rfl rfl rfl
  | otherClose fd =>
    refine .of_file h (.otherClose fd) rfl ?_ ?_ rfl
    · unfold stepGpio execGpio
      dsimp only
      split <;> rfl
    · unfold stepGpio execGpio
      dsimp only
      split <;> rfl

/-! ### Runs -/

/-- The module without its lines, and the datagrams so far. -/
def linesView (dl : DoorOnLines ο × List DoorOut) : DoorRun × List DoorOut := (dl.1.doorRun, dl.2)

/-- **Run.** On any lines in order, the run is one of the model on what the lines let through. -/
theorem runLines_refines {d : DoorOnLines ο} (h : LinesReady d.lines.gpio)
    (es : List (DoorLineEv ο)) :
    linesView (run (logged execLines) (d, []) es)
      = run (logged (fun s (e : DoorLineEv ο) => execSent s (e.onLines d.lines.gpio)))
          (d.doorRun, []) es := by
  refine run_simulation_of_invariant linesView
    (fun dl => LinesReady dl.1.lines.gpio ∧ dl.1.lines.gpio.bank.mode = d.lines.gpio.bank.mode)
    ?_ ?_ ⟨h, rfl⟩ es
  · rintro ⟨d', log⟩ e ⟨h_ready, h_mode⟩
    have h_step := execLines_refines h_ready e
    exact ⟨h_step.ready, h_step.mode.trans h_mode⟩
  · rintro ⟨d', log⟩ e ⟨h_ready, h_mode⟩
    have h_step := execLines_refines h_ready e
    have h_run := h_step.doorRun
    have h_sent := h_step.sent
    rw [e.onLines_congr h_mode] at h_run h_sent
    exact Prod.ext h_run (congrArg (log ++ ·) h_sent)

/-- What holds of the lines in a run. -/
theorem runLines_lines {d : DoorOnLines ο} (h : LinesReady d.lines.gpio)
    (es : List (DoorLineEv ο)) :
    (run (logged execLines) (d, []) es).1.lines.gpio.bank.mode = d.lines.gpio.bank.mode ∧
      ∀ p, p ∉ drivenPins →
        (run (logged execLines) (d, []) es).1.lines.gpio.levels p = d.lines.gpio.levels p := by
  refine (run_invariant (fun dl : DoorOnLines ο × List DoorOut => LinesReady dl.1.lines.gpio ∧
    dl.1.lines.gpio.bank.mode = d.lines.gpio.bank.mode ∧
      ∀ p, p ∉ drivenPins → dl.1.lines.gpio.levels p = d.lines.gpio.levels p)
    ?_ ⟨h, rfl, fun _ _ => rfl⟩ es).2
  rintro ⟨d', log⟩ e ⟨h_ready, h_mode, h_levels⟩
  have h_step := execLines_refines h_ready e
  exact ⟨h_step.ready, h_step.mode.trans h_mode,
    fun p h_p => (h_step.levels p h_p).trans (h_levels p h_p)⟩

/-! ### A door module that has started -/

/-- A start of a door module that has succeeded, with the transport it starts with. -/
structure StartedLines (ο : Type) where
  files : Descriptors ο
  levels : Pin → Bool
  start : StartLines
  succeeded : (initializeDoorLines start
    (MotorOnLines.atZero (GpioState.boot files levels))).2 = true
  udp : DoorUdp

/-- The module after the start. -/
def StartedLines.door (S : StartedLines ο) : DoorOnLines ο where
  lines := (initializeDoorLines S.start (MotorOnLines.atZero (GpioState.boot S.files S.levels))).1
  lastKnownDoor := ⟨.UNKNOWN, 0⟩
  udp := S.udp
  inCall := none

/-- The answers of the system calls alone. -/
def LineEnv.raw (env : LineEnv) : CallEnv where
  samples := env.samples.map (fun m => getDistance m.echo)
  distance := getDistance env.distance.echo
  report := getDistance env.report.echo
  gpio := env.gpio
  now := env.now

/-- The event with the answers of the system calls alone. -/
def DoorLineEv.raw : DoorLineEv ο → Option DoorEv
  | .act kind door env => some (.act kind door env.raw)
  | .report distance now => some (.report (getDistance distance.echo) now)
  | .heartbeat distance now => some (.heartbeat (getDistance distance.echo) now)
  | .otherOpen _ | .otherClose _ => none

/-- Lines that are configured let everything through. -/
theorem onLines_configured {s : GpioState ο} (h_trig : s.bank.mode trigPin = some true)
    (h_echo : s.bank.mode echoPin = some false)
    (h_motor : ∀ i, s.bank.mode (motorPin i) = some true) (e : DoorLineEv ο) :
    e.onLines s = e.raw := by
  have h_reading : readingOn s = fun m => getDistance m.echo := by
    -- with its lines configured the sensor fails only where a call does
    funext m
    have h_trigger : (fun i => trigOut s && m.trigger i) = m.trigger := by
      funext i
      simp [trigOut, h_trig]
    have h_in : echoIn s = true := by simp [echoIn, h_echo]
    unfold readingOn Measurement.onLines
    rw [h_trigger, h_in]
    rfl
  have h_out : motorOut s = fun _ => true := by
    -- and the motor fails only where a write does
    funext i
    simp [motorOut, h_motor i]
  unfold DoorLineEv.onLines DoorLineEv.raw LineEnv.onLines LineEnv.raw
  rw [h_reading, h_out]
  simp only [Bool.true_and]

theorem StartedLines.kept (S : StartedLines ο) : GpioKept S.door.lines.gpio :=
  (initializeDoorLines_calls S.start _).kept (GpioKept.boot S.files S.levels)

/-- The motor has started at 0. -/
theorem StartedLines.module_eq (S : StartedLines ο) :
    S.door.module = DoorModule.initial zeroPattern S.udp := by
  have h_coils := (initializeDoorLines_done (GpioKept.boot S.files S.levels) S.succeeded).2.2
  have h_position : S.door.lines.currentStepPosition = 0 := by
    unfold StartedLines.door initializeDoorLines stepperMotorInitLines
    dsimp only
    split_ifs <;> rfl
  unfold DoorOnLines.module MotorOnLines.motor DoorModule.initial
  simp only [DoorModule.mk.injEq, StepperMotor.mk.injEq]
  exact ⟨⟨h_position, h_coils⟩, rfl, rfl⟩

/-- **The door module on its lines.** After a start that has succeeded, every run on the lines is a
run of the model on the answers of the system calls, and only the trigger and the coils change
their levels. -/
theorem doorLines_refines (S : StartedLines ο) (es : List (DoorLineEv ο)) :
    linesView (run (logged execLines) (S.door, []) es)
        = run (logged (fun s (e : DoorLineEv ο) => execSent s e.raw))
            (⟨DoorModule.initial zeroPattern S.udp, none⟩, []) es ∧
      ∀ p, p ∉ drivenPins →
        (run (logged execLines) (S.door, []) es).1.lines.gpio.levels p
          = S.door.lines.gpio.levels p := by
  -- a successful start has configured all lines
  obtain ⟨⟨h_trig, h_echo, h_motor⟩, -⟩ :=
    initializeDoorLines_done (GpioKept.boot S.files S.levels) S.succeeded
  have h_ready : LinesReady S.door.lines.gpio := by
    refine ⟨S.kept, ?_⟩
    change S.door.lines.gpio.bank.mode echoPin = some false at h_echo
    rw [h_echo]
    simp
  have h_events : (fun s (e : DoorLineEv ο) => execSent s (e.onLines S.door.lines.gpio))
      = fun s e => execSent s e.raw := by
    funext s e
    exact congrArg (execSent s) (onLines_configured h_trig h_echo h_motor e)
  refine ⟨?_, (runLines_lines h_ready es).2⟩
  rw [runLines_refines h_ready, h_events]
  show run _ (DoorRun.mk S.door.module none, []) es = _
  rw [S.module_eq]

/-- The start of a process that has its three standard streams, without failures. -/
def smoothLines : StartedLines Unit where
  files :=
    { get := fun n => if n < 3 then some () else none
      dom := Finset.range 3
      mem_dom := fun n => by simp }
  levels := fun _ => true
  start :=
    { trig := ⟨true, true, true⟩
      echo := ⟨true, true, true⟩
      trigLow := true
      motor := fun _ => ⟨true, true, true⟩
      coilsLow := fun _ => true }
  succeeded := initializeDoorLines_smooth ⟨rfl, rfl, rfl, fun _ => rfl, fun _ => rfl⟩
    (GpioKept.boot _ _) (fun _ => rfl)
  udp := DoorUdp.initial

/-- A heartbeat that measures an echo of a millisecond, after another file has been opened. -/
def heartbeatOnLines : List (DoorLineEv Unit) :=
  [.otherOpen (), .heartbeat (CleanMeasurement.steady 1000 (by decide)).toMeasurement 0]

theorem doorLines_refines_smoothLines :
    linesView (run (logged execLines) (smoothLines.door, []) heartbeatOnLines)
      = run (logged (fun s (e : DoorLineEv Unit) => execSent s e.raw))
          (⟨DoorModule.initial zeroPattern DoorUdp.initial, none⟩, []) heartbeatOnLines :=
  (doorLines_refines smoothLines heartbeatOnLines).1

end Door

end DoorSystem
