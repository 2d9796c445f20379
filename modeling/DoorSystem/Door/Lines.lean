import DoorSystem.Door.Rotation
import DoorSystem.Hal.PinBank
import Mathlib.Tactic.FinCases

/-!
# The motor on its lines

The motor has four coils, and `StepperMotor.c` reaches each through a line of a GPIO chip. The coils
that the model of the motor has are the levels on the four lines, and the calls of the motor on the
lines are the calls of that model, in every run (`motorLines_refines`). A write of the model fails
where the line is not an output or the kernel refuses, and none changes a level of another line.

`Door.LineStart` has the start of the program.
-/

namespace DoorSystem

open CLib Hal

namespace Door

variable {ο : Type}

/-! ### The lines of the motor -/

/-- The chips and lines `IN1` to `IN4`. -/
def motorLine : Fin 4 → ℤ × ℤ := ![(1, 38), (1, 41), (2, 15), (2, 17)]

/-- The entries of the four lines. -/
def motorPin : Fin 4 → Pin := ![pinAt 1 38, pinAt 1 41, pinAt 2 15, pinAt 2 17]

theorem pinOf_motorLine (i : Fin 4) :
    pinOf (motorLine i).1 (motorLine i).2 = some (motorPin i) := by
  fin_cases i <;> rfl

theorem motorPin_injective : Function.Injective motorPin := by decide

/-- Writes to the lines `is` of the motor, up to the first one that fails. -/
def writeLines (pattern : Coils) (ok : Fin 4 → Bool) :
    List (Fin 4) → GpioState ο → GpioState ο × Bool
  | [], s => (s, true)
  | i :: is, s =>
    let (s, done) := writePinValue (motorLine i).1 (motorLine i).2 (pattern i).toNat (ok i) s
    if done then writeLines pattern ok is s else (s, false)

/-- `set_motor_pins` on the lines. -/
def setMotorLines (pattern : Coils) (ok : Fin 4 → Bool) (s : GpioState ο) : GpioState ο × Bool :=
  writeLines pattern ok (List.finRange 4) s

/-- The lines and `current_step_position`. -/
structure MotorOnLines (ο : Type) where
  gpio : GpioState ο
  currentStepPosition : ℕ
  inRange : currentStepPosition < STEPS_PER_REV

/-- The loop of `StepperMotor_Rotate` on the lines. -/
def rotateLinesLoop (ok : Gpio) : ℕ → ℕ → MotorOnLines ο → MotorOnLines ο × Bool
  | 0, _, m => (m, true)
  | n + 1, k, m =>
    let (gpio, done) := setMotorLines (stepPattern k) (ok k) m.gpio
    if done then
      rotateLinesLoop ok n (k + 1)
        { gpio := gpio
          currentStepPosition := (m.currentStepPosition + 1) % STEPS_PER_REV
          inRange := Nat.mod_lt _ stepsPerRev_pos }
    else ({ m with gpio := gpio }, false)

/-- The levels on the lines of the motor. -/
def coilsOf (s : GpioState ο) : Coils := fun i => s.levels (motorPin i)

/-- The motor that is on the lines. -/
def MotorOnLines.motor (m : MotorOnLines ο) : StepperMotor where
  currentStepPosition := m.currentStepPosition
  inRange := m.inRange
  coils := coilsOf m.gpio

/-- `StepperMotor_Rotate` on the lines, where `ok k i` is the outcome of the ioctl on line `i` in
the `k`-th step. -/
def rotateLines (targetDegrees : ℤ) (ok : Gpio) (m : MotorOnLines ο) : MotorOnLines ο × Bool :=
  if targetDegrees < 0 ∨ 360 < targetDegrees then (m, false)
  else rotateLinesLoop ok (stepsNeeded targetDegrees m.motor) 0 m

/-! ### The motor on the lines is the motor -/

/-- The line `i` of the motor is configured as an output. -/
def motorOut (s : GpioState ο) (i : Fin 4) : Bool := s.bank.mode (motorPin i) = some true

/-- A use of the motor's lines. -/
abbrev MotorFrame (s s' : GpioState ο) : Prop := LinesFrame (Set.range motorPin) s s'

theorem motorOut_congr {s s' : GpioState ο} (h : s'.bank.mode = s.bank.mode) :
    motorOut s' = motorOut s := by
  funext i
  unfold motorOut
  rw [h]

theorem motorOut_frame {ps : Set Pin} {s s' : GpioState ο} (h : LinesFrame ps s s') :
    motorOut s' = motorOut s := motorOut_congr h.mode

/-- A write to one line. -/
theorem writePinValue_motorLine {s : GpioState ο} (h : GpioKept s) (i : Fin 4) (value ok : Bool) :
    (writePinValue (motorLine i).1 (motorLine i).2 value.toNat ok s).2 = (motorOut s i && ok) ∧
      MotorFrame s (writePinValue (motorLine i).1 (motorLine i).2 value.toNat ok s).1 ∧
      coilsOf (writePinValue (motorLine i).1 (motorLine i).2 value.toNat ok s).1
        = if motorOut s i && ok then Function.update (coilsOf s) i value else coilsOf s := by
  have h_value : decide ((value.toNat : ℤ) ≠ 0) = value := by cases value <;> rfl
  have h_write := Prod.ext_iff.mp
    (writePinValue_refines h (pinOf_motorLine i) value.toNat ok)
  obtain ⟨levels, h_frame⟩ :=
    writePinValue_frame (motorLine i).1 (motorLine i).2 value.toNat ok s
  have h_levels : levels = (s.bank.write (motorPin i) value ok).1.levels := by
    rw [← h_value, ← h_write.1, h_frame]
    rfl
  have h_done := h_write.2
  rw [h_value] at h_done
  rw [h_frame, h_done, h_levels]
  unfold PinBank.write motorOut
  by_cases h_ok : ok = true ∧ s.bank.mode (motorPin i) = some true
  · -- an output whose write succeeds: one coil changes
    rw [if_pos h_ok]
    refine ⟨by simp [h_ok], ⟨rfl, rfl, rfl, fun p h_p => ?_⟩, ?_⟩
    · exact Function.update_of_ne (fun h_eq => h_p ⟨i, h_eq.symm⟩) _ _
    · rw [if_pos (by simp [h_ok])]
      exact Function.update_comp_eq_of_injective s.levels motorPin_injective i value
  · -- no output, or the write fails: nothing changes
    rw [if_neg h_ok]
    have h_not : ¬ (decide (s.bank.mode (motorPin i) = some true) && ok) = true := by
      simpa [and_comm] using h_ok
    rw [if_neg h_not]
    exact ⟨(Bool.eq_false_iff.mpr h_not).symm, ⟨rfl, rfl, rfl, fun _ _ => rfl⟩, rfl⟩

/-- The writes to some lines. -/
theorem writeLines_refines (pattern : Coils) (ok : Fin 4 → Bool) (is : List (Fin 4))
    {s : GpioState ο} (h : GpioKept s) :
    (coilsOf (writeLines pattern ok is s).1, (writeLines pattern ok is s).2)
        = writePins pattern (fun i => motorOut s i && ok i) is (coilsOf s) ∧
      MotorFrame s (writeLines pattern ok is s).1 := by
  induction is generalizing s with
  | nil => exact ⟨rfl, LinesFrame.refl _ s⟩
  | cons i is ih =>
    obtain ⟨h_done, h_frame, h_coils⟩ := writePinValue_motorLine h i (pattern i) (ok i)
    unfold writeLines writePins
    dsimp only
    rw [h_done]
    split_ifs with h_ok
    · -- the write is done, and the rest of the lines follow
      obtain ⟨h_rest, h_frame'⟩ := ih (h_frame.kept h)
      rw [h_coils, if_pos h_ok, motorOut_frame h_frame] at h_rest
      exact ⟨h_rest, h_frame.trans h_frame'⟩
    · -- the first write that fails ends both
      rw [if_neg h_ok] at h_coils
      exact ⟨by rw [h_coils], h_frame⟩

/-- **`set_motor_pins`** on the lines. -/
theorem setMotorLines_refines (pattern : Coils) (ok : Fin 4 → Bool) {s : GpioState ο}
    (h : GpioKept s) :
    (coilsOf (setMotorLines pattern ok s).1, (setMotorLines pattern ok s).2)
        = setMotorPins pattern (fun i => motorOut s i && ok i) (coilsOf s) ∧
      MotorFrame s (setMotorLines pattern ok s).1 :=
  writeLines_refines pattern ok _ h

/-- **The rotation loop** on the lines. -/
theorem rotateLinesLoop_refines (ok : Gpio) (n k : ℕ) {m : MotorOnLines ο} (h : GpioKept m.gpio) :
    (rotateLinesLoop ok n k m).1.motor
        = (rotateLoop (fun k i => motorOut m.gpio i && ok k i) n k m.motor).motor ∧
      (rotateLinesLoop ok n k m).2
        = (rotateLoop (fun k i => motorOut m.gpio i && ok k i) n k m.motor).ok ∧
      MotorFrame m.gpio (rotateLinesLoop ok n k m).1.gpio := by
  induction n generalizing k m with
  | zero => exact ⟨rfl, rfl, LinesFrame.refl _ _⟩
  | succ n ih =>
    obtain ⟨h_pins, h_frame⟩ :=
      setMotorLines_refines (stepPattern k) (ok k) h
    obtain ⟨h_coils, h_done⟩ := Prod.ext_iff.mp h_pins
    dsimp only at h_coils h_done
    unfold rotateLinesLoop rotateLoop
    dsimp only
    rw [h_done, show m.motor.coils = coilsOf m.gpio from rfl]
    split_ifs with h_ok
    · -- one more step, from the position that both have counted
      let m' : MotorOnLines ο :=
        { gpio := (setMotorLines (stepPattern k) (ok k) m.gpio).1
          currentStepPosition := (m.currentStepPosition + 1) % STEPS_PER_REV
          inRange := Nat.mod_lt _ stepsPerRev_pos }
      obtain ⟨h_motor, h_result, h_frame'⟩ := ih (m := m') (k + 1) (h_frame.kept h)
      have h_advance : m'.motor = m.motor.advance
          (setMotorPins (stepPattern k) (fun i => motorOut m.gpio i && ok k i)
            (coilsOf m.gpio)).1 := by
        unfold MotorOnLines.motor StepperMotor.advance
        rw [← h_coils]
      rw [h_advance, motorOut_frame h_frame] at h_motor h_result
      exact ⟨h_motor, h_result, h_frame.trans h_frame'⟩
    · -- a failed step ends both at this position
      refine ⟨?_, rfl, h_frame⟩
      unfold MotorOnLines.motor
      rw [← h_coils]

/-- **A rotation on the lines** is a rotation of the motor that is on them, where a write fails
whose line is not an output. Neither the descriptors nor the levels of other lines change. -/
theorem rotateLines_refines (targetDegrees : ℤ) (ok : Gpio) {m : MotorOnLines ο}
    (h : GpioKept m.gpio) :
    (rotateLines targetDegrees ok m).1.motor
        = (m.motor.rotate targetDegrees (fun k i => motorOut m.gpio i && ok k i)).motor ∧
      (rotateLines targetDegrees ok m).2
        = (m.motor.rotate targetDegrees (fun k i => motorOut m.gpio i && ok k i)).ok ∧
      MotorFrame m.gpio (rotateLines targetDegrees ok m).1.gpio := by
  unfold rotateLines StepperMotor.rotate
  split_ifs
  · exact ⟨rfl, rfl, LinesFrame.refl _ _⟩
  · exact rotateLinesLoop_refines ok _ 0 h

/-! ### Calls of the motor -/

/-- The requests of `StepperMotor_Init`, up to the first one that fails. -/
def exportMotor (a : Fin 4 → Attempt) : List (Fin 4) → GpioState ο → GpioState ο × Bool
  | [], s => (s, true)
  | i :: is, s =>
    let (s, done) := exportPin (motorLine i).1 (motorLine i).2 (some "out".toList) (a i) s
    if done then exportMotor a is s else (s, false)

/-- The position and the coils of a motor at rest. -/
def MotorOnLines.atZero (gpio : GpioState ο) : MotorOnLines ο where
  gpio := gpio
  currentStepPosition := 0
  inRange := stepsPerRev_pos

/-- `StepperMotor_Init` on the lines. -/
def stepperMotorInitLines (a : Fin 4 → Attempt) (ok : Fin 4 → Bool) (m : MotorOnLines ο) :
    MotorOnLines ο × Bool :=
  let (gpio, done) := exportMotor a (List.finRange 4) m.gpio
  if !done then ({ m with gpio := gpio }, false)
  else
    let (gpio, done) := setMotorLines zeroPattern ok gpio
    (MotorOnLines.atZero gpio, done)

/-- `StepperMotor_ResetPosition` on the lines. -/
def resetPositionLines (ok : Fin 4 → Bool) (m : MotorOnLines ο) : MotorOnLines ο × Bool :=
  let (gpio, done) := setMotorLines zeroPattern ok m.gpio
  if !done then ({ m with gpio := gpio }, false) else (MotorOnLines.atZero gpio, true)

/-- A call of the motor with the outcomes of its system calls, or a step of the program that is not
one. -/
inductive MotorLineStep (ο : Type)
  | init (a : Fin 4 → Attempt) (ok : Fin 4 → Bool)
  | rotate (targetDegrees : ℤ) (ok : Gpio)
  | resetPosition (ok : Fin 4 → Bool)
  /-- The rest of the program opens or closes a file. -/
  | otherOpen (file : ο)
  | otherClose (fd : ℕ)

/-- The motor and the lines after a step. -/
def MotorLineStep.exec (m : MotorOnLines ο) : MotorLineStep ο → MotorOnLines ο
  | .init a ok => (stepperMotorInitLines a ok m).1
  | .rotate targetDegrees ok => (rotateLines targetDegrees ok m).1
  | .resetPosition ok => (resetPositionLines ok m).1
  | .otherOpen file => { m with gpio := stepGpio m.gpio (.otherOpen file) }
  | .otherClose fd => { m with gpio := stepGpio m.gpio (.otherClose fd) }

/-- The lines that `StepperMotor_Init` is given: those that are free, where the system calls
succeed. -/
def motorGiven (a : Fin 4 → Attempt) (s : GpioState ο) (i : Fin 4) : Bool :=
  ((a i).chipOk && (a i).infoOk && (a i).lineOk) && s.bank.mode (motorPin i) = none

/-- The calls of the model that a step makes. A write to a line that is not an output fails. -/
def MotorLineStep.calls (m : MotorOnLines ο) : MotorLineStep ο → List MotorCall
  | .init a ok =>
    let (gpio, _) := exportMotor a (List.finRange 4) m.gpio
    [.init (motorGiven a m.gpio) (fun i => motorOut gpio i && ok i)]
  | .rotate targetDegrees ok => [.rotate targetDegrees (fun k i => motorOut m.gpio i && ok k i)]
  | .resetPosition ok => [.resetPosition (fun i => motorOut m.gpio i && ok i)]
  | .otherOpen _ | .otherClose _ => []

/-- The calls of the model in a run. -/
def callsOf : MotorOnLines ο → List (MotorLineStep ο) → List MotorCall
  | _, [] => []
  | m, i :: is => i.calls m ++ callsOf (i.exec m) is

theorem motorGiven_iff {a : Fin 4 → Attempt} {s : GpioState ο} {i : Fin 4} :
    motorGiven a s i = true ↔ ((a i).chipOk && (a i).infoOk && (a i).lineOk) = true ∧
      s.bank.mode (motorPin i) = none := by
  unfold motorGiven
  rw [Bool.and_eq_true, decide_eq_true_iff]

/-- A request of one line. -/
theorem exportPin_motorLine {s : GpioState ο} (h : GpioKept s) (a : Fin 4 → Attempt) (i : Fin 4) :
    (exportPin (motorLine i).1 (motorLine i).2 (some "out".toList) (a i) s).2 = motorGiven a s i ∧
      coilsOf (exportPin (motorLine i).1 (motorLine i).2 (some "out".toList) (a i) s).1
        = (if motorGiven a s i then Function.update (coilsOf s) i false else coilsOf s) ∧
      (∀ j, j ≠ i →
        motorGiven a (exportPin (motorLine i).1 (motorLine i).2 (some "out".toList) (a i) s).1 j
          = motorGiven a s j) ∧
      ∀ p, p ∉ Set.range motorPin →
        (exportPin (motorLine i).1 (motorLine i).2 (some "out".toList) (a i) s).1.levels p
          = s.levels p := by
  have h_call := exportPin_refines h (pinOf_motorLine i) "out".toList (a i)
  generalize exportPin (motorLine i).1 (motorLine i).2 (some "out".toList) (a i) s = r at h_call ⊢
  rw [decide_eq_true rfl] at h_call
  obtain ⟨h_bank, h_done⟩ := Prod.ext_iff.mp h_call
  unfold PinBank.configure at h_bank h_done
  dsimp only at h_bank h_done
  have h_mode : r.1.bank.mode = _ := congrArg PinBank.mode h_bank
  have h_levels : r.1.levels = _ := congrArg PinBank.levels h_bank
  cases h_given : motorGiven a s i with
  | true =>
    -- granted: the line is an output now, and low
    have h_allowed := motorGiven_iff.mp h_given
    rw [if_pos h_allowed] at h_mode h_levels h_done
    rw [if_pos rfl] at h_levels
    dsimp only at h_mode h_levels
    refine ⟨h_done, ?_, fun j h_j => ?_, fun p h_p => ?_⟩
    · rw [if_pos rfl]
      unfold coilsOf
      rw [h_levels]
      exact Function.update_comp_eq_of_injective s.levels motorPin_injective i false
    · unfold motorGiven
      rw [h_mode, Function.update_of_ne (fun h_eq => h_j (motorPin_injective h_eq))]
    · rw [h_levels]
      exact Function.update_of_ne (fun h_eq => h_p ⟨i, h_eq.symm⟩) _ _
  | false =>
    -- refused: nothing changes
    have h_refused := fun h_allowed => Bool.eq_false_iff.mp h_given (motorGiven_iff.mpr h_allowed)
    rw [if_neg h_refused] at h_mode h_levels h_done
    refine ⟨h_done, ?_, fun j _ => ?_, fun p _ => congrFun h_levels p⟩
    · unfold coilsOf
      rw [h_levels]
      rfl
    · unfold motorGiven
      rw [h_mode]

/-- **The requests of the motor** drive the lines that they are given low, and no other line. -/
theorem exportMotor_refines (a : Fin 4 → Attempt) {given : Fin 4 → Bool} {is : List (Fin 4)}
    (h_is : is.Nodup) {s : GpioState ο} (h : GpioKept s)
    (h_given : ∀ i ∈ is, motorGiven a s i = given i) :
    GpioKept (exportMotor a is s).1 ∧
      (coilsOf (exportMotor a is s).1, (exportMotor a is s).2)
        = writePins zeroPattern given is (coilsOf s) ∧
      ∀ p, p ∉ Set.range motorPin → (exportMotor a is s).1.levels p = s.levels p := by
  induction is generalizing s with
  | nil => exact ⟨h, rfl, fun _ _ => rfl⟩
  | cons i is ih =>
    obtain ⟨h_new, h_rest⟩ := List.nodup_cons.mp h_is
    obtain ⟨h_done, h_coils, h_free, h_levels⟩ := exportPin_motorLine h a i
    have h_kept : GpioKept
        (exportPin (motorLine i).1 (motorLine i).2 (some "out".toList) (a i) s).1 :=
      h.step (.exportPin (motorLine i).1 (motorLine i).2 (some "out".toList) (a i))
    rw [h_given i List.mem_cons_self] at h_done h_coils
    unfold exportMotor writePins
    dsimp only
    rw [h_done]
    split_ifs with h_ok
    · -- the other lines are as free as before
      have h_others : ∀ j ∈ is, motorGiven a
          (exportPin (motorLine i).1 (motorLine i).2 (some "out".toList) (a i) s).1 j
            = given j := by
        intro j h_j
        have h_ne : j ≠ i := fun h_eq => h_new (h_eq ▸ h_j)
        rw [h_free j h_ne]
        exact h_given j (List.mem_cons_of_mem i h_j)
      obtain ⟨h_after, h_pins, h_frame⟩ := ih h_rest h_kept h_others
      rw [h_coils, if_pos h_ok] at h_pins
      exact ⟨h_after, h_pins, fun p h_p => (h_frame p h_p).trans (h_levels p h_p)⟩
    · rw [if_neg h_ok] at h_coils
      exact ⟨h_kept, by rw [h_coils], h_levels⟩

/-- **Step.** The motor on the lines makes the calls of the model. -/
theorem MotorLineStep.exec_refines {m : MotorOnLines ο} (h : GpioKept m.gpio)
    (i : MotorLineStep ο) :
    GpioKept (i.exec m).gpio ∧ (i.exec m).motor = run MotorCall.exec m.motor (i.calls m) := by
  cases i with
  | init a ok =>
    -- the four exports, and after them the first pattern
    obtain ⟨h_kept, h_export, -⟩ := exportMotor_refines a (List.nodup_finRange 4) h
      (fun i _ => rfl)
    obtain ⟨h_coils, h_done⟩ := Prod.ext_iff.mp h_export
    obtain ⟨h_pins, h_frame⟩ := setMotorLines_refines zeroPattern ok h_kept
    unfold MotorLineStep.exec MotorLineStep.calls stepperMotorInitLines
    dsimp only [run_cons, run_nil, MotorCall.exec]
    unfold stepperMotorInit exportMotorPins
    dsimp only at h_coils h_done ⊢
    rw [show m.motor.coils = coilsOf m.gpio from rfl, ← h_coils, ← h_done]
    generalize exportMotor a (List.finRange 4) m.gpio = r at *
    cases r.2 with
    | false => exact ⟨h_kept, rfl⟩
    | true =>
      refine ⟨h_frame.kept h_kept, ?_⟩
      unfold StepperMotor.init
      dsimp only
      rw [if_pos rfl, ← h_pins]
      rfl
  | rotate targetDegrees ok =>
    obtain ⟨h_motor, -, h_frame⟩ := rotateLines_refines targetDegrees ok h
    exact ⟨h_frame.kept h, h_motor⟩
  | resetPosition ok =>
    -- the coils are those of the writes, also when one of them fails
    obtain ⟨h_pins, h_frame⟩ := setMotorLines_refines zeroPattern ok h
    unfold MotorLineStep.exec MotorLineStep.calls resetPositionLines
    dsimp only [run_cons, run_nil, MotorCall.exec]
    have h_model : m.motor.resetPosition (fun i => motorOut m.gpio i && ok i)
        = if (setMotorLines zeroPattern ok m.gpio).2 then
            ({ currentStepPosition := 0, inRange := stepsPerRev_pos,
               coils := coilsOf (setMotorLines zeroPattern ok m.gpio).1 }, true)
          else
            ({ m.motor with coils := coilsOf (setMotorLines zeroPattern ok m.gpio).1 }, false) := by
      unfold StepperMotor.resetPosition
      rw [show m.motor.coils = coilsOf m.gpio from rfl, ← h_pins]
    rw [h_model]
    cases (setMotorLines zeroPattern ok m.gpio).2 <;> exact ⟨h_frame.kept h, rfl⟩
  | otherOpen file => exact ⟨h.step _, rfl⟩
  | otherClose fd =>
    -- a close does not touch the levels
    refine ⟨h.step _, ?_⟩
    have h_levels : (stepGpio m.gpio (.otherClose fd)).levels = m.gpio.levels := by
      unfold stepGpio execGpio
      dsimp only
      split <;> rfl
    unfold MotorLineStep.exec MotorOnLines.motor coilsOf
    dsimp only
    rw [h_levels]
    rfl

/-- **The motor on its lines.** In every run the motor on the lines is the motor of the model after
its calls. -/
theorem motorLines_refines (files : Descriptors ο) (levels : Pin → Bool)
    (is : List (MotorLineStep ο)) :
    (run MotorLineStep.exec (MotorOnLines.atZero (GpioState.boot files levels)) is).motor
      = motorAfter (fun i => levels (motorPin i))
          (callsOf (MotorOnLines.atZero (GpioState.boot files levels)) is) := by
  have h_run : ∀ m : MotorOnLines ο, GpioKept m.gpio →
      (run MotorLineStep.exec m is).motor = run MotorCall.exec m.motor (callsOf m is) := by
    induction is with
    | nil => exact fun m _ => rfl
    | cons i is ih =>
      intro m h
      obtain ⟨h_kept, h_motor⟩ := i.exec_refines h
      unfold callsOf
      rw [run_append, ← h_motor, run_cons]
      exact ih _ h_kept
  exact h_run _ (GpioKept.boot files levels)

end Door

end DoorSystem
