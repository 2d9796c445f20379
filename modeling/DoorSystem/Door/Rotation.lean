import DoorSystem.Door.StepperMotor
import DoorSystem.Lib.Run
import Mathlib.Data.Fintype.Pi
import Mathlib.Data.List.Chain
import Mathlib.Data.List.Induction
import Mathlib.Data.List.Range

/-!
# Where a rotation ends, and the steps on the way

`StepperMotor_Rotate` turns degrees into the nearest step and `StepperMotor_GetPosition` turns steps
into degrees and rounds down, so that a rotation that arrives reads the degree it was given or the
one before it (`flooredReading`). `rotation_lands` is the contract of a rotation from any position
that calls of the motor can reach.

The position counts steps, and the rotor follows the coils. The two agree as long as each counted
step energises the pattern after the one before it. A call always starts with the first of the eight
patterns, so what matters is whether the position is then a multiple of eight
(`stepsFollow_iff`).
-/

namespace DoorSystem

open CLib

namespace Door

/-! ### The calls of the motor -/

/-- The `export_pin` calls of `StepperMotor_Init`, up to the first one that fails. The kernel drives
a line low that is given as an output, as a write would. -/
def exportMotorPins (given : Fin 4 → Bool) (coils : Coils) : Coils × Bool :=
  writePins zeroPattern given (List.finRange 4) coils

/-- `StepperMotor_Init`, with the lines that its `export_pin` calls are given. -/
def stepperMotorInit (given ok : Fin 4 → Bool) (m : StepperMotor) : StepperMotor × Bool :=
  let (coils, exported) := exportMotorPins given m.coils
  if exported then { m with coils := coils }.init ok else ({ m with coils := coils }, false)

/-- `StepperMotor_ResetPosition`. -/
def StepperMotor.resetPosition (ok : Fin 4 → Bool) (m : StepperMotor) : StepperMotor × Bool :=
  let (coils, ok) := setMotorPins zeroPattern ok m.coils
  if ok then
    ({ currentStepPosition := 0, inRange := stepsPerRev_pos, coils := coils }, true)
  else ({ m with coils := coils }, false)

/-- A call of the motor, with the outcomes of its writes. -/
inductive MotorCall
  | init (given ok : Fin 4 → Bool)
  | rotate (targetDegrees : ℤ) (gpio : Gpio)
  | resetPosition (ok : Fin 4 → Bool)

/-- The motor after a call. -/
def MotorCall.exec (m : StepperMotor) : MotorCall → StepperMotor
  | .init given ok => (stepperMotorInit given ok m).1
  | .rotate targetDegrees gpio => (m.rotate targetDegrees gpio).motor
  | .resetPosition ok => (m.resetPosition ok).1

/-- The motor before the first call. -/
def StepperMotor.start (coils : Coils) : StepperMotor where
  currentStepPosition := 0
  inRange := stepsPerRev_pos
  coils := coils

/-- The motor after the calls `cs`. -/
def motorAfter (coils : Coils) (cs : List MotorCall) : StepperMotor :=
  run MotorCall.exec (StepperMotor.start coils) cs

/-! ### The contract of a rotation -/

/-- A rotation lands where it was asked to, in degrees that `reading` says. -/
structure RotationLands (reading : ℤ → ℤ) (m : StepperMotor) (t : ℤ) (gpio : Gpio) : Prop where
  /-- The position stays on the circle, also on the way. -/
  in_range : (m.rotate t gpio).motor.currentStepPosition < STEPS_PER_REV ∧
    ∀ p ∈ (m.rotate t gpio).steps, p < STEPS_PER_REV
  outside : t < 0 ∨ 360 < t → m.rotate t gpio = ⟨m, false, []⟩
  /-- A write that fails after `k` steps ends the rotation there. -/
  fails : 0 ≤ t ∧ t ≤ 360 → ∀ k < stepsNeeded t m, WritesOk gpio k → (∃ pin, gpio k pin = false) →
    (m.rotate t gpio).ok = false ∧
      (m.rotate t gpio).motor.currentStepPosition = (m.currentStepPosition + k) % STEPS_PER_REV ∧
      (m.rotate t gpio).steps
        = (List.range k).map (fun i => (m.currentStepPosition + 1 + i) % STEPS_PER_REV)
  /-- Otherwise the rotation goes forward for less than one turn and arrives. -/
  lands : 0 ≤ t ∧ t ≤ 360 → WritesOk gpio (stepsNeeded t m) →
    (m.rotate t gpio).ok = true ∧ stepsNeeded t m < STEPS_PER_REV ∧
      (m.rotate t gpio).steps = (List.range (stepsNeeded t m)).map
        (fun i => (m.currentStepPosition + 1 + i) % STEPS_PER_REV) ∧
      ((m.rotate t gpio).motor.getPosition : ℤ) = reading t

/-- A rotation that arrives stands at the step nearest to the target: the angle of the step is at
most half a step away. -/
structure ArrivesNearest (m : StepperMotor) (t : ℤ) (gpio : Gpio) : Prop where
  position : ((m.rotate t gpio).motor.currentStepPosition : ℤ)
    = targetStepPosition t % STEPS_PER_REV
  nearest : |360 * targetStepPosition t - STEPS_PER_REV * t| ≤ 180

/-- The degrees that the nearest step to `t` degrees reads: one less than asked for when that step
comes before the angle. -/
def flooredReading (t : ℤ) : ℤ :=
  if STEPS_PER_REV * t % 360 = 0 ∨ 180 ≤ STEPS_PER_REV * t % 360 then t % 360 else t % 360 - 1

theorem stepsNeeded_lt (t : ℤ) (m : StepperMotor) : stepsNeeded t m < STEPS_PER_REV := by
  unfold stepsNeeded STEPS_PER_REV
  omega

/-- The steps that are needed lead to the nearest step to the target. -/
theorem stepsNeeded_arrives {t : ℤ} (h_t : 0 ≤ t) (m : StepperMotor) :
    (((m.currentStepPosition + stepsNeeded t m) % STEPS_PER_REV : ℕ) : ℤ)
      = targetStepPosition t % STEPS_PER_REV := by
  have h_range := m.inRange
  have h_target : 0 ≤ targetStepPosition t := by
    unfold targetStepPosition STEPS_PER_REV
    omega
  unfold stepsNeeded
  unfold STEPS_PER_REV at *
  generalize targetStepPosition t = target at *
  omega

/-- The reading of the nearest step. -/
theorem reading_target {t : ℤ} (h_t : 0 ≤ t ∧ t ≤ 360) :
    targetStepPosition t % STEPS_PER_REV * 360 / STEPS_PER_REV = flooredReading t := by
  obtain ⟨h_lo, h_hi⟩ := h_t
  rcases eq_or_lt_of_le h_hi with rfl | h_lt
  · decide
  -- the angle is `rest` parts of a step after the step `steps`
  obtain ⟨steps, rest, h_steps, h_rest⟩ :
      ∃ steps rest, 4096 * t = 360 * steps + rest ∧ 4096 * t % 360 = rest :=
    ⟨4096 * t / 360, 4096 * t % 360, by omega, rfl⟩
  have h_day : t % 360 = t := Int.emod_eq_of_lt h_lo h_lt
  unfold flooredReading targetStepPosition STEPS_PER_REV
  push_cast
  rw [h_day]
  by_cases h_up : 180 ≤ rest
  · have h_near : (t * 4096 + 180) / 360 = steps + 1 := by omega
    rw [h_near, if_pos (Or.inr (h_rest ▸ h_up)), Int.emod_eq_of_lt (by omega) (by omega)]
    omega
  · have h_near : (t * 4096 + 180) / 360 = steps := by omega
    rw [h_near, Int.emod_eq_of_lt (by omega) (by omega)]
    split_ifs with h_exact
    · omega
    · omega

theorem abs_targetStepPosition_le (t : ℤ) :
    |360 * targetStepPosition t - STEPS_PER_REV * t| ≤ 180 := by
  rw [abs_le]
  unfold targetStepPosition STEPS_PER_REV
  push_cast
  -- the division rounds down, after half a step was added
  constructor <;> omega

/-- A rotation whose writes succeed arrives at the nearest step. -/
theorem rotate_arrivesNearest {t : ℤ} (h_t : 0 ≤ t ∧ t ≤ 360) {gpio : Gpio} {m : StepperMotor}
    (h_ok : WritesOk gpio (stepsNeeded t m)) : ArrivesNearest m t gpio where
  position := by
    rw [(rotate_of_writesOk h_t h_ok).1]
    exact stepsNeeded_arrives h_t.1 m
  nearest := abs_targetStepPosition_le t

/-- The contract holds from every position. -/
theorem rotationLands_floored (m : StepperMotor) (t : ℤ) (gpio : Gpio) :
    RotationLands flooredReading m t gpio := by
  refine ⟨?_, ?_, ?_, ?_⟩
  · refine ⟨(m.rotate t gpio).motor.inRange, fun p h_p => ?_⟩
    by_cases h_t : 0 ≤ t ∧ t ≤ 360
    · obtain ⟨j, -, -, h_steps, -⟩ := rotate_spec h_t gpio m
      rw [h_steps] at h_p
      obtain ⟨i, -, rfl⟩ := List.mem_map.mp h_p
      exact Nat.mod_lt _ stepsPerRev_pos
    · unfold StepperMotor.rotate at h_p
      rw [if_pos (by omega)] at h_p
      exact absurd h_p List.not_mem_nil
  · intro h_t
    exact if_pos h_t
  · intro h_t k h_k h_good h_bad
    obtain ⟨j, h_j, h_pos, h_steps, h_done, h_ok, h_stop⟩ := rotate_spec h_t gpio m
    -- the rotation takes the steps before its first failing write, and these are `k`
    obtain ⟨pin, h_pin⟩ := h_bad
    have h_le : j ≤ k := by
      by_contra h_lt
      rw [h_ok k (Nat.lt_of_not_le h_lt) pin] at h_pin
      exact absurd h_pin (by simp)
    have h_ge : k ≤ j := by
      by_contra h_lt
      obtain ⟨pin', h_pin'⟩ := h_stop (by omega)
      rw [h_good j (Nat.lt_of_not_le h_lt) pin'] at h_pin'
      exact absurd h_pin' (by simp)
    obtain rfl := Nat.le_antisymm h_le h_ge
    refine ⟨?_, h_pos, h_steps⟩
    rw [← Bool.not_eq_true, h_done]
    exact Nat.ne_of_lt h_k
  · intro h_t h_ok
    obtain ⟨-, h_steps, h_done⟩ := rotate_of_writesOk h_t h_ok
    refine ⟨h_done, stepsNeeded_lt t m, h_steps, ?_⟩
    calc ((m.rotate t gpio).motor.getPosition : ℤ)
        = ((m.rotate t gpio).motor.currentStepPosition : ℤ) * 360 / STEPS_PER_REV := rfl
      _ = targetStepPosition t % STEPS_PER_REV * 360 / STEPS_PER_REV := by
          rw [(rotate_arrivesNearest h_t h_ok).position]
      _ = flooredReading t := reading_target h_t

/-- **A rotation lands** from every position that the motor can reach, and when it arrives, at the
step nearest to its target. -/
theorem rotation_lands (coils : Coils) (cs : List MotorCall) (t : ℤ) (gpio : Gpio) :
    RotationLands flooredReading (motorAfter coils cs) t gpio ∧
      (0 ≤ t ∧ t ≤ 360 → WritesOk gpio (stepsNeeded t (motorAfter coils cs)) →
        ArrivesNearest (motorAfter coils cs) t gpio) :=
  ⟨rotationLands_floored _ t gpio, fun h_t h_ok => rotate_arrivesNearest h_t h_ok⟩

/-- A rotation to 1 degree stops at step 11, which reads 0. -/
theorem not_rotationLands : ¬ ∀ (coils : Coils) (cs : List MotorCall) (t : ℤ) (gpio : Gpio),
    RotationLands (fun t => t % 360) (motorAfter coils cs) t gpio := by
  intro h_all
  obtain ⟨-, -, -, h_reads⟩ := (h_all zeroPattern [] 1 (fun _ _ => true)).lands (by decide)
    (fun _ _ _ => rfl)
  exact absurd h_reads (by decide)

/-! ### The patterns on the coils -/

-- one proof for all patterns that are counted modulo eight
local instance neZero_eight : NeZero 8 := ⟨by decide⟩

/-- The patterns on the coils at the counted steps of `rotateLoop`. -/
def countedPatterns (gpio : Gpio) : ℕ → ℕ → StepperMotor → List Coils
  | 0, _, _ => []
  | n + 1, k, m =>
    let (coils, ok) := setMotorPins (halfstepSequence (Fin.ofNat 8 k)) (gpio k) m.coils
    if ok then coils :: countedPatterns gpio n (k + 1) (m.advance coils) else []

/-- A call of `StepperMotor_Rotate`, with the outcomes of its writes. -/
structure RotateCall where
  targetDegrees : ℤ
  gpio : Gpio

/-- The motor after a call. -/
def RotateCall.exec (m : StepperMotor) (c : RotateCall) : StepperMotor :=
  (m.rotate c.targetDegrees c.gpio).motor

/-- The patterns at the counted steps of a call. -/
def RotateCall.patterns (m : StepperMotor) (c : RotateCall) : List Coils :=
  if c.targetDegrees < 0 ∨ 360 < c.targetDegrees then []
  else countedPatterns c.gpio (stepsNeeded c.targetDegrees m) 0 m

/-- The patterns at the counted steps of the calls `cs`. -/
def patternsOf : StepperMotor → List RotateCall → List Coils
  | _, [] => []
  | m, c :: cs => c.patterns m ++ patternsOf (c.exec m) cs

/-- `q` comes after `p` in `halfstep_sequence`. -/
def Successor (p q : Coils) : Prop :=
  ∃ i : Fin 8, p = halfstepSequence i ∧ q = halfstepSequence (i + 1)

/-- **Counted steps are real steps**: each energises the pattern after that of the one before. -/
def StepsFollow (m : StepperMotor) (cs : List RotateCall) : Prop :=
  (patternsOf m cs).IsChain Successor

/-- The call counts a step: there is one to go, and the writes of the first one succeed. -/
def RotateCall.Counts (m : StepperMotor) (c : RotateCall) : Prop :=
  (0 ≤ c.targetDegrees ∧ c.targetDegrees ≤ 360) ∧ stepsNeeded c.targetDegrees m ≠ 0 ∧
    ∀ pin, c.gpio 0 pin = true

/-- Every call that counts a step starts at a multiple of eight. -/
def StartsAligned (m : StepperMotor) (cs : List RotateCall) : Prop :=
  ∀ pre c post, cs = pre ++ c :: post → c.Counts (run RotateCall.exec m pre) →
    (run RotateCall.exec m pre).currentStepPosition % 8 = 0

theorem halfstepSequence_injective : Function.Injective halfstepSequence := by
  have h_all : ∀ i j, halfstepSequence i = halfstepSequence j → i = j := by decide
  exact fun i j h => h_all i j h

theorem writePins_coils {pattern : Coils} {ok : Fin 4 → Bool} {is : List (Fin 4)} {coils : Coils}
    (h : (writePins pattern ok is coils).2 = true) (i : Fin 4) :
    (writePins pattern ok is coils).1 i = if i ∈ is then pattern i else coils i := by
  induction is generalizing coils with
  | nil => rfl
  | cons j is ih =>
    unfold writePins at h ⊢
    by_cases h_ok : ok j = true
    · rw [if_pos h_ok] at h ⊢
      rw [ih h]
      by_cases h_i : i = j
      · subst h_i
        simp
      · simp [h_i]
    · rw [if_neg h_ok] at h
      exact absurd h (by simp)

/-- When its writes succeed, `set_motor_pins` leaves the pattern on the coils. -/
theorem setMotorPins_coils {pattern : Coils} {ok : Fin 4 → Bool} {coils : Coils}
    (h : (setMotorPins pattern ok coils).2 = true) :
    (setMotorPins pattern ok coils).1 = pattern := by
  funext i
  unfold setMotorPins at h ⊢
  rw [writePins_coils h, if_pos (List.mem_finRange i)]

/-- The loop takes the patterns in their order, one for each step it counts. -/
theorem countedPatterns_eq (gpio : Gpio) (n k : ℕ) (m : StepperMotor) :
    countedPatterns gpio n k m = (List.range (rotateLoop gpio n k m).steps.length).map
      (fun i => halfstepSequence (Fin.ofNat 8 (k + i))) := by
  induction n generalizing k m with
  | zero => rfl
  | succ n ih =>
    unfold countedPatterns rotateLoop
    dsimp only
    split_ifs with h_ok
    · rw [ih, List.length_cons, List.range_succ_eq_map, List.map_cons, List.map_map]
      refine congrArg₂ List.cons (setMotorPins_coils h_ok) (List.map_congr_left (fun i _ => ?_))
      show halfstepSequence (Fin.ofNat 8 (k + 1 + i)) = halfstepSequence (Fin.ofNat 8 (k + (i + 1)))
      rw [Nat.add_assoc, Nat.add_comm 1 i]
    · rfl

/-- The first patterns of a call, in their order. -/
def firstPatterns (j : ℕ) : List Coils :=
  (List.range j).map (fun i => halfstepSequence (Fin.ofNat 8 i))

/-- **A call** counts some number of steps, and takes the patterns from the first one on. -/
theorem RotateCall.spec (m : StepperMotor) (c : RotateCall) :
    ∃ j, c.patterns m = firstPatterns j ∧
      (c.exec m).currentStepPosition = (m.currentStepPosition + j) % STEPS_PER_REV ∧
      (c.Counts m ↔ j ≠ 0) := by
  unfold RotateCall.patterns RotateCall.exec RotateCall.Counts
  by_cases h_t : c.targetDegrees < 0 ∨ 360 < c.targetDegrees
  · rw [if_pos h_t]
    refine ⟨0, rfl, ?_, ?_⟩
    · unfold StepperMotor.rotate
      rw [if_pos h_t]
      exact (Nat.mod_eq_of_lt m.inRange).symm
    · refine iff_of_false (fun h => ?_) (by simp)
      omega
  · have h_in : 0 ≤ c.targetDegrees ∧ c.targetDegrees ≤ 360 := by omega
    obtain ⟨j, h_j, h_pos, h_steps, -, h_good, h_bad⟩ := rotate_spec h_in c.gpio m
    rw [if_neg h_t]
    refine ⟨j, ?_, h_pos, ?_⟩
    · -- the steps of the loop are those of the rotation
      have h_loop : (rotateLoop c.gpio (stepsNeeded c.targetDegrees m) 0 m).steps.length = j := by
        have h_rotate : m.rotate c.targetDegrees c.gpio
            = rotateLoop c.gpio (stepsNeeded c.targetDegrees m) 0 m := if_neg h_t
        rw [← h_rotate, h_steps, List.length_map, List.length_range]
      rw [countedPatterns_eq, h_loop]
      unfold firstPatterns
      simp only [Nat.zero_add]
    · constructor
      · rintro ⟨-, h_needed, h_first⟩ rfl
        obtain ⟨pin, h_pin⟩ := h_bad (Nat.pos_of_ne_zero h_needed)
        rw [h_first pin] at h_pin
        exact absurd h_pin (by simp)
      · intro h_ne
        exact ⟨h_in, by omega, h_good 0 (Nat.pos_of_ne_zero h_ne)⟩

theorem isChain_firstPatterns (j : ℕ) : (firstPatterns j).IsChain Successor := by
  unfold firstPatterns
  rw [List.isChain_map, List.isChain_range]
  intro i _
  refine ⟨Fin.ofNat 8 i, rfl, ?_⟩
  congr 1
  apply Fin.ext
  simp [Fin.ofNat, Fin.val_add]

theorem getLast?_firstPatterns (j : ℕ) :
    (firstPatterns (j + 1)).getLast? = some (halfstepSequence (Fin.ofNat 8 j)) := by
  unfold firstPatterns
  rw [List.range_succ, List.map_append, List.map_singleton, List.getLast?_concat]

theorem head?_firstPatterns (j : ℕ) :
    (firstPatterns (j + 1)).head? = some (halfstepSequence 0) := by
  unfold firstPatterns
  rw [List.range_succ_eq_map]
  rfl

theorem patternsOf_concat (m : StepperMotor) (cs : List RotateCall) (c : RotateCall) :
    patternsOf m (cs ++ [c]) = patternsOf m cs ++ c.patterns (run RotateCall.exec m cs) := by
  induction cs generalizing m with
  | nil => simp [patternsOf]
  | cons c' cs ih => simp [patternsOf, ih]

/-- The position and the last pattern belong together, modulo eight. -/
inductive InPhase (patterns : List Coils) (position : ℕ) : Prop
  | fresh (h_none : patterns = []) (h_pos : position % 8 = 0)
  | after (i : Fin 8) (h_last : patterns.getLast? = some (halfstepSequence i))
    (h_pos : position % 8 = (i + 1 : ℕ) % 8)

/-- The first pattern comes after the last one only. -/
theorem wraps_iff : ∀ i : Fin 8, 0 = i + 1 ↔ (i + 1 : ℕ) % 8 = 0 := by decide

/-- A call may take the first pattern exactly when it starts at a multiple of eight. -/
theorem InPhase.junction {patterns : List Coils} {position : ℕ} (h : InPhase patterns position)
    (j : ℕ) : (∀ x ∈ patterns.getLast?, ∀ y ∈ (firstPatterns (j + 1)).head?, Successor x y) ↔
      position % 8 = 0 := by
  rw [head?_firstPatterns]
  cases h with
  | fresh h_none h_pos =>
    -- no pattern before: there is nothing to follow
    rw [h_none]
    exact iff_of_true (by simp) h_pos
  | after i h_last h_pos =>
    -- the patterns of a call start with the first one
    rw [h_last, h_pos]
    rw [← wraps_iff]
    constructor
    · -- the one before was the last of the table
      intro h_all
      obtain ⟨i', h_i, h_next⟩ := h_all _ rfl _ rfl
      obtain rfl := halfstepSequence_injective h_i
      exact halfstepSequence_injective h_next
    · intro h_wrap x h_x y h_y
      obtain rfl := Option.some.inj h_x
      obtain rfl := Option.some.inj h_y
      exact ⟨i, rfl, by rw [← h_wrap]⟩

/-- **Step.** A call that starts at a multiple of eight keeps the phase. -/
theorem InPhase.call {patterns : List Coils} {position j : ℕ} (h : InPhase patterns position)
    (h_lt : position < STEPS_PER_REV) (h_start : j ≠ 0 → position % 8 = 0) :
    InPhase (patterns ++ firstPatterns j) ((position + j) % STEPS_PER_REV) := by
  cases j with
  | zero =>
    have h_same : (position + 0) % STEPS_PER_REV = position := Nat.mod_eq_of_lt h_lt
    rw [h_same, show firstPatterns 0 = [] from rfl, List.append_nil]
    exact h
  | succ j =>
    have h_zero := h_start (Nat.succ_ne_zero j)
    refine .after (Fin.ofNat 8 j) ?_ ?_
    · rw [List.getLast?_append, getLast?_firstPatterns]
      rfl
    · show (position + (j + 1)) % STEPS_PER_REV % 8 = (j % 8 + 1) % 8
      unfold STEPS_PER_REV
      omega

theorem startsAligned_concat {m : StepperMotor} {cs : List RotateCall} {c : RotateCall} :
    StartsAligned m (cs ++ [c]) ↔ StartsAligned m cs ∧ (c.Counts (run RotateCall.exec m cs) →
      (run RotateCall.exec m cs).currentStepPosition % 8 = 0) :=
  forall_split_concat

/-- **Run.** The patterns follow each other exactly when the calls start at multiples of eight, and
then the position is in phase. -/
theorem stepsFollow_run {m : StepperMotor} (h_m : m.currentStepPosition = 0)
    (cs : List RotateCall) :
    (StepsFollow m cs ↔ StartsAligned m cs) ∧ (StepsFollow m cs →
      InPhase (patternsOf m cs) (run RotateCall.exec m cs).currentStepPosition) := by
  induction cs using List.reverseRecOn with
  | nil =>
    -- no call, no pattern
    refine ⟨iff_of_true List.isChain_nil ?_, fun _ => .fresh rfl (by simp [h_m])⟩
    intro pre c post h_eq
    exact absurd h_eq (by simp)
  | append_singleton cs c ih =>
    obtain ⟨h_iff, h_phase⟩ := ih
    obtain ⟨j, h_patterns, h_pos, h_counts⟩ := c.spec (run RotateCall.exec m cs)
    have h_run : run RotateCall.exec m (cs ++ [c]) = c.exec (run RotateCall.exec m cs) :=
      run_append _ _ _ _
    -- the patterns of the call follow each other; what counts is the place where they are joined
    have h_step : StepsFollow m (cs ++ [c]) ↔ StepsFollow m cs ∧
        (j ≠ 0 → (run RotateCall.exec m cs).currentStepPosition % 8 = 0) := by
      unfold StepsFollow
      rw [patternsOf_concat, h_patterns, List.isChain_append]
      refine and_congr_right (fun h_cs => ?_)
      cases j with
      | zero => simp [firstPatterns]
      | succ j =>
        rw [(h_phase h_cs).junction]
        exact ⟨fun h _ => h.2, fun h => ⟨isChain_firstPatterns _, h (Nat.succ_ne_zero j)⟩⟩
    constructor
    · rw [h_step, startsAligned_concat, h_iff, h_counts]
    · intro h_follow
      obtain ⟨h_cs, h_start⟩ := h_step.mp h_follow
      rw [patternsOf_concat, h_patterns, h_run, h_pos]
      exact (h_phase h_cs).call (run RotateCall.exec m cs).inRange h_start

/-- **Counted steps are real steps** exactly when every call that counts a step starts at a
position that is a multiple of eight. -/
theorem stepsFollow_iff (ok : Fin 4 → Bool) (m : StepperMotor) (cs : List RotateCall) :
    StepsFollow (m.init ok).1 cs ↔ StartsAligned (m.init ok).1 cs :=
  (stepsFollow_run rfl cs).1

/-- A rotation to 180 degrees that fails after three steps, and one more step towards the same
target: the coils go back to the first pattern. -/
theorem not_stepsFollow : ¬ ∀ (ok : Fin 4 → Bool) (m : StepperMotor) (cs : List RotateCall),
    StepsFollow (m.init ok).1 cs := by
  intro h_all
  have h_follow := h_all (fun _ => true) (StepperMotor.start zeroPattern)
    [⟨180, fun k _ => decide (k < 3)⟩, ⟨180, fun k _ => decide (k < 1)⟩]
  have h_patterns : patternsOf ((StepperMotor.start zeroPattern).init (fun _ => true)).1
      [⟨180, fun k _ => decide (k < 3)⟩, ⟨180, fun k _ => decide (k < 1)⟩]
      = [halfstepSequence 0, halfstepSequence 1, halfstepSequence 2, halfstepSequence 0] := by
    decide +kernel
  unfold StepsFollow at h_follow
  rw [h_patterns] at h_follow
  simp only [List.isChain_cons_cons] at h_follow
  obtain ⟨-, -, ⟨i, h_i, h_next⟩, -⟩ := h_follow
  obtain rfl := halfstepSequence_injective h_i
  exact absurd (halfstepSequence_injective h_next) (by decide)

end Door

end DoorSystem
