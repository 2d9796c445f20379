import DoorSystem.Door.Rotation

/-!
# Rotations that overlap

The command loop and the UDP listener of a door module are threads of one process, and both can be
in `StepperMotor_Rotate` at a time: nothing guards the motor. A call counts its own steps, and reads
the position only once, when it starts. So a call that overlaps with others ends as many steps past
its target as the others have made meanwhile, and still returns true (`rotations_overlap`).

The calls take turns in any way. A write to a pin and the update of the position are one step each.
A call that nothing overlaps does what `StepperMotor.rotate` says, whatever has happened before it
(`alone_eq_rotate`).
-/

namespace DoorSystem

open CLib

namespace Door

/-! ### Threads at the motor -/

/-- A call of `StepperMotor_Rotate` that has not returned. -/
structure RotateRun where
  targetDegrees : ℤ
  stepsNeeded : ℕ
  currentStep : ℕ
  /-- The pins of the current step that are written. -/
  pinsDone : ℕ
  /-- The position when the call started, and the steps taken until then. -/
  startPosition : ℕ
  startTaken : ℕ

/-- A call that has returned, with the position it has left and the steps that others made while it
ran. -/
structure RotateReturn (τ : Type) where
  thread : τ
  targetDegrees : ℤ
  ok : Bool
  position : ℕ
  others : ℕ

/-- A motor that the threads `τ` share, with the number of the steps so far and the returns. -/
structure SharedMotor (τ : Type) where
  motor : StepperMotor
  calls : τ → Option RotateRun
  taken : ℕ
  returns : List (RotateReturn τ)

/-- What a thread does. -/
inductive RotateEv (τ : Type)
  /-- It calls `StepperMotor_Rotate`. -/
  | enter (t : τ) (targetDegrees : ℤ)
  /-- It goes on with its call; `ok` is the outcome of a write. -/
  | resume (t : τ) (ok : Bool)

variable {τ : Type} [DecidableEq τ]

/-- The call of a thread returns. -/
def SharedMotor.return (t : τ) (c : RotateRun) (ok : Bool) (s : SharedMotor τ) : SharedMotor τ where
  motor := s.motor
  calls := Function.update s.calls t none
  taken := s.taken
  returns := s.returns ++ [{
    thread := t
    targetDegrees := c.targetDegrees
    ok := ok
    position := s.motor.currentStepPosition
    others := s.taken - c.startTaken - c.currentStep }]

/-- The pattern of the current step. -/
def RotateRun.pattern (c : RotateRun) : Coils := stepPattern c.currentStep

/-- The motor with other coils. -/
def StepperMotor.withCoils (coils : Coils) (m : StepperMotor) : StepperMotor :=
  { m with coils := coils }

/-- The next step of a call in the loop. -/
def SharedMotor.resume (t : τ) (c : RotateRun) (ok : Bool) (s : SharedMotor τ) : SharedMotor τ :=
  if c.currentStep < c.stepsNeeded then
    if h : c.pinsDone < 4 then
      if ok then
        { s with
          motor := s.motor.withCoils
            (Function.update s.motor.coils ⟨c.pinsDone, h⟩ (c.pattern ⟨c.pinsDone, h⟩))
          calls := Function.update s.calls t (some { c with pinsDone := c.pinsDone + 1 }) }
      else s.return t c false
    else
      { s with
        motor := s.motor.advance s.motor.coils
        calls := Function.update s.calls t
          (some { c with currentStep := c.currentStep + 1, pinsDone := 0 })
        taken := s.taken + 1 }
  else s.return t c true

/-- One step of one thread. -/
def execRotate (s : SharedMotor τ) : RotateEv τ → SharedMotor τ
  | .enter t targetDegrees =>
    match s.calls t with
    | some _ => s
    | none =>
      let c : RotateRun :=
        { targetDegrees := targetDegrees
          stepsNeeded := stepsNeeded targetDegrees s.motor
          currentStep := 0
          pinsDone := 0
          startPosition := s.motor.currentStepPosition
          startTaken := s.taken }
      if targetDegrees < 0 ∨ 360 < targetDegrees then s.return t c false
      else { s with calls := Function.update s.calls t (some c) }
  | .resume t ok =>
    match s.calls t with
    | some c => s.resume t c ok
    | none => s

/-- Nobody is at the motor. -/
def SharedMotor.idle (m : StepperMotor) : SharedMotor τ := ⟨m, fun _ => none, 0, []⟩

/-! ### What holds while calls overlap -/

/-- A call in progress: it has been given an angle of the circle, has made no more steps than it
needs, and its steps are among those that were taken since it started. -/
structure RunInv (start taken : ℕ) (c : RotateRun) : Prop where
  angle : 0 ≤ c.targetDegrees ∧ c.targetDegrees ≤ 360
  needed : ((c.startPosition + c.stepsNeeded : ℕ) : ℤ) % STEPS_PER_REV
    = targetStepPosition c.targetDegrees % STEPS_PER_REV
  step_le : c.currentStep ≤ c.stepsNeeded
  taken_le : c.startTaken + c.currentStep ≤ taken
  startPosition : c.startPosition = (start + c.startTaken) % STEPS_PER_REV

/-- A return with true has left the target as many steps behind as the others have made. -/
def ReturnsPast (r : RotateReturn τ) : Prop :=
  r.ok = true → (r.position : ℤ) % STEPS_PER_REV
    = (targetStepPosition r.targetDegrees + r.others) % STEPS_PER_REV

/-- The position counts all steps, and every call is in order. -/
structure OverlapInv (start : ℕ) (s : SharedMotor τ) : Prop where
  position : s.motor.currentStepPosition = (start + s.taken) % STEPS_PER_REV
  calls : ∀ t c, s.calls t = some c → RunInv start s.taken c
  returns : ∀ r ∈ s.returns, ReturnsPast r

omit [DecidableEq τ] in
theorem OverlapInv.idle (m : StepperMotor) :
    OverlapInv m.currentStepPosition (SharedMotor.idle (τ := τ) m) where
  position := (Nat.mod_eq_of_lt m.inRange).symm
  calls t c h := absurd h (by simp [SharedMotor.idle])
  returns r h := absurd h (by simp [SharedMotor.idle])

section Step

variable {start : ℕ} {s : SharedMotor τ}

/-- The calls after one of them has changed. -/
theorem OverlapInv.calls_update (h : OverlapInv start s) {taken : ℕ} (h_taken : s.taken ≤ taken)
    {t : τ} {x : Option RotateRun} (h_x : ∀ c, x = some c → RunInv start taken c) :
    ∀ t' c, Function.update s.calls t x t' = some c → RunInv start taken c := by
  intro t' c h_c
  by_cases h_t : t' = t
  · subst h_t
    rw [Function.update_self] at h_c
    exact h_x c h_c
  · rw [Function.update_of_ne h_t] at h_c
    have h_run := h.calls t' c h_c
    exact { h_run with taken_le := h_run.taken_le.trans h_taken }

/-- **A return.** -/
theorem OverlapInv.return (h : OverlapInv start s) (t : τ) {c : RotateRun} {ok : Bool}
    (h_c : ok = true → RunInv start s.taken c ∧ c.currentStep = c.stepsNeeded) :
    OverlapInv start (s.return t c ok) := by
  refine ⟨h.position, h.calls_update le_rfl (fun c h_eq => absurd h_eq (by simp)), ?_⟩
  intro r h_r
  rcases List.mem_append.mp h_r with h_r | h_r
  · exact h.returns r h_r
  · obtain rfl := List.mem_singleton.mp h_r
    intro h_ok
    obtain ⟨h_run, h_all⟩ := h_c h_ok
    have h_position := h.position
    have h_needed := h_run.needed
    have h_start := h_run.startPosition
    have h_taken := h_run.taken_le
    dsimp only
    unfold STEPS_PER_REV at *
    omega

/-- **Step.** -/
theorem OverlapInv.step (h : OverlapInv start s) (e : RotateEv τ) :
    OverlapInv start (execRotate s e) := by
  cases e with
  | enter t targetDegrees =>
    unfold execRotate
    dsimp only
    split
    · exact h
    · split_ifs with h_angle
      · exact h.return t (fun h_ok => absurd h_ok (by simp))
      · have h_arrives := stepsNeeded_arrives (t := targetDegrees) (by omega) s.motor
        refine ⟨h.position, h.calls_update le_rfl ?_, h.returns⟩
        rintro c ⟨rfl⟩
        exact
          { angle := by
              dsimp only
              omega
            needed := by
              rw [← h_arrives]
              unfold STEPS_PER_REV
              push_cast
              rfl
            step_le := Nat.zero_le _
            taken_le := le_rfl
            startPosition := h.position }
  | resume t ok =>
    unfold execRotate
    dsimp only
    split
    · next c h_c =>
      have h_run := h.calls t c h_c
      unfold SharedMotor.resume
      split_ifs with h_more h_pin h_ok
      · -- a pin is written
        refine ⟨h.position, h.calls_update le_rfl ?_, h.returns⟩
        rintro c' ⟨rfl⟩
        exact { h_run with }
      · exact h.return t (fun h_true => absurd h_true (by simp))
      · -- the step is counted
        refine ⟨?_, h.calls_update (Nat.le_succ _) ?_, h.returns⟩
        · have h_position := h.position
          show (s.motor.currentStepPosition + 1) % STEPS_PER_REV = _
          rw [h_position, Nat.mod_add_mod, Nat.add_assoc]
        · rintro c' ⟨rfl⟩
          have h_taken := h_run.taken_le
          exact { h_run with step_le := h_more, taken_le := by dsimp only; omega }
      · exact h.return t (fun _ => ⟨h_run, le_antisymm h_run.step_le (by omega)⟩)
    · exact h

end Step

/-- **Run.** -/
theorem OverlapInv.run (m : StepperMotor) (es : List (RotateEv τ)) :
    OverlapInv m.currentStepPosition (run execRotate (SharedMotor.idle m) es) :=
  run_invariant (OverlapInv m.currentStepPosition) (fun _ e h => h.step e) (OverlapInv.idle m) es

/-- In every interleaving the position counts all steps that were made, and a call that returns true
is at its target exactly when the steps of the others while it ran make up whole turns. -/
theorem overlap_returns (m : StepperMotor) (es : List (RotateEv τ)) :
    (run execRotate (SharedMotor.idle m) es).motor.currentStepPosition
        = (m.currentStepPosition + (run execRotate (SharedMotor.idle m) es).taken) % STEPS_PER_REV ∧
      ∀ r ∈ (run execRotate (SharedMotor.idle m) es).returns, r.ok = true →
        ((r.position : ℤ) % STEPS_PER_REV = targetStepPosition r.targetDegrees % STEPS_PER_REV
          ↔ STEPS_PER_REV ∣ r.others) := by
  have h := OverlapInv.run m es
  refine ⟨h.position, fun r h_r h_ok => ?_⟩
  have h_past := h.returns r h_r h_ok
  unfold STEPS_PER_REV at *
  omega

/-! ### A call without overlap -/

/-- The thread `t` goes on `n` times, with the outcomes `oks` from the `b`-th on. -/
def resumes (t : τ) (oks : ℕ → Bool) (b n : ℕ) : List (RotateEv τ) :=
  (List.range n).map (fun j => .resume t (oks (b + j)))

/-- The outcomes of the writes, when a call goes on with the outcomes `oks`: each step has four
writes, and is then counted. -/
def writesOf (oks : ℕ → Bool) : Gpio := fun k i => oks (5 * k + i)

omit [DecidableEq τ] in
theorem resumes_add (t : τ) (oks : ℕ → Bool) (b n n' : ℕ) :
    resumes t oks b (n + n') = resumes t oks b n ++ resumes t oks (b + n) n' := by
  unfold resumes
  rw [List.range_add, List.map_append, List.map_map]
  simp only [Nat.add_assoc]
  rfl

/-- The thread goes on `n` times, and has not returned before. -/
structure Resumes (t : τ) (oks : ℕ → Bool) (b n : ℕ) (s s' : SharedMotor τ) : Prop where
  reaches : run execRotate s (resumes t oks b n) = s'
  busy : ∀ j < n, (run execRotate s (resumes t oks b j)).calls t ≠ none

theorem Resumes.refl (t : τ) (oks : ℕ → Bool) (b : ℕ) (s : SharedMotor τ) :
    Resumes t oks b 0 s s :=
  ⟨rfl, fun j h_j => absurd h_j (Nat.not_lt_zero j)⟩

theorem Resumes.trans {t : τ} {oks : ℕ → Bool} {b n n' : ℕ} {s s' s'' : SharedMotor τ}
    (h : Resumes t oks b n s s') (h' : Resumes t oks (b + n) n' s' s'') :
    Resumes t oks b (n + n') s s'' := by
  constructor
  · rw [resumes_add, run_append, h.reaches, h'.reaches]
  · intro j h_j
    rcases Nat.lt_or_ge j n with h_lt | h_ge
    · exact h.busy j h_lt
    · -- the first `n` steps are over
      obtain ⟨j, rfl⟩ := Nat.exists_eq_add_of_le h_ge
      rw [resumes_add, run_append, h.reaches]
      exact h'.busy j (by omega)

/-- One step of a call. -/
theorem Resumes.one {t : τ} {oks : ℕ → Bool} {b : ℕ} {s : SharedMotor τ} {c : RotateRun}
    (h_c : s.calls t = some c) : Resumes t oks b 1 s (s.resume t c (oks b)) := by
  constructor
  · show execRotate s (.resume t (oks (b + 0))) = _
    unfold execRotate
    simp only [h_c, Nat.add_zero]
  · intro j h_j
    obtain rfl : j = 0 := by omega
    show s.calls t ≠ none
    rw [h_c]
    simp

/-- The thread `t` is in the call `c`, with the motor `m` after `taken` steps. -/
def SharedMotor.during (s : SharedMotor τ) (t : τ) (c : RotateRun) (m : StepperMotor)
    (taken : ℕ) : SharedMotor τ :=
  { s with motor := m, calls := Function.update s.calls t (some c), taken := taken }

/-- The thread `t` has returned from a rotation to `d` degrees with the result `ok`, and only its
own steps were made. -/
def SharedMotor.afterCall (s : SharedMotor τ) (t : τ) (d : ℤ) (r : Rotation) : SharedMotor τ where
  motor := r.motor
  calls := s.calls
  taken := s.taken + r.steps.length
  returns := s.returns ++ [⟨t, d, r.ok, r.motor.currentStepPosition, 0⟩]

section Alone

variable {s : SharedMotor τ} {t : τ} {c : RotateRun} {m : StepperMotor} {taken : ℕ}

/-- The thread goes on with its call. -/
theorem during_resume (s : SharedMotor τ) (t : τ) (c : RotateRun) (m : StepperMotor) (taken : ℕ)
    (oks : ℕ → Bool) (b : ℕ) : Resumes t oks b 1 (s.during t c m taken)
      ((s.during t c m taken).resume t c (oks b)) := by
  refine Resumes.one ?_
  unfold SharedMotor.during
  exact Function.update_self t (some c) s.calls

/-- The call goes on. -/
theorem during_update (c' : RotateRun) (m' : StepperMotor) (taken' : ℕ) :
    ({ s.during t c m taken with
        motor := m'
        calls := Function.update (s.during t c m taken).calls t (some c')
        taken := taken' } : SharedMotor τ) = s.during t c' m' taken' := by
  unfold SharedMotor.during
  dsimp only
  rw [Function.update_idem]

/-- A write to the next pin. -/
theorem resume_pin (h_more : c.currentStep < c.stepsNeeded) (h_pin : c.pinsDone < 4) :
    (s.during t c m taken).resume t c true = s.during t { c with pinsDone := c.pinsDone + 1 }
      (m.withCoils (Function.update m.coils ⟨c.pinsDone, h_pin⟩ (c.pattern ⟨c.pinsDone, h_pin⟩)))
      taken := by
  unfold SharedMotor.resume
  rw [if_pos h_more, dif_pos h_pin, if_pos rfl]
  exact during_update _ _ _

/-- A write to the next pin that fails. -/
theorem resume_pinFails (h_more : c.currentStep < c.stepsNeeded) (h_pin : c.pinsDone < 4) :
    (s.during t c m taken).resume t c false = (s.during t c m taken).return t c false := by
  unfold SharedMotor.resume
  rw [if_pos h_more, dif_pos h_pin, if_neg (by simp)]

/-- The step is counted after its four pins. -/
theorem resume_count (h_more : c.currentStep < c.stepsNeeded) (h_pin : c.pinsDone = 4) (ok : Bool) :
    (s.during t c m taken).resume t c ok
      = s.during t { c with currentStep := c.currentStep + 1, pinsDone := 0 } (m.advance m.coils)
        (taken + 1) := by
  unfold SharedMotor.resume
  rw [if_pos h_more, dif_neg (by omega)]
  exact during_update _ _ _

/-- The call returns, and no step but its own was made since it started. -/
theorem during_return (h_none : s.calls t = none) (h_taken : taken = c.startTaken + c.currentStep)
    (ok : Bool) : (s.during t c m taken).return t c ok
      = { motor := m, calls := s.calls, taken := taken,
          returns := s.returns ++ [⟨t, c.targetDegrees, ok, m.currentStepPosition, 0⟩] } := by
  have h_calls : Function.update s.calls t none = s.calls := by
    rw [← h_none]
    exact Function.update_eq_self t s.calls
  unfold SharedMotor.return SharedMotor.during
  dsimp only
  rw [Function.update_idem, h_calls, h_taken]
  simp

/-- The writes to the pins that are left, as `set_motor_pins` makes them. -/
theorem during_pins (h_none : s.calls t = none) (oks : ℕ → Bool) (b : ℕ) {ok : Fin 4 → Bool}
    (h_ok : ∀ i : Fin 4, ok i = oks (b + i)) (is : List (Fin 4)) (c : RotateRun) (m : StepperMotor)
    (h_more : c.currentStep < c.stepsNeeded) (h_taken : taken = c.startTaken + c.currentStep)
    (h_is : is = (List.finRange 4).drop c.pinsDone) (h_pins : c.pinsDone + is.length = 4) :
    if (writePins c.pattern ok is m.coils).2 = true then
      Resumes t oks (b + c.pinsDone) is.length (s.during t c m taken)
        (s.during t { c with pinsDone := 4 }
          (m.withCoils (writePins c.pattern ok is m.coils).1) taken)
    else ∃ n, Resumes t oks (b + c.pinsDone) n (s.during t c m taken)
      { motor := m.withCoils (writePins c.pattern ok is m.coils).1, calls := s.calls,
        taken := taken,
        returns := s.returns ++ [⟨t, c.targetDegrees, false, m.currentStepPosition, 0⟩] } := by
  induction is generalizing c m with
  | nil =>
    have h_all : c.pinsDone = 4 := h_pins
    unfold writePins
    rw [if_pos rfl, ← h_all]
    exact Resumes.refl t oks _ _
  | cons i is ih =>
    rw [List.length_cons] at h_pins
    have h_pin : c.pinsDone < 4 := by omega
    rw [List.drop_eq_getElem_cons (by simpa using h_pin)] at h_is
    obtain ⟨h_i, h_rest⟩ := List.cons.inj h_is
    have h_index : i = ⟨c.pinsDone, h_pin⟩ := by simpa using h_i
    have h_write : ok i = oks (b + c.pinsDone) := by rw [h_ok, h_index]
    have h_one := during_resume s t c m taken oks (b + c.pinsDone)
    rw [← h_write] at h_one
    unfold writePins
    by_cases h_good : ok i = true
    · -- this write succeeds, and the others follow
      rw [h_good, resume_pin h_more h_pin, ← h_index] at h_one
      have h_next := ih { c with pinsDone := c.pinsDone + 1 }
        (m.withCoils (Function.update m.coils i (c.pattern i)))
        h_more h_taken h_rest (by dsimp only; omega)
      rw [if_pos h_good]
      by_cases h_done :
          (writePins c.pattern ok is (Function.update m.coils i (c.pattern i))).2 = true
      · rw [if_pos h_done, List.length_cons, Nat.add_comm is.length 1]
        exact h_one.trans ((if_pos h_done).mp h_next)
      · rw [if_neg h_done]
        obtain ⟨n, h_n⟩ := (if_neg h_done).mp h_next
        exact ⟨1 + n, h_one.trans h_n⟩
    · rw [if_neg h_good, if_neg Bool.false_ne_true]
      rw [Bool.not_eq_true] at h_good
      rw [h_good, resume_pinFails h_more h_pin, during_return h_none h_taken] at h_one
      exact ⟨1, h_one⟩

/-- **The loop** without overlap, with `n` steps to go in its `k`-th step. -/
theorem during_loop (h_none : s.calls t = none) (oks : ℕ → Bool) (n k : ℕ) (c : RotateRun)
    (m : StepperMotor) (taken : ℕ) (h_step : c.currentStep = k) (h_needed : c.stepsNeeded = k + n)
    (h_pins : c.pinsDone = 0) (h_taken : taken = c.startTaken + c.currentStep) :
    ∃ N, Resumes t oks (5 * k) N (s.during t c m taken)
      { motor := (rotateLoop (writesOf oks) n k m).motor, calls := s.calls,
        taken := taken + (rotateLoop (writesOf oks) n k m).steps.length,
        returns := s.returns ++ [⟨t, c.targetDegrees, (rotateLoop (writesOf oks) n k m).ok,
          (rotateLoop (writesOf oks) n k m).motor.currentStepPosition, 0⟩] } := by
  induction n generalizing c m taken k with
  | zero =>
    -- all steps are made
    have h_one := during_resume s t c m taken oks (5 * k)
    unfold SharedMotor.resume at h_one
    rw [if_neg (by omega), during_return h_none h_taken] at h_one
    exact ⟨1, h_one⟩
  | succ n ih =>
    have h_more : c.currentStep < c.stepsNeeded := by omega
    have h_pattern : c.pattern = stepPattern k := by
      unfold RotateRun.pattern
      rw [h_step]
    have h_four := during_pins h_none oks (5 * k) (fun i : Fin 4 => (rfl : writesOf oks k i = _))
      (List.finRange 4) c m h_more h_taken (by rw [h_pins]; rfl) (by rw [h_pins]; rfl)
    rw [h_pattern, h_pins, Nat.add_zero] at h_four
    unfold rotateLoop setMotorPins
    dsimp only
    by_cases h_good :
        (writePins (stepPattern k) (writesOf oks k) (List.finRange 4) m.coils).2 = true
    · rw [if_pos h_good] at h_four ⊢
      -- four writes, the count of the step, and the rest of the loop
      have h_count := during_resume s t { c with pinsDone := 4 }
        (m.withCoils (writePins (stepPattern k) (writesOf oks k) (List.finRange 4) m.coils).1)
        taken oks (5 * k + 4)
      rw [resume_count (c := { c with pinsDone := 4 }) h_more rfl] at h_count
      obtain ⟨N, h_rest⟩ := ih (k + 1)
        { c with currentStep := c.currentStep + 1, pinsDone := 0 }
        (m.advance (writePins (stepPattern k) (writesOf oks k) (List.finRange 4) m.coils).1)
        (taken + 1) (by dsimp only; omega) (by dsimp only; omega) rfl (by dsimp only; omega)
      rw [Nat.add_assoc taken 1, Nat.add_comm 1] at h_rest
      exact ⟨4 + 1 + N, (h_four.trans h_count).trans h_rest⟩
    · rw [if_neg h_good] at h_four ⊢
      exact h_four

end Alone

/-- A call as it starts. -/
def enteredCall (s : SharedMotor τ) (d : ℤ) : RotateRun :=
  ⟨d, stepsNeeded d s.motor, 0, 0, s.motor.currentStepPosition, s.taken⟩

theorem execRotate_enter {s : SharedMotor τ} {t : τ} (h_none : s.calls t = none) (d : ℤ) :
    execRotate s (.enter t d)
      = if d < 0 ∨ 360 < d then s.return t (enteredCall s d) false
        else s.during t (enteredCall s d) s.motor s.taken := by
  unfold execRotate
  dsimp only
  rw [h_none]
  rfl

/-- The call of the thread `t`, with nobody else's steps in between. -/
def callEvents (t : τ) (d : ℤ) (oks : ℕ → Bool) (n : ℕ) : List (RotateEv τ) :=
  .enter t d :: resumes t oks 0 n

/-- **Without overlap** a call does what the model of the motor says, from any state of the motor
and its threads, and with any failures: it goes on until it returns, and then nothing has changed
but the motor. -/
theorem alone_eq_rotate (s : SharedMotor τ) {t : τ} (h_none : s.calls t = none) (d : ℤ)
    (oks : ℕ → Bool) :
    ∃ n, (∀ j < n, (run execRotate s (callEvents t d oks j)).calls t ≠ none) ∧
      run execRotate s (callEvents t d oks n)
        = s.afterCall t d (s.motor.rotate d (writesOf oks)) := by
  unfold StepperMotor.rotate callEvents
  by_cases h_angle : d < 0 ∨ 360 < d
  · -- the call returns at once
    refine ⟨0, fun j h_j => absurd h_j (Nat.not_lt_zero j), ?_⟩
    show execRotate s (.enter t d) = _
    have h_calls : Function.update s.calls t none = s.calls := by
      rw [← h_none]
      exact Function.update_eq_self t s.calls
    rw [execRotate_enter h_none, if_pos h_angle, if_pos h_angle]
    unfold SharedMotor.return SharedMotor.afterCall enteredCall
    dsimp only
    rw [h_calls, Nat.sub_self]
    rfl
  · rw [if_neg h_angle]
    obtain ⟨N, h_loop⟩ := during_loop h_none oks (stepsNeeded d s.motor) 0 (enteredCall s d) s.motor
      s.taken rfl (Nat.zero_add _).symm rfl rfl
    have h_enter := execRotate_enter h_none d
    rw [if_neg h_angle] at h_enter
    refine ⟨N, fun j h_j => ?_, ?_⟩
    · rw [run_cons, h_enter]
      exact h_loop.busy j h_j
    · rw [run_cons, h_enter]
      exact h_loop.reaches

/-- **Overlapping rotations.** In every interleaving of any number of threads, a call that returns
true is at its target exactly when the steps of the others while it ran make up whole turns. A call
that no other one overlaps is a rotation of the model, in whatever state it finds the motor. -/
theorem rotations_overlap (m : StepperMotor) :
    (∀ es : List (RotateEv τ),
      (run execRotate (SharedMotor.idle m) es).motor.currentStepPosition
          = (m.currentStepPosition + (run execRotate (SharedMotor.idle m) es).taken)
            % STEPS_PER_REV ∧
        ∀ r ∈ (run execRotate (SharedMotor.idle m) es).returns, r.ok = true →
          ((r.position : ℤ) % STEPS_PER_REV = targetStepPosition r.targetDegrees % STEPS_PER_REV
            ↔ STEPS_PER_REV ∣ r.others)) ∧
      ∀ (s : SharedMotor τ) (t : τ), s.calls t = none → ∀ (d : ℤ) (oks : ℕ → Bool),
        ∃ n, (∀ j < n, (run execRotate s (callEvents t d oks j)).calls t ≠ none) ∧
          run execRotate s (callEvents t d oks n)
            = s.afterCall t d (s.motor.rotate d (writesOf oks)) :=
  ⟨overlap_returns m, fun s _ h_none d oks => alone_eq_rotate s h_none d oks⟩

end Door

end DoorSystem
