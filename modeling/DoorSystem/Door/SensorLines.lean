import DoorSystem.Door.LineStart
import DoorSystem.Door.Sensor

/-!
# The sensor on its lines

`get_distance` reaches the sensor through two lines of the GPIO chips: it writes its pulse to the
trigger line and polls the echo line. `getDistanceLines_refines` says that on any lines the result
is the one of `getDistanceTimed`, where the writes fail unless the trigger line is an output and the
reads fail unless the echo line is an input. No other line changes its level.
-/

namespace DoorSystem

open CLib Hal

namespace Door

variable {ο : Type}

/-! ### A call of `get_distance` -/

/-- The values of the trigger pulse. -/
def pulseValue : Fin 3 → ℤ := ![0, 1, 0]

/-- Writes of the pulse, up to the first one that fails. -/
def pulseLines (ok : Fin 3 → Bool) : List (Fin 3) → GpioState ο → GpioState ο × Bool
  | [], s => (s, true)
  | i :: is, s =>
    let (s, done) := writePinValue 1 33 (pulseValue i) (ok i) s
    if done then pulseLines ok is s else (s, false)

/-- A read of the echo line, where the outside has put a level on it. The system call fails where
there is none. -/
def readEcho (level : Option Bool) (s : GpioState ο) : ℤ :=
  readPinValue 2 8 level.isSome (stepGpio s (.drive echoPin (level.getD false)))

section Poll

variable {start : ℤ}

/-- A polling loop of `get_distance` from its `i`-th read on. -/
def pollEcho (target : ℤ) (p : Polls POLL_US start) (s : GpioState ο) :
    ℕ → ℕ → Option (PollEnd × ℕ)
  | 0, _ => none
  | fuel + 1, i =>
    let v := readEcho (p.value i) s
    if v < 0 then some (.error, i)
    else if v = target then some (.edge, i)
    else if TIMEOUT_US < p.clock i - start then some (.timeout, i)
    else pollEcho target p s fuel (i + 1)

/-- The loop, which ends within its bound. -/
def waitEcho (target : ℤ) (p : Polls POLL_US start) (s : GpioState ο) : PollEnd :=
  ((pollEcho target p s (MAX_POLLS + 1) 0).getD (.timeout, MAX_POLLS)).1

end Poll

/-- `get_distance` on the lines. -/
def getDistanceLines (m : Measurement) (s : GpioState ο) : GpioState ο × ℤ :=
  let (s, done) := pulseLines m.trigger (List.finRange 3) s
  if !done then (s, -1)
  else (s, match waitEcho 1 m.rising s with
    | .error => -1
    | .timeout => -1
    | .edge =>
      match waitEcho 0 m.falling s with
      | .error => -1
      | .timeout => -1
      | .edge =>
        let pulseUs := m.tEnd - m.tStart
        if pulseUs < 100 ∨ 60000 < pulseUs then -1 else pulseUs * 1716 / 100000)

/-! ### What the lines let through -/

/-- The trigger line is configured as an output. -/
def trigOut (s : GpioState ο) : Bool := s.bank.mode trigPin = some true

/-- The echo line is configured as an input. -/
def echoIn (s : GpioState ο) : Bool := s.bank.mode echoPin = some false

/-- The measurement as the lines let it through. -/
def Measurement.onLines (s : GpioState ο) (m : Measurement) : Measurement where
  trigger i := trigOut s && m.trigger i
  waitStart := m.waitStart
  rising := m.rising.gated (echoIn s)
  tStart := m.tStart
  falling := m.falling.gated (echoIn s)
  tEnd := m.tEnd

theorem trigOut_frame {ps : Set Pin} {s s' : GpioState ο} (h : LinesFrame ps s s') :
    trigOut s' = trigOut s := by
  unfold trigOut
  rw [h.mode]

theorem echoIn_frame {ps : Set Pin} {s s' : GpioState ο} (h : LinesFrame ps s s') :
    echoIn s' = echoIn s := by
  unfold echoIn
  rw [h.mode]

theorem pinOf_trig : pinOf 1 33 = some trigPin := rfl

theorem pinOf_echo : pinOf 2 8 = some echoPin := rfl

/-! ### The sensor on the lines is the sensor -/

/-- A write to the trigger line. -/
theorem writePinValue_trig {s : GpioState ο} (h : GpioKept s) (value : ℤ) (ok : Bool) :
    (writePinValue 1 33 value ok s).2 = (trigOut s && ok) ∧
      LinesFrame {trigPin} s (writePinValue 1 33 value ok s).1 := by
  obtain ⟨h_bank, h_done⟩ := Prod.ext_iff.mp (writePinValue_refines h pinOf_trig value ok)
  obtain ⟨levels, h_frame⟩ := writePinValue_frame 1 33 value ok s
  have h_levels : levels = (s.bank.write trigPin (value ≠ 0) ok).1.levels := by
    rw [← h_bank, h_frame]
    rfl
  dsimp only at h_done
  rw [h_done, h_frame, h_levels]
  unfold PinBank.write trigOut
  by_cases h_ok : ok = true ∧ s.bank.mode trigPin = some true
  · -- an output whose write succeeds
    rw [if_pos h_ok]
    refine ⟨by simp [h_ok], ⟨rfl, rfl, rfl, fun p h_p => ?_⟩⟩
    exact Function.update_of_ne h_p _ _
  · -- no output, or the write fails
    rw [if_neg h_ok]
    refine ⟨?_, ⟨rfl, rfl, rfl, fun _ _ => rfl⟩⟩
    have h_not : ¬ (decide (s.bank.mode trigPin = some true) && ok) = true := by
      simpa [and_comm] using h_ok
    exact (Bool.eq_false_iff.mpr h_not).symm

/-- The pulse. -/
theorem pulseLines_spec (ok : Fin 3 → Bool) (is : List (Fin 3)) {s : GpioState ο}
    (h : GpioKept s) :
    (pulseLines ok is s).2 = is.all (fun i => trigOut s && ok i) ∧
      LinesFrame {trigPin} s (pulseLines ok is s).1 := by
  induction is generalizing s with
  | nil => exact ⟨rfl, LinesFrame.refl _ s⟩
  | cons i is ih =>
    obtain ⟨h_done, h_frame⟩ := writePinValue_trig h (pulseValue i) (ok i)
    unfold pulseLines
    dsimp only
    rw [h_done, List.all_cons]
    split_ifs with h_ok
    · -- the pulse goes on
      obtain ⟨h_rest, h_frame'⟩ := ih (h_frame.kept h)
      rw [trigOut_frame h_frame] at h_rest
      rw [h_ok, Bool.true_and]
      exact ⟨h_rest, h_frame.trans h_frame'⟩
    · -- the first write that fails ends it
      rw [Bool.not_eq_true] at h_ok
      rw [h_ok, Bool.false_and]
      exact ⟨rfl, h_frame⟩

/-- **A read** of the echo line gives the level, if the line is an input. -/
theorem readEcho_eq {s : GpioState ο} (h : GpioKept s) (h_echo : s.bank.mode echoPin ≠ some true)
    (level : Option Bool) :
    readEcho level s = match level with
      | some v => if echoIn s then (v.toNat : ℤ) else -1
      | none => -1 := by
  have h_drive := (Prod.ext_iff.mp (execGpio_refines h (.drive echoPin (level.getD false)))).1
  -- the outside drives the line, which is no output of the program
  have h_bank : (stepGpio s (.drive echoPin (level.getD false))).bank
      = ⟨s.bank.mode, Function.update s.levels echoPin (level.getD false)⟩ := by
    refine h_drive.trans ?_
    unfold PinBank.exec
    dsimp only
    rw [if_neg h_echo]
    rfl
  unfold readEcho
  rw [readPinValue_refines (h.step _) pinOf_echo, h_bank]
  unfold PinBank.read
  simp only [Function.update_self]
  unfold echoIn
  rcases h_mode : s.bank.mode echoPin with _ | isOutput
  · -- not configured: the read fails
    cases level <;> simp
  · -- an input: the level is the driven one
    obtain rfl : isOutput = false := by
      rw [h_mode] at h_echo
      simpa using h_echo
    rcases level with _ | v
    · simp
    · cases v <;> simp

/-- **A polling loop** on the lines. -/
theorem pollEcho_eq {s : GpioState ο} (h : GpioKept s) (h_echo : s.bank.mode echoPin ≠ some true)
    (target : Bool) {start : ℤ} (p : Polls POLL_US start) (fuel i : ℕ) :
    pollEcho target.toNat p s fuel i
      = pollLoop TIMEOUT_US target (p.gated (echoIn s)) fuel i := by
  induction fuel generalizing i with
  | zero => rfl
  | succ fuel ih =>
    unfold pollEcho pollLoop Polls.gated
    dsimp only
    rw [readEcho_eq h h_echo, ih]
    cases echoIn s
    · cases p.value i <;> rfl
    · rcases p.value i with _ | v
      · rfl
      · cases v <;> cases target <;> rfl

theorem waitEcho_eq {s : GpioState ο} (h : GpioKept s) (h_echo : s.bank.mode echoPin ≠ some true)
    (target : Bool) {start : ℤ} (p : Polls POLL_US start) :
    waitEcho target.toNat p s
      = (pollWait TIMEOUT_US MAX_POLLS target (p.gated (echoIn s))).1 := by
  unfold waitEcho pollWait
  rw [pollEcho_eq h h_echo]

/-- **`get_distance` on the lines** is `get_distance` of what the lines let through, and moves no
other line. -/
theorem getDistanceLines_refines {s : GpioState ο} (h : GpioKept s)
    (h_echo : s.bank.mode echoPin ≠ some true) (m : Measurement) :
    (getDistanceLines m s).2 = getDistanceTimed (m.onLines s) ∧
      LinesFrame {trigPin} s (getDistanceLines m s).1 := by
  obtain ⟨h_done, h_frame⟩ := pulseLines_spec m.trigger (List.finRange 3) h
  have h_echo' : (pulseLines m.trigger (List.finRange 3) s).1.bank.mode echoPin ≠ some true := by
    -- the pulse leaves the echo line an input
    rw [h_frame.mode]
    exact h_echo
  have h_high := waitEcho_eq (h_frame.kept h) h_echo' true m.rising
  have h_low := waitEcho_eq (h_frame.kept h) h_echo' false m.falling
  rw [echoIn_frame h_frame] at h_high h_low
  change waitEcho 1 m.rising _ = (m.onLines s).waitHigh.1 at h_high
  change waitEcho 0 m.falling _ = (m.onLines s).waitLow.1 at h_low
  change _ = (List.finRange 3).all (m.onLines s).trigger at h_done
  unfold getDistanceLines getDistanceTimed
  dsimp only
  rw [h_done, h_high, h_low]
  cases (List.finRange 3).all (m.onLines s).trigger
  · -- a pulse that fails is the end, a pulse that succeeds is followed by the two waits
    exact ⟨rfl, h_frame⟩
  · exact ⟨rfl, h_frame⟩

end Door

end DoorSystem
