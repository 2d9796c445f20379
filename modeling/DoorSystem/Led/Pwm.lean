import DoorSystem.Lib.CInt
import DoorSystem.Lib.Run

/-!
# Programming the PWM of a LED

`PWM_setFrequency` writes the files of a PWM channel: it disables the output, writes the period,
writes the duty cycle and enables the output. The driver refuses a period below the duty cycle it
holds. The comment in the source starts with a duty cycle of 0, which is never written, so a shorter
period meets the duty cycle of the call before. `pwmLegal_iff` says which sequences of calls go
through.
-/

namespace DoorSystem

open CLib

namespace Led

/-! ### The files and the device -/

/-- The files of a PWM channel. -/
inductive PwmFile
  | dutyCycle
  | period
  | enable
deriving DecidableEq

/-- A value written to one of the files. -/
structure PwmWrite where
  file : PwmFile
  value : ℤ
deriving DecidableEq

/-- What the device holds. -/
structure PwmDevice where
  dutyCycle : ℤ
  period : ℤ
  enable : ℤ

/-- The device after a write. -/
def PwmDevice.write (d : PwmDevice) (w : PwmWrite) : PwmDevice :=
  match w.file with
  | .dutyCycle => { d with dutyCycle := w.value }
  | .period => { d with period := w.value }
  | .enable => { d with enable := w.value }

def PwmDevice.initial : PwmDevice := ⟨0, 0, 0⟩

/-- The duty cycle is at most the period. -/
def PwmDevice.Legal (d : PwmDevice) : Prop := d.dutyCycle ≤ d.period

/-- The writes that the driver refuses. -/
def PwmDevice.Refuses (d : PwmDevice) (w : PwmWrite) : Prop :=
  match w.file with
  | .dutyCycle => d.period < w.value
  | .period => w.value < d.dutyCycle
  | .enable => False

/-- A refused write is one that would break the device. -/
theorem PwmDevice.refuses_iff {d : PwmDevice} (h : d.Legal) (w : PwmWrite) :
    d.Refuses w ↔ ¬ (d.write w).Legal := by
  obtain ⟨file, value⟩ := w
  cases file with
  | dutyCycle => exact not_le.symm
  | period => exact not_le.symm
  | enable => exact iff_of_false not_false (not_not_intro h)

/-! ### The calls -/

/-- A call of `PWM_setFrequency`, and whether each of its writes finds its file. -/
structure PwmCall where
  Hz : ℤ
  dutyCyclePercent : ℤ
  disableOk : Bool
  periodOk : Bool
  dutyCycleOk : Bool
  enableOk : Bool

/-- `writeToFile` with its result. -/
def writeToFile (ok : Bool) (file : PwmFile) (value : ℤ) : List PwmWrite × Bool :=
  if ok then ([⟨file, value⟩], true) else ([], false)

/-- `PWM_setDutyCycle`. -/
def pwmSetDutyCycle (ok : Bool) (dutyCycle : ℤ) : List PwmWrite × Bool :=
  writeToFile ok .dutyCycle dutyCycle

/-- `PWM_setPeriod`. -/
def pwmSetPeriod (ok : Bool) (period : ℤ) : List PwmWrite × Bool := writeToFile ok .period period

/-- `PWM_enable`. -/
def pwmEnable (ok : Bool) : List PwmWrite × Bool := writeToFile ok .enable 1

/-- `PWM_disable`. -/
def pwmDisable (ok : Bool) : List PwmWrite × Bool := writeToFile ok .enable 0

def NSEC : ℕ := 1000000000

/-- The frequency in the supported range. -/
def clampHz (Hz : ℤ) : ℤ :=
  let Hz := if Hz < 0 then 0 else Hz
  if Hz > 500 then 500 else Hz

/-- `PWM_setFrequency` with its result. -/
def pwmSetFrequency (c : PwmCall) : List PwmWrite × Bool :=
  if c.dutyCyclePercent < 0 ∨ c.dutyCyclePercent > 100 then ([], false)
  else
    let Hz := clampHz c.Hz
    if Hz = 0 then pwmDisable c.disableOk
    else
      let period_ull : ℕ := NSEC / Hz.toNat
      let duty_ull : ℕ := (period_ull * c.dutyCyclePercent.toNat) % 2 ^ 64 / 100
      let (w₀, ok) := pwmDisable c.disableOk
      if !ok then (w₀, false)
      else
        let (w₁, ok) := pwmSetPeriod c.periodOk (toInt32 period_ull)
        if !ok then (w₀ ++ w₁, false)
        else
          let (w₂, ok) := pwmSetDutyCycle c.dutyCycleOk (toInt32 duty_ull)
          if !ok then (w₀ ++ w₁ ++ w₂, false)
          else
            -- the result of the last write is not looked at
            let (w₃, _) := pwmEnable c.enableOk
            (w₀ ++ w₁ ++ w₂ ++ w₃, true)

/-- What a sequence of calls writes. -/
def pwmWrites (calls : List PwmCall) : List PwmWrite := calls.flatMap fun c => (pwmSetFrequency c).1

/-- The device after a sequence of calls. -/
def pwmDevice (calls : List PwmCall) : PwmDevice :=
  run PwmDevice.write PwmDevice.initial (pwmWrites calls)

/-- **Reprogramming is legal**: after each write the duty cycle is at most the period, and no write
is refused. -/
structure PwmLegal (calls : List PwmCall) : Prop where
  legal : AlwaysAlong PwmDevice.write PwmDevice.Legal PwmDevice.initial (pwmWrites calls)
  accepted : ∀ ws w, ws ++ [w] <+: pwmWrites calls →
    ¬ (run PwmDevice.write PwmDevice.initial ws).Refuses w

/-! ### What one call writes -/

/-- The call comes to write a period. -/
structure PwmCall.Reprograms (c : PwmCall) : Prop where
  percent : 0 ≤ c.dutyCyclePercent ∧ c.dutyCyclePercent ≤ 100
  on : 0 < c.Hz
  disableOk : c.disableOk = true
  periodOk : c.periodOk = true

/-- The period of the frequency asked for, in nanoseconds. -/
def PwmCall.newPeriod (c : PwmCall) : ℤ := NSEC / min c.Hz 500

/-- The part of it that the percentage asks for. -/
def PwmCall.newDutyCycle (c : PwmCall) : ℤ := c.newPeriod * c.dutyCyclePercent / 100

theorem PwmCall.newPeriod_mem {c : PwmCall} (h_on : 0 < c.Hz) :
    0 ≤ c.newPeriod ∧ c.newPeriod ≤ NSEC := by
  have h_pos : 0 < min c.Hz 500 := lt_min h_on (by norm_num)
  constructor
  · exact Int.ediv_nonneg (by decide) h_pos.le
  · exact Int.ediv_le_self _ (by decide)

theorem PwmCall.newDutyCycle_mem {c : PwmCall} (h : c.Reprograms) :
    0 ≤ c.newDutyCycle ∧ c.newDutyCycle ≤ c.newPeriod := by
  obtain ⟨h_nonneg, -⟩ := newPeriod_mem h.on
  obtain ⟨h_lo, h_hi⟩ := h.percent
  have h_prod : c.newPeriod * c.dutyCyclePercent ≤ c.newPeriod * 100 :=
    mul_le_mul_of_nonneg_left h_hi h_nonneg
  have h_prod_nonneg : 0 ≤ c.newPeriod * c.dutyCyclePercent := mul_nonneg h_nonneg h_lo
  unfold newDutyCycle
  omega

theorem clampHz_eq (Hz : ℤ) : clampHz Hz = if 0 < Hz then min Hz 500 else 0 := by
  unfold clampHz
  dsimp only
  split_ifs <;> omega

/-- The casts and the product lose nothing. -/
theorem PwmCall.programmed {c : PwmCall} (h : c.Reprograms) :
    toInt32 (NSEC / (clampHz c.Hz).toNat : ℕ) = c.newPeriod ∧
      toInt32 (NSEC / (clampHz c.Hz).toNat * c.dutyCyclePercent.toNat % 2 ^ 64 / 100 : ℕ)
        = c.newDutyCycle := by
  obtain ⟨h_nonneg, h_le⟩ := newPeriod_mem h.on
  obtain ⟨h_duty_nonneg, h_duty_le⟩ := newDutyCycle_mem h
  obtain ⟨h_lo, h_hi⟩ := h.percent
  have h_clamp : ((clampHz c.Hz).toNat : ℤ) = min c.Hz 500 := by
    rw [clampHz_eq, if_pos h.on, Int.toNat_of_nonneg (le_min h.on.le (by norm_num))]
  have h_period : ((NSEC / (clampHz c.Hz).toNat : ℕ) : ℤ) = c.newPeriod := by
    rw [Int.natCast_ediv, h_clamp]
    rfl
  have h_bound : c.newPeriod ≤ 1000000000 := h_le
  -- 64 bits are far more than the product needs
  have h_product : NSEC / (clampHz c.Hz).toNat * c.dutyCyclePercent.toNat < 2 ^ 64 := by
    have h_percent : c.dutyCyclePercent.toNat ≤ 100 := by omega
    have h_nat : NSEC / (clampHz c.Hz).toNat ≤ 1000000000 := by omega
    calc NSEC / (clampHz c.Hz).toNat * c.dutyCyclePercent.toNat
        ≤ 1000000000 * 100 := Nat.mul_le_mul h_nat h_percent
      _ < 2 ^ 64 := by norm_num
  refine ⟨?_, ?_⟩
  · rw [h_period]
    exact toInt32_of_inInt ⟨by omega, by omega⟩
  · rw [Nat.mod_eq_of_lt h_product, Int.natCast_ediv, Nat.cast_mul, h_period,
      Int.toNat_of_nonneg h_lo]
    exact toInt32_of_inInt (x := c.newDutyCycle) ⟨by omega, by omega⟩

theorem clampHz_ne_zero {Hz : ℤ} (h_on : 0 < Hz) : clampHz Hz ≠ 0 := by
  have h_pos : 0 < min Hz 500 := lt_min h_on (by norm_num)
  rw [clampHz_eq, if_pos h_on]
  omega

/-- A call with valid arguments writes up to the first file that it cannot open. -/
theorem pwmSetFrequency_eq {c : PwmCall} (h_percent : 0 ≤ c.dutyCyclePercent ∧
    c.dutyCyclePercent ≤ 100) (h_on : 0 < c.Hz) :
    pwmSetFrequency c =
      if c.disableOk then
        if c.periodOk then
          if c.dutyCycleOk then
            (⟨.enable, 0⟩ :: ⟨.period, c.newPeriod⟩ :: ⟨.dutyCycle, c.newDutyCycle⟩ ::
              (if c.enableOk then [⟨.enable, 1⟩] else []), true)
          else ([⟨.enable, 0⟩, ⟨.period, c.newPeriod⟩], false)
        else ([⟨.enable, 0⟩], false)
      else ([], false) := by
  unfold pwmSetFrequency
  rw [if_neg (by omega)]
  dsimp only
  rw [if_neg (clampHz_ne_zero h_on)]
  cases h_disable : c.disableOk with
  | false => rfl
  | true =>
    cases h_periodOk : c.periodOk with
    | false => rfl
    | true =>
      -- only here do the two values matter
      obtain ⟨h_period, h_duty⟩ := PwmCall.programmed ⟨h_percent, h_on, h_disable, h_periodOk⟩
      rw [h_period, h_duty]
      cases c.dutyCycleOk with
      | false => rfl
      | true => cases c.enableOk <;> rfl

/-- The writes of a call that comes to the period. -/
theorem pwmSetFrequency_of_reprograms {c : PwmCall} (h : c.Reprograms) :
    (pwmSetFrequency c).1 = ⟨.enable, 0⟩ :: ⟨.period, c.newPeriod⟩ ::
      (if c.dutyCycleOk then ⟨.dutyCycle, c.newDutyCycle⟩ ::
        (if c.enableOk then [⟨.enable, 1⟩] else []) else []) := by
  rw [pwmSetFrequency_eq h.percent h.on, if_pos h.disableOk, if_pos h.periodOk]
  cases c.dutyCycleOk <;> rfl

/-- Another call writes at most that the output is disabled. -/
theorem pwmSetFrequency_of_not_reprograms {c : PwmCall} (h : ¬ c.Reprograms) :
    (pwmSetFrequency c).1 = [] ∨ (pwmSetFrequency c).1 = [⟨.enable, 0⟩] := by
  by_cases h_percent : 0 ≤ c.dutyCyclePercent ∧ c.dutyCyclePercent ≤ 100
  · by_cases h_on : 0 < c.Hz
    · -- the call gives up at one of its first two writes
      rw [pwmSetFrequency_eq h_percent h_on]
      cases h_ok : c.disableOk with
      | false => exact Or.inl rfl
      | true =>
        cases h_periodOk : c.periodOk with
        | false => exact Or.inr rfl
        | true => exact absurd ⟨h_percent, h_on, h_ok, h_periodOk⟩ h
    · -- 0 Hz turns the LED off
      have h_off : clampHz c.Hz = 0 := by rw [clampHz_eq, if_neg h_on]
      unfold pwmSetFrequency
      rw [if_neg (by omega)]
      dsimp only
      rw [if_pos h_off]
      cases c.disableOk with
      | false => exact Or.inl rfl
      | true => exact Or.inr rfl
  · unfold pwmSetFrequency
    rw [if_pos (by omega)]
    exact Or.inl rfl

/-- **Step.** From a legal device, a call is legal when its period is not below the duty cycle that
the device holds. -/
theorem alwaysLegal_call_iff {d : PwmDevice} (h_d : d.Legal) (c : PwmCall) :
    AlwaysAlong PwmDevice.write PwmDevice.Legal d (pwmSetFrequency c).1 ↔
      (c.Reprograms → d.dutyCycle ≤ c.newPeriod) := by
  by_cases h : c.Reprograms
  · have h_duty : c.newDutyCycle ≤ c.newPeriod := (PwmCall.newDutyCycle_mem h).2
    rw [pwmSetFrequency_of_reprograms h, alwaysAlong_cons, alwaysAlong_cons]
    constructor
    · rintro ⟨-, -, h_rest⟩ -
      -- right after the write of the period
      exact h_rest [] List.nil_prefix
    · intro h_fits
      refine ⟨h_d, h_d, ?_⟩
      -- the duty cycle is still the old one, or a part of the new period
      cases c.dutyCycleOk with
      | false => exact alwaysAlong_nil.mpr (h_fits h)
      | true =>
        refine alwaysAlong_cons.mpr ⟨h_fits h, ?_⟩
        cases c.enableOk with
        | false => exact alwaysAlong_nil.mpr h_duty
        | true => exact alwaysAlong_cons.mpr ⟨h_duty, alwaysAlong_nil.mpr h_duty⟩
  · refine iff_of_true ?_ (fun h_c => absurd h_c h)
    obtain h_none | h_disable := pwmSetFrequency_of_not_reprograms h
    · rw [h_none]
      exact alwaysAlong_nil.mpr h_d
    · rw [h_disable]
      exact alwaysAlong_cons.mpr ⟨h_d, alwaysAlong_nil.mpr h_d⟩

/-! ### Sequences of calls -/

/-- A legal run is one without a refused write. -/
theorem accepted_of_legal {calls : List PwmCall}
    (h : AlwaysAlong PwmDevice.write PwmDevice.Legal PwmDevice.initial (pwmWrites calls)) :
    PwmLegal calls := by
  refine ⟨h, fun ws w h_ws h_refused => ?_⟩
  have h_before := h ws ((List.prefix_append ws [w]).trans h_ws)
  have h_after := h (ws ++ [w]) h_ws
  rw [run_append] at h_after
  exact (PwmDevice.refuses_iff h_before w).mp h_refused h_after

/-- **Reprogramming is legal** exactly when no call brings a period below the duty cycle that the
device holds then. -/
theorem pwmLegal_iff (calls : List PwmCall) :
    PwmLegal calls ↔ ∀ pre c post, calls = pre ++ c :: post → c.Reprograms →
      (pwmDevice pre).dutyCycle ≤ c.newPeriod := by
  have h_initial : PwmDevice.initial.Legal := le_refl (0 : ℤ)
  have h_blocks := alwaysAlong_flatMap_iff (fun _ c h_d => alwaysLegal_call_iff h_d c) h_initial
    calls
  constructor
  · intro h
    exact h_blocks.mp h.legal
  · intro h
    exact accepted_of_legal (h_blocks.mpr h)

/-- A call whose writes find their files. -/
def pwmCall (Hz dutyCyclePercent : ℤ) : PwmCall := ⟨Hz, dutyCyclePercent, true, true, true, true⟩

/-- The calls for the red LED in `LED_lock_failure_sequence`. -/
def lockFailureCalls : List PwmCall := [pwmCall 10 90, pwmCall 2 50]

/-- The second lock failure in a row goes from 2 Hz to 10 Hz. -/
theorem not_pwmLegal : ¬ ∀ calls : List PwmCall, PwmLegal calls := by
  intro h_all
  have h_legal := (h_all (lockFailureCalls ++ lockFailureCalls)).legal
  -- the second write of the third call is that of its period
  have h_state := h_legal ((pwmWrites (lockFailureCalls ++ lockFailureCalls)).take 10)
    (List.take_prefix _ _)
  revert h_state
  unfold PwmDevice.Legal
  decide +kernel

end Led

end DoorSystem
