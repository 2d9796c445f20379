import DoorSystem.Led.Pwm
import DoorSystem.Led.Queue
import DoorSystem.Lib.Register

/-!
# What the LEDs show

`led.c` has one sequence for each task of the worker: it programs the PWM channels of the two LEDs
one step after the other. The driver refuses some of these writes, and `writeToFile` does not
notice, since the refusal comes at `fclose`. So a sequence goes on as if it had been obeyed.

The sequences also go on when a file cannot be opened: `LED_init` starts the worker whether or not
the channels were exported.

`Setting` is a period with its duty cycle, and `Act` is what a sequence means for one LED: a
setting, or off. `taskSequence_acts` says that the sequences carry these out as far as the files of
the LED can be opened. What a run of the worker leaves on a LED follows from the tasks that it has
executed (`lights_show`). With all files there, the last act on the LED says whether it is on, the
duty cycle is the one programmed last, and the period is the one programmed last exactly when the
duty cycle programmed before fits into it. A LED whose period or duty cycle cannot be written is off
after the first act, and one that cannot be disabled stays as it was.
-/

namespace DoorSystem

open CLib

namespace Led

/-! ### The two channels -/

/-- `RED_LED` and `GREEN_LED`. -/
inductive LEDt
  | RED_LED
  | GREEN_LED
deriving DecidableEq

/-- The PWM channels of the LEDs. -/
abbrev Lights := LEDt → PwmDevice

/-- The files of the channels that can be opened. They are there from `PWM_export` on, which comes
before the worker, or not at all. -/
abbrev Files := LEDt → PwmFile → Bool

instance (d : PwmDevice) (w : PwmWrite) : Decidable (d.Refuses w) := by
  unfold PwmDevice.Refuses
  cases w.file <;> infer_instance

/-- The driver: a write that it refuses changes nothing. -/
def PwmDevice.accept (d : PwmDevice) (w : PwmWrite) : PwmDevice :=
  if d.Refuses w then d else d.write w

/-- Writes to the channel of a LED. -/
def Lights.writes (led : LEDt) (ws : List PwmWrite) (l : Lights) : Lights :=
  Function.update l led (run PwmDevice.accept (l led) ws)

/-- `PWM_setFrequency` on a LED. -/
def setFrequency (files : Files) (led : LEDt) (Hz dutyCyclePercent : ℤ) (l : Lights) :
    Lights × Bool :=
  let (ws, ok) := pwmSetFrequency
    { Hz := Hz
      dutyCyclePercent := dutyCyclePercent
      disableOk := files led .enable
      periodOk := files led .period
      dutyCycleOk := files led .dutyCycle
      enableOk := files led .enable }
  (l.writes led ws, ok)

/-- `PWM_disable` on a LED. -/
def disable (files : Files) (led : LEDt) (l : Lights) : Lights :=
  l.writes led (pwmDisable (files led .enable)).1

/-! ### The sequences -/

/-- `LED_set_green_steady`. -/
def ledSetGreenSteady (files : Files) (dutyPercent : ℤ) (l : Lights) : Lights :=
  (setFrequency files .GREEN_LED 1000 dutyPercent l).1

/-- `LED_blink_red_n`. The sleep before the LED is turned off is left out. -/
def ledBlinkRedN (files : Files) (flashes freqHz dutyPercent : ℤ) (l : Lights) : Lights :=
  if flashes ≤ 0 ∨ freqHz ≤ 0 then l
  else
    let (l, ok) := setFrequency files .RED_LED freqHz dutyPercent l
    if !ok then l else disable files .RED_LED l

/-- The slow flash that ends `LED_lock_failure_sequence` and others, or no light if it fails. -/
def slowFlash (files : Files) (led : LEDt) (l : Lights) : Lights :=
  let (l, ok) := setFrequency files led 2 50 l
  if !ok then disable files led l else l

/-- `LED_lock_success_sequence`. -/
def ledLockSuccessSequence (files : Files) (l : Lights) : Lights :=
  ledSetGreenSteady files 30 (ledBlinkRedN files 2 7 90 (disable files .GREEN_LED l))

/-- `LED_lock_failure_sequence`. -/
def ledLockFailureSequence (files : Files) (l : Lights) : Lights :=
  slowFlash files .RED_LED
    (ledBlinkRedN files 5 10 90 (disable files .RED_LED (disable files .GREEN_LED l)))

/-- `LED_unlock_success_sequence`. -/
def ledUnlockSuccessSequence (files : Files) (l : Lights) : Lights :=
  ledSetGreenSteady files 30
    (ledBlinkRedN files 2 7 90 (disable files .RED_LED (disable files .GREEN_LED l)))

/-- `LED_unlock_failure_sequence`. -/
def ledUnlockFailureSequence (files : Files) (l : Lights) : Lights :=
  slowFlash files .RED_LED
    (ledBlinkRedN files 5 10 90 (disable files .RED_LED (disable files .GREEN_LED l)))

/-- `LED_hub_command_success`. -/
def ledHubCommandSuccess (files : Files) (l : Lights) : Lights := ledSetGreenSteady files 50 l

/-- `LED_hub_command_failure`. -/
def ledHubCommandFailure (files : Files) (l : Lights) : Lights := ledBlinkRedN files 5 10 90 l

/-- `LED_status_door_error`. -/
def ledStatusDoorError (files : Files) (l : Lights) : Lights := slowFlash files .RED_LED l

/-- `LED_status_network_error`. -/
def ledStatusNetworkError (files : Files) (l : Lights) : Lights := slowFlash files .GREEN_LED l

/-- The sequence that `worker_fn` runs for a task. -/
def taskSequence (files : Files) (t : LedTask) : Lights → Lights :=
  match t.type with
  | .LED_TASK_BLINK_RED => ledBlinkRedN files t.flashes t.freqHz t.duty
  | .LED_TASK_HUB_SUCCESS => ledHubCommandSuccess files
  | .LED_TASK_NETWORK_ERROR => ledStatusNetworkError files
  | .LED_TASK_HUB_FAILURE => ledHubCommandFailure files
  | .LED_TASK_LOCK_SUCCESS => ledLockSuccessSequence files
  | .LED_TASK_LOCK_FAILURE => ledLockFailureSequence files
  | .LED_TASK_UNLOCK_SUCCESS => ledUnlockSuccessSequence files
  | .LED_TASK_UNLOCK_FAILURE => ledUnlockFailureSequence files
  | .LED_TASK_DOOR_ERROR => ledStatusDoorError files

/-! ### Settings -/

/-- A period and a duty cycle that fits into it. -/
structure Setting where
  period : ℤ
  duty : ℤ
  fits : 0 ≤ duty ∧ duty ≤ period

/-- What a sequence means for a LED at some moment. -/
inductive Act
  | off
  | program (s : Setting)

/-- A channel that the driver keeps legal. -/
@[ext]
structure Channel where
  device : PwmDevice
  legal : 0 ≤ device.dutyCycle ∧ device.dutyCycle ≤ device.period

/-- The output is disabled. -/
def Channel.disabled (c : Channel) : Channel := ⟨{ c.device with enable := 0 }, c.legal⟩

/-- The period that the driver holds after it was asked for that of a setting: it stays as it is
when the duty cycle of the channel does not fit into the new one. -/
def Channel.periodFor (c : Channel) (s : Setting) : ℤ :=
  if c.device.dutyCycle ≤ s.period then s.period else c.device.period

theorem Channel.le_periodFor (c : Channel) (s : Setting) :
    c.device.dutyCycle ≤ c.periodFor s ∧ s.duty ≤ c.periodFor s := by
  have h_fits := s.fits
  have h_legal := c.legal
  unfold periodFor
  split_ifs <;> omega

/-- The channel after the period of a setting alone, with the output disabled. -/
def Channel.periodOnly (c : Channel) (s : Setting) : Channel where
  device := { dutyCycle := c.device.dutyCycle, period := c.periodFor s, enable := 0 }
  legal := ⟨c.legal.1, (c.le_periodFor s).1⟩

/-- The channel after a whole setting. -/
def Channel.programmed (c : Channel) (s : Setting) : Channel where
  device := { dutyCycle := s.duty, period := c.periodFor s, enable := 1 }
  legal := ⟨s.fits.1, (c.le_periodFor s).2⟩

/-- The channel after an act, which stops at the first of the files `files` that is missing. -/
def Channel.act (files : PwmFile → Bool) (c : Channel) : Act → Channel
  | .off => if files .enable then c.disabled else c
  | .program s =>
    if files .enable then
      if files .period then
        if files .dutyCycle then c.programmed s else c.periodOnly s
      else c.disabled
    else c

/-- The setting of a call that is valid. -/
def settingOf (Hz dutyCyclePercent : ℤ)
    (h : 0 < Hz ∧ 0 ≤ dutyCyclePercent ∧ dutyCyclePercent ≤ 100) : Setting where
  period := (pwmCall Hz dutyCyclePercent).newPeriod
  duty := (pwmCall Hz dutyCyclePercent).newDutyCycle
  fits := PwmCall.newDutyCycle_mem ⟨h.2, h.1, rfl, rfl⟩

/-- The fast red flashes of a success and of a failure, the slow flash, and the steady light. -/
def flash7 : Setting := settingOf 7 90 (by decide)
def flash10 : Setting := settingOf 10 90 (by decide)
def flash2 : Setting := settingOf 2 50 (by decide)
def steady30 : Setting := settingOf 1000 30 (by decide)
def steady50 : Setting := settingOf 1000 50 (by decide)

/-- What a task means for each LED. -/
def acts (t : LedTask) (led : LEDt) : List Act :=
  match t.type, led with
  | .LED_TASK_BLINK_RED, .RED_LED =>
    if h : 0 < t.flashes ∧ 0 < t.freqHz ∧ 0 ≤ t.duty ∧ t.duty ≤ 100 then
      [.program (settingOf t.freqHz t.duty h.2), .off]
    else []
  | .LED_TASK_HUB_SUCCESS, .GREEN_LED => [.program steady50]
  | .LED_TASK_NETWORK_ERROR, .GREEN_LED => [.program flash2]
  | .LED_TASK_HUB_FAILURE, .RED_LED => [.program flash10, .off]
  | .LED_TASK_LOCK_SUCCESS, .RED_LED => [.program flash7, .off]
  | .LED_TASK_UNLOCK_SUCCESS, .RED_LED => [.off, .program flash7, .off]
  | .LED_TASK_LOCK_SUCCESS, .GREEN_LED | .LED_TASK_UNLOCK_SUCCESS, .GREEN_LED =>
    [.off, .program steady30]
  | .LED_TASK_LOCK_FAILURE, .RED_LED | .LED_TASK_UNLOCK_FAILURE, .RED_LED =>
    [.off, .program flash10, .off, .program flash2]
  | .LED_TASK_LOCK_FAILURE, .GREEN_LED | .LED_TASK_UNLOCK_FAILURE, .GREEN_LED => [.off]
  | .LED_TASK_DOOR_ERROR, .RED_LED => [.program flash2]
  | _, _ => []

/-! ### The sequences carry out the acts -/

/-- The devices of the channels. -/
def devices (c : LEDt → Channel) : Lights := fun led => (c led).device

/-- An act on one LED. -/
def actOn (files : Files) (led : LEDt) (a : Act) (c : LEDt → Channel) : LEDt → Channel :=
  Function.update c led ((c led).act (files led) a)

theorem devices_update (c : LEDt → Channel) (led : LEDt) (x : Channel) :
    devices (Function.update c led x) = Function.update (devices c) led x.device :=
  Function.comp_update (fun x : Channel => x.device) c led x

/-- Writes that do what an act says. -/
theorem writes_act {files : Files} {led : LEDt} {a : Act} {c : LEDt → Channel} {ws : List PwmWrite}
    (h : run PwmDevice.accept (c led).device ws = ((c led).act (files led) a).device) :
    (devices c).writes led ws = devices (actOn files led a c) := by
  unfold Lights.writes actOn
  rw [devices_update, ← h]
  rfl

theorem disable_act (files : Files) (led : LEDt) (c : LEDt → Channel) :
    disable files led (devices c) = devices (actOn files led .off c) := by
  unfold disable
  apply writes_act
  cases h_enable : files led .enable <;> simp [Channel.act, h_enable] <;> rfl

theorem PwmDevice.accept_enable (d : PwmDevice) (v : ℤ) :
    d.accept ⟨.enable, v⟩ = { d with enable := v } := rfl

/-- The driver takes the period of a setting when the duty cycle it holds fits into it. -/
theorem accept_period (c : Channel) (s : Setting) :
    run PwmDevice.accept c.device [⟨.enable, 0⟩, ⟨.period, s.period⟩]
      = (c.periodOnly s).device := by
  obtain ⟨⟨dutyCycle, period, enable⟩, h_legal⟩ := c
  rw [run_cons, run_cons, run_nil, PwmDevice.accept_enable]
  by_cases h_period : s.period < dutyCycle
  · have h_refused : PwmDevice.accept ⟨dutyCycle, period, 0⟩ ⟨.period, s.period⟩
        = ⟨dutyCycle, period, 0⟩ := if_pos h_period
    rw [h_refused]
    simp [Channel.periodOnly, Channel.periodFor, not_le.mpr h_period]
  · have h_accepted : PwmDevice.accept ⟨dutyCycle, period, 0⟩ ⟨.period, s.period⟩
        = ⟨dutyCycle, s.period, 0⟩ := if_neg h_period
    rw [h_accepted]
    simp [Channel.periodOnly, Channel.periodFor, not_lt.mp h_period]

/-- The four writes of a setting. The duty cycle fits into either period. -/
theorem accept_setting (c : Channel) (s : Setting) :
    run PwmDevice.accept c.device
        [⟨.enable, 0⟩, ⟨.period, s.period⟩, ⟨.dutyCycle, s.duty⟩, ⟨.enable, 1⟩]
      = (c.programmed s).device := by
  have h_split := run_append PwmDevice.accept c.device [⟨.enable, 0⟩, ⟨.period, s.period⟩]
    [⟨.dutyCycle, s.duty⟩, ⟨.enable, 1⟩]
  have h_duty : (c.periodOnly s).device.accept ⟨.dutyCycle, s.duty⟩
      = { (c.periodOnly s).device with dutyCycle := s.duty } :=
    if_neg (not_lt.mpr (c.le_periodFor s).2)
  refine h_split.trans ?_
  rw [accept_period, run_cons, run_cons, run_nil, h_duty, PwmDevice.accept_enable]
  rfl

/-- All files of a LED can be opened. -/
def Whole (files : PwmFile → Bool) : Bool := files .enable && files .period && files .dutyCycle

theorem setFrequency_act (files : Files) (led : LEDt) {Hz pct : ℤ}
    (h : 0 < Hz ∧ 0 ≤ pct ∧ pct ≤ 100) (c : LEDt → Channel) :
    setFrequency files led Hz pct (devices c)
      = (devices (actOn files led (.program (settingOf Hz pct h)) c), Whole (files led)) := by
  unfold setFrequency
  rw [pwmSetFrequency_eq h.2 h.1]
  dsimp only
  refine Prod.ext (writes_act ?_) ?_
  · cases h_enable : files led .enable with
    -- the switch does not open: the other files are not tried, or change nothing
    | false => simp [Channel.act, h_enable]
    | true =>
      cases h_period : files led .period with
      | false =>
        -- off, and the old period stays
        simp only [Channel.act, h_enable, h_period, if_true]
        rfl
      | true =>
        cases h_duty : files led .dutyCycle with
        | false =>
          simp only [Channel.act, h_enable, h_period, h_duty, if_true]
          exact accept_period (c led) (settingOf Hz pct h)
        | true =>
          -- the whole setting is written
          simp only [Channel.act, h_enable, h_period, h_duty, if_true]
          exact accept_setting (c led) (settingOf Hz pct h)
  · -- the value returned says whether every file opened
    unfold Whole
    cases files led .enable <;> cases files led .period <;> cases files led .dutyCycle <;> rfl

/-- A percentage out of range programs nothing. -/
theorem setFrequency_invalid (files : Files) (led : LEDt) (Hz : ℤ) {pct : ℤ}
    (h : ¬ (0 ≤ pct ∧ pct ≤ 100)) (l : Lights) : setFrequency files led Hz pct l = (l, false) := by
  have h_range : pct < 0 ∨ pct > 100 := by omega
  unfold setFrequency pwmSetFrequency
  dsimp only
  rw [if_pos h_range]
  unfold Lights.writes
  rw [run_nil, Function.update_eq_self]

/-- A setting that stopped at a missing file has turned the LED off where that can be done. -/
theorem Channel.off_of_not_whole {files : PwmFile → Bool} (h : Whole files = false) (c : Channel)
    (s : Setting) : (c.act files (.program s)).act files .off = c.act files (.program s) := by
  unfold Whole at h
  cases h_enable : files .enable with
  | false => simp [act, h_enable]
  | true =>
    cases h_period : files .period with
    | false => simp [act, h_enable, h_period, disabled]
    | true =>
      have h_duty : files .dutyCycle = false := by simpa [h_enable, h_period] using h
      simp [act, h_enable, h_period, h_duty, disabled, periodOnly]

theorem actOn_off_of_not_whole {files : Files} {led : LEDt} (h : Whole (files led) = false)
    (s : Setting) (c : LEDt → Channel) :
    actOn files led .off (actOn files led (.program s) c) = actOn files led (.program s) c := by
  unfold actOn
  rw [Function.update_self, Function.update_idem, Channel.off_of_not_whole h]

/-- `LED_blink_red_n` with valid arguments shows the setting and turns the LED off. -/
theorem ledBlinkRedN_act (files : Files) {flashes Hz pct : ℤ} (h_flashes : 0 < flashes)
    (h : 0 < Hz ∧ 0 ≤ pct ∧ pct ≤ 100) (c : LEDt → Channel) :
    ledBlinkRedN files flashes Hz pct (devices c) = devices (actOn files .RED_LED .off
      (actOn files .RED_LED (.program (settingOf Hz pct h)) c)) := by
  unfold ledBlinkRedN
  rw [if_neg (by omega), setFrequency_act files .RED_LED h]
  dsimp only
  cases h_whole : Whole (files .RED_LED) with
  | true => exact disable_act files .RED_LED _
  | false =>
    -- it returns before the last `PWM_disable`, which would change nothing
    rw [actOn_off_of_not_whole h_whole]
    rfl

theorem slowFlash_act (files : Files) (led : LEDt) (c : LEDt → Channel) :
    slowFlash files led (devices c) = devices (actOn files led (.program flash2) c) := by
  unfold slowFlash
  rw [setFrequency_act files led (by decide)]
  dsimp only
  cases h_whole : Whole (files led) with
  | true => rfl
  | false =>
    -- the `PWM_disable` of the failure has nothing left to do
    refine (disable_act files led _).trans (congrArg devices ?_)
    exact actOn_off_of_not_whole h_whole flash2 c

theorem ledSetGreenSteady_act (files : Files) {pct : ℤ} (h : 0 ≤ pct ∧ pct ≤ 100)
    (c : LEDt → Channel) :
    ledSetGreenSteady files pct (devices c)
      = devices (actOn files .GREEN_LED (.program (settingOf 1000 pct ⟨by decide, h⟩)) c) := by
  unfold ledSetGreenSteady
  rw [setFrequency_act files .GREEN_LED ⟨by decide, h⟩]

/-- The channel of a LED after the acts of a task. -/
def afterTask (files : Files) (c : LEDt → Channel) (t : LedTask) : LEDt → Channel :=
  fun led => (acts t led).foldl (Channel.act (files led)) (c led)

theorem ledBlinkRedN_invalid (files : Files) {flashes Hz pct : ℤ}
    (h : ¬ (0 < flashes ∧ 0 < Hz ∧ 0 ≤ pct ∧ pct ≤ 100)) (l : Lights) :
    ledBlinkRedN files flashes Hz pct l = l := by
  unfold ledBlinkRedN
  by_cases h_stop : flashes ≤ 0 ∨ Hz ≤ 0
  · rw [if_pos h_stop]
  · rw [if_neg h_stop, setFrequency_invalid files .RED_LED Hz (by omega)]
    rfl

/-- The fast flashes of the sequences. -/
theorem ledBlinkRedN_flash7 (files : Files) (c : LEDt → Channel) :
    ledBlinkRedN files 2 7 90 (devices c) = devices (actOn files .RED_LED .off
      (actOn files .RED_LED (.program flash7) c)) :=
  ledBlinkRedN_act files (by decide) _ c

theorem ledBlinkRedN_flash10 (files : Files) (c : LEDt → Channel) :
    ledBlinkRedN files 5 10 90 (devices c) = devices (actOn files .RED_LED .off
      (actOn files .RED_LED (.program flash10) c)) :=
  ledBlinkRedN_act files (by decide) _ c

theorem lockSuccess_act (files : Files) (c : LEDt → Channel) :
    ledLockSuccessSequence files (devices c)
      = devices (actOn files .GREEN_LED (.program steady30) (actOn files .RED_LED .off
          (actOn files .RED_LED (.program flash7) (actOn files .GREEN_LED .off c)))) := by
  unfold ledLockSuccessSequence
  rw [disable_act, ledBlinkRedN_flash7, ledSetGreenSteady_act files (by decide)]
  rfl

theorem unlockSuccess_act (files : Files) (c : LEDt → Channel) :
    ledUnlockSuccessSequence files (devices c)
      = devices (actOn files .GREEN_LED (.program steady30) (actOn files .RED_LED .off
          (actOn files .RED_LED (.program flash7) (actOn files .RED_LED .off
            (actOn files .GREEN_LED .off c))))) := by
  unfold ledUnlockSuccessSequence
  rw [disable_act, disable_act, ledBlinkRedN_flash7, ledSetGreenSteady_act files (by decide)]
  rfl

/-- The sequences of the two failures are the same. -/
theorem failure_act (files : Files) (c : LEDt → Channel) :
    ledLockFailureSequence files (devices c)
      = devices (actOn files .RED_LED (.program flash2) (actOn files .RED_LED .off
          (actOn files .RED_LED (.program flash10) (actOn files .RED_LED .off
            (actOn files .GREEN_LED .off c))))) := by
  unfold ledLockFailureSequence
  rw [disable_act, disable_act, ledBlinkRedN_flash10, slowFlash_act]

/-- **A sequence** carries out the acts of its task. -/
theorem taskSequence_acts (files : Files) (t : LedTask) (c : LEDt → Channel) :
    taskSequence files t (devices c) = devices (afterTask files c t) := by
  obtain ⟨type, flashes, freqHz, duty⟩ := t
  unfold taskSequence afterTask
  cases type with
  | LED_TASK_BLINK_RED =>
    -- the blink has numbers of its own, and out of range it does nothing
    dsimp only
    by_cases h : 0 < flashes ∧ 0 < freqHz ∧ 0 ≤ duty ∧ duty ≤ 100
    · rw [ledBlinkRedN_act files h.1 h.2]
      congr 1
      funext led
      cases led <;> simp [acts, actOn, h]
    · rw [ledBlinkRedN_invalid files h]
      congr 1
      funext led
      cases led <;> simp [acts, h]
  | LED_TASK_HUB_SUCCESS =>
    -- every other task has fixed numbers: the act of its sequence, channel by channel
    refine (ledSetGreenSteady_act files (by decide) c).trans (congrArg devices ?_)
    funext led
    cases led <;> rfl
  | LED_TASK_NETWORK_ERROR =>
    refine (slowFlash_act files .GREEN_LED c).trans (congrArg devices ?_)
    funext led
    cases led <;> rfl
  | LED_TASK_HUB_FAILURE =>
    refine (ledBlinkRedN_flash10 files c).trans (congrArg devices ?_)
    funext led
    cases led <;> rfl
  | LED_TASK_LOCK_SUCCESS =>
    refine (lockSuccess_act files c).trans (congrArg devices ?_)
    funext led
    cases led <;> rfl
  | LED_TASK_UNLOCK_SUCCESS =>
    refine (unlockSuccess_act files c).trans (congrArg devices ?_)
    funext led
    cases led <;> rfl
  | LED_TASK_LOCK_FAILURE | LED_TASK_UNLOCK_FAILURE =>
    refine (failure_act files c).trans (congrArg devices ?_)
    funext led
    cases led <;> rfl
  | LED_TASK_DOOR_ERROR =>
    refine (slowFlash_act files .RED_LED c).trans (congrArg devices ?_)
    funext led
    cases led <;> rfl

/-! ### What is left on a LED -/

/-- Whether an act turns the LED on or off. -/
def Act.enable? : Act → Option ℤ
  | .off => some 0
  | .program _ => some 1

/-- The duty cycle that an act programs. -/
def Act.duty? : Act → Option ℤ
  | .off => none
  | .program s => some s.duty

/-- The channel after acts. -/
def Channel.after (files : PwmFile → Bool) (c : Channel) (as : List Act) : Channel :=
  as.foldl (Channel.act files) c

theorem Channel.after_append (files : PwmFile → Bool) (c : Channel) (as bs : List Act) :
    c.after files (as ++ bs) = (c.after files as).after files bs := List.foldl_append

/-! With all files there an act is carried out as a whole. -/

theorem Channel.act_off {files : PwmFile → Bool} (h : ∀ f, files f = true) (c : Channel) :
    c.act files .off = c.disabled := if_pos (h .enable)

theorem Channel.act_program {files : PwmFile → Bool} (h : ∀ f, files f = true) (c : Channel)
    (s : Setting) : c.act files (.program s) = c.programmed s := by
  dsimp only [act]
  rw [if_pos (h .enable), if_pos (h .period), if_pos (h .dutyCycle)]

theorem Channel.after_enable {files : PwmFile → Bool} (h : ∀ f, files f = true) (c : Channel)
    (as : List Act) :
    (c.after files as).device.enable = lastWrite Act.enable? c.device.enable as := by
  induction as using List.reverseRecOn with
  | nil => rfl
  | append_singleton as a _ =>
    rw [after_append, lastWrite_concat]
    cases a with
    | off =>
      exact congrArg (fun x : Channel => x.device.enable) (act_off h (c.after files as))
    | program s =>
      exact congrArg (fun x : Channel => x.device.enable) (act_program h (c.after files as) s)

theorem Channel.after_duty {files : PwmFile → Bool} (h : ∀ f, files f = true) (c : Channel)
    (as : List Act) :
    (c.after files as).device.dutyCycle = lastWrite Act.duty? c.device.dutyCycle as := by
  induction as using List.reverseRecOn with
  | nil => rfl
  | append_singleton as a ih =>
    rw [after_append, lastWrite_concat, ← ih]
    cases a with
    | off =>
      have h_off := act_off h (c.after files as)
      exact (congrArg (fun x : Channel => x.device.dutyCycle) h_off).trans rfl
    | program s =>
      exact congrArg (fun x : Channel => x.device.dutyCycle) (act_program h (c.after files as) s)

/-- Turning the LED off keeps its period. -/
theorem Channel.after_off {files : PwmFile → Bool} (h : ∀ f, files f = true) (c : Channel)
    {as : List Act} (h_as : ∀ a ∈ as, a = .off) :
    (c.after files as).device.period = c.device.period := by
  induction as generalizing c with
  | nil => rfl
  | cons a as ih =>
    obtain ⟨rfl, h_rest⟩ := List.forall_mem_cons.mp h_as
    refine (ih (c.act files .off) h_rest).trans ?_
    rw [act_off h]
    rfl

/-- The period is the one of a setting exactly when the duty cycle before fits into it: otherwise
the period before is longer than that. -/
theorem Channel.programmed_period_iff (c : Channel) (s : Setting) :
    (c.programmed s).device.period = s.period ↔ c.device.dutyCycle ≤ s.period := by
  have h_legal := c.legal.2
  dsimp only [programmed, periodFor]
  split_ifs with h <;> omega

/-- **What a LED shows** after the acts `as`, with all its files there. -/
structure Obeys (c : Channel) (as : List Act) (d : PwmDevice) : Prop where
  enable_eq : d.enable = lastWrite Act.enable? c.device.enable as
  dutyCycle_eq : d.dutyCycle = lastWrite Act.duty? c.device.dutyCycle as
  /-- The last setting has its period exactly when the duty cycle of the one before fits into it. -/
  period_iff : ∀ pre s post, as = pre ++ .program s :: post → (∀ a ∈ post, a = .off) →
    (d.period = s.period ↔ lastWrite Act.duty? c.device.dutyCycle pre ≤ s.period)

/-- **What a LED shows** after the acts `as`, with those of its files that can be opened. -/
structure Shows (files : PwmFile → Bool) (c : Channel) (as : List Act) (d : PwmDevice) : Prop where
  legal : 0 ≤ d.dutyCycle ∧ d.dutyCycle ≤ d.period
  obeys : (∀ f, files f = true) → Obeys c as d
  /-- Without the period or the duty cycle, the first act turns the LED off for good. -/
  dark : files .enable = true → ¬ (files .period = true ∧ files .dutyCycle = true) → as ≠ [] →
    d.enable = 0
  dutyCycle_kept : (∃ f, files f = false) → d.dutyCycle = c.device.dutyCycle
  period_kept : files .period = false → d.period = c.device.period
  untouched : files .enable = false → d = c.device

theorem Channel.after_obeys {files : PwmFile → Bool} (h : ∀ f, files f = true) (c : Channel)
    (as : List Act) : Obeys c as (c.after files as).device := by
  refine ⟨c.after_enable h as, c.after_duty h as, ?_⟩
  rintro pre s post rfl h_post
  rw [c.after_append, ← c.after_duty h pre]
  have h_off := ((c.after files pre).act files (.program s)).after_off h h_post
  rw [act_program h] at h_off
  have h_after : (c.after files pre).after files (.program s :: post)
      = ((c.after files pre).programmed s).after files post := by
    rw [← act_program h]
    rfl
  rw [h_after, h_off]
  exact (c.after files pre).programmed_period_iff s

/-- What every act keeps of a channel is kept by all of them. -/
theorem Channel.after_keeps {files : PwmFile → Bool} {β : Type} (get : PwmDevice → β)
    (h : ∀ (c : Channel) a, get (c.act files a).device = get c.device) (c : Channel)
    (as : List Act) : get (c.after files as).device = get c.device := by
  induction as generalizing c with
  | nil => rfl
  | cons a as ih => exact (ih (c.act files a)).trans (h c a)

theorem Channel.after_shows (files : PwmFile → Bool) (c : Channel) (as : List Act) :
    Shows files c as (c.after files as).device where
  legal := (c.after files as).legal
  obeys h := c.after_obeys h as
  dark h_enable h_missing h_as := by
    -- the last act alone decides
    obtain ⟨as, a, rfl⟩ := (List.eq_nil_or_concat' as).resolve_left h_as
    rw [c.after_append]
    change ((c.after files as).act files a).device.enable = 0
    cases a with
    | off => simp [act, h_enable, disabled]
    | program s =>
      dsimp only [act]
      rw [if_pos h_enable]
      by_cases h_period : files .period = true
      · have h_duty : ¬ files .dutyCycle = true := fun h => h_missing ⟨h_period, h⟩
        rw [if_pos h_period, if_neg h_duty]
        rfl
      · rw [if_neg h_period]
        rfl
  dutyCycle_kept h := by
    obtain ⟨f, h_f⟩ := h
    refine after_keeps PwmDevice.dutyCycle (fun c a => ?_) c as
    cases a with
    | off => unfold act; split_ifs <;> rfl
    | program s =>
      unfold act
      split_ifs with h_enable h_period h_duty
      · cases f <;> simp_all
      all_goals rfl
  period_kept h := by
    refine after_keeps PwmDevice.period (fun c a => ?_) c as
    cases a with
    | off => unfold act; split_ifs <;> rfl
    | program s =>
      dsimp only [act]
      rw [if_neg (by simp [h] : ¬ files .period = true)]
      split_ifs <;> rfl
  untouched h := by
    refine after_keeps id (fun c a => ?_) c as
    cases a <;> simp [act, h]

/-! ### Runs of the worker -/

/-- The tasks that the worker has executed. -/
def executedTasks (es : List LedEv) : List LedTask := (ledQueue es).2.filterMap LedOut.executed?

/-- The worker with the LEDs, which change when it executes a task. -/
structure LitWorker where
  worker : LedWorker LedQueue
  lights : Lights

/-- A step of the worker. -/
def stepLit (files : Files) (s : LitWorker) (e : LedEv) : LitWorker :=
  let (worker, outs) := execLed ringOps s.worker e
  { worker := worker
    lights := (outs.filterMap LedOut.executed?).foldl (fun l t => taskSequence files t l) s.lights }

/-- The worker and the LEDs after the steps `es`. -/
def litReached (files : Files) (c : LEDt → Channel) (es : List LedEv) : LitWorker :=
  run (stepLit files) ⟨LedWorker.initial emptyQueue, devices c⟩ es

/-- The acts of a run for a LED. -/
def actsOf (es : List LedEv) (led : LEDt) : List Act := (executedTasks es).flatMap (acts · led)

theorem ledQueue_concat (es : List LedEv) (e : LedEv) :
    ledQueue (es ++ [e]) = logged (execLed ringOps) (ledQueue es) e := run_append _ _ es [e]

theorem actsOf_concat (es : List LedEv) (e : LedEv) (led : LEDt) :
    actsOf (es ++ [e]) led = actsOf es led ++
      ((execLed ringOps (ledQueue es).1 e).2.filterMap LedOut.executed?).flatMap (acts · led) := by
  unfold actsOf executedTasks
  rw [ledQueue_concat, ← List.flatMap_append, ← List.filterMap_append]
  rfl

/-- The sequences of tasks one after the other. -/
theorem sequences_acts (files : Files) (ts : List LedTask) (c : LEDt → Channel) :
    ts.foldl (fun l t => taskSequence files t l) (devices c)
      = devices (fun led => (c led).after (files led) (ts.flatMap (acts · led))) := by
  induction ts generalizing c with
  | nil => rfl
  | cons t ts ih =>
    rw [List.foldl_cons, taskSequence_acts, ih]
    congr 1
    funext led
    rw [List.flatMap_cons, Channel.after_append]
    rfl

/-- **Run.** The LEDs are where the acts of the executed tasks have brought them. -/
theorem litReached_eq (files : Files) (c : LEDt → Channel) (es : List LedEv) :
    litReached files c es
      = ⟨(ledQueue es).1, devices fun led => (c led).after (files led) (actsOf es led)⟩ := by
  induction es using List.reverseRecOn with
  | nil => rfl
  | append_singleton es e ih =>
    have h_step : litReached files c (es ++ [e]) = stepLit files (litReached files c es) e :=
      run_append _ _ es [e]
    have h_after : (fun led => (c led).after (files led) (actsOf (es ++ [e]) led)) = fun led =>
        ((c led).after (files led) (actsOf es led)).after (files led)
          (((execLed ringOps (ledQueue es).1 e).2.filterMap LedOut.executed?).flatMap
            (acts · led)) := by
      funext led
      rw [actsOf_concat, Channel.after_append]
    rw [h_step, ih, ledQueue_concat, h_after, ← sequences_acts]
    rfl

/-- **What the LEDs show.** For every interleaving of enqueues, worker steps, starts and shutdowns,
wherever the channels of the LEDs started, and whichever of their files can be opened. -/
theorem lights_show (files : Files) (c : LEDt → Channel) (es : List LedEv) (led : LEDt) :
    Shows (files led) (c led) (actsOf es led) ((litReached files c es).lights led) := by
  rw [litReached_eq]
  exact (c led).after_shows (files led) (actsOf es led)

/-- The steady light after a network error keeps the period of the flash. -/
example : steady30.period < flash2.duty ∧ steady50.period < flash2.duty := by decide

end Led

end DoorSystem
