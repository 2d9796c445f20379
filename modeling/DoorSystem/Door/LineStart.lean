import DoorSystem.Door.Lines

/-!
# The lines at the start of a door module

`initializeDoorSystem` requests six lines: the trigger and the echo of the distance sensor and the
coils of the motor. The first request closes descriptor 0, which is the standard input, so after a
start descriptor 0 is free and the next file that the program opens gets it. From then on no file is
closed by a use of the lines any more, since all six are in use (`doorLines_start`).
-/

namespace DoorSystem

open CLib Hal

namespace Door

variable {ο : Type}

/-! ### The start -/

def trigPin : Pin := pinAt 1 33
def echoPin : Pin := pinAt 2 8

/-- The outcomes of the system calls of `initializeDoorSystem` that concern the lines. -/
structure StartLines where
  trig : Attempt
  echo : Attempt
  trigLow : Bool
  motor : Fin 4 → Attempt
  coilsLow : Fin 4 → Bool

/-- `init_hc_sr04`. -/
def initHcSr04 (e : StartLines) (s : GpioState ο) : GpioState ο × Bool :=
  let (s, done) := exportPin 1 33 (some "out".toList) e.trig s
  if !done then (s, false)
  else
    let (s, done) := exportPin 2 8 (some "in".toList) e.echo s
    if !done then (s, false) else writePinValue 1 33 0 e.trigLow s

/-- `initializeDoorSystem`, as far as the lines are concerned. -/
def initializeDoorLines (e : StartLines) (m : MotorOnLines ο) : MotorOnLines ο × Bool :=
  let (gpio, done) := initHcSr04 e m.gpio
  if !done then ({ m with gpio := gpio }, false)
  else stepperMotorInitLines e.motor e.coilsLow { m with gpio := gpio }

/-- `s'` comes from `s` by calls of `GPIO.c` alone. -/
def Calls (s s' : GpioState ο) : Prop :=
  ∃ ops, s' = run stepGpio s ops ∧ ∀ op ∈ ops, op.isCall = true

theorem Calls.refl (s : GpioState ο) : Calls s s := ⟨[], rfl, by simp⟩

theorem Calls.trans {s s' s'' : GpioState ο} (h : Calls s s') (h' : Calls s' s'') :
    Calls s s'' := by
  obtain ⟨ops, rfl, h_ops⟩ := h
  obtain ⟨ops', rfl, h_ops'⟩ := h'
  refine ⟨ops ++ ops', (run_append stepGpio s ops ops').symm, fun op h_op => ?_⟩
  rcases List.mem_append.mp h_op with h_mem | h_mem
  · exact h_ops op h_mem
  · exact h_ops' op h_mem

theorem Calls.one (s : GpioState ο) (op : GpioOp ο) (h : op.isCall = true) :
    Calls s (stepGpio s op) := ⟨[op], rfl, by simpa using h⟩

theorem writeLines_calls (pattern : Coils) (ok : Fin 4 → Bool) (is : List (Fin 4))
    (s : GpioState ο) : Calls s (writeLines pattern ok is s).1 := by
  induction is generalizing s with
  | nil => exact Calls.refl s
  | cons i is ih =>
    have h_one : Calls s
        (writePinValue (motorLine i).1 (motorLine i).2 (pattern i).toNat (ok i) s).1 :=
      Calls.one s (.writePinValue _ _ _ _) rfl
    unfold writeLines
    dsimp only
    split_ifs
    · exact h_one.trans (ih _)
    · exact h_one

theorem exportPin_calls (chip line : ℤ) (direction : Option CStr) (a : Attempt) (s : GpioState ο) :
    Calls s (exportPin chip line direction a s).1 :=
  Calls.one s (.exportPin chip line direction a) rfl

theorem initHcSr04_calls (e : StartLines) (s : GpioState ο) : Calls s (initHcSr04 e s).1 := by
  have h_trig := exportPin_calls 1 33 (some "out".toList) e.trig s
  have h_echo := exportPin_calls 2 8 (some "in".toList) e.echo
    (exportPin 1 33 (some "out".toList) e.trig s).1
  unfold initHcSr04
  dsimp only
  split_ifs
  · exact h_trig
  · exact h_trig.trans h_echo
  · exact (h_trig.trans h_echo).trans (Calls.one _ (.writePinValue 1 33 0 e.trigLow) rfl)

theorem exportMotor_calls (a : Fin 4 → Attempt) (is : List (Fin 4)) (s : GpioState ο) :
    Calls s (exportMotor a is s).1 := by
  induction is generalizing s with
  | nil => exact Calls.refl s
  | cons i is ih =>
    have h_one := exportPin_calls (motorLine i).1 (motorLine i).2 (some "out".toList) (a i) s
    unfold exportMotor
    dsimp only
    split_ifs
    · exact h_one.trans (ih _)
    · exact h_one

theorem stepperMotorInitLines_calls (a : Fin 4 → Attempt) (ok : Fin 4 → Bool)
    (m : MotorOnLines ο) : Calls m.gpio (stepperMotorInitLines a ok m).1.gpio := by
  have h_export := exportMotor_calls a (List.finRange 4) m.gpio
  unfold stepperMotorInitLines
  dsimp only
  split_ifs
  · exact h_export
  · exact h_export.trans (writeLines_calls zeroPattern ok _ _)

theorem initializeDoorLines_calls (e : StartLines) (m : MotorOnLines ο) :
    Calls m.gpio (initializeDoorLines e m).1.gpio := by
  unfold initializeDoorLines
  dsimp only
  split_ifs
  · exact initHcSr04_calls e m.gpio
  · exact (initHcSr04_calls e m.gpio).trans (stepperMotorInitLines_calls e.motor e.coilsLow _)

/-! ### What the calls keep -/

theorem Calls.kept {s s' : GpioState ο} (h : Calls s s') (h_s : GpioKept s) : GpioKept s' := by
  obtain ⟨ops, rfl, -⟩ := h
  exact run_invariant GpioKept (fun _ op h => h.step op) h_s ops

theorem Calls.filesLeft {files : Descriptors ο} {s s' : GpioState ο} (h : Calls s s')
    (h_s : FilesLeft files s) : FilesLeft files s' := by
  obtain ⟨ops, rfl, h_ops⟩ := h
  exact h_s.run h_ops

/-- A pin that is configured keeps its direction. -/
theorem Calls.mode {s s' : GpioState ο} (h : Calls s s') (h_s : GpioKept s) {p : Pin}
    {isOutput : Bool} (h_mode : s.bank.mode p = some isOutput) :
    s'.bank.mode p = some isOutput := by
  obtain ⟨ops, rfl, -⟩ := h
  refine (run_invariant (fun t : GpioState ο => GpioKept t ∧ t.bank.mode p = some isOutput)
    (fun t op h_t => ?_) ⟨h_s, h_mode⟩ ops).2
  exact ⟨h_t.1.step op, bank_mode_step h_t.1 h_t.2 op⟩

/-- A request that succeeds has configured the pin. -/
theorem exportPin_mode {s : GpioState ο} (h : GpioKept s) {chip line : ℤ} {p : Pin}
    (h_p : pinOf chip line = some p) (d : CStr) (a : Attempt)
    (h_done : (exportPin chip line (some d) a s).2 = true) :
    (exportPin chip line (some d) a s).1.bank.mode p = some (decide (d = "out".toList)) := by
  obtain ⟨h_bank, h_result⟩ := Prod.ext_iff.mp (exportPin_refines h h_p d a)
  dsimp only at h_bank h_result
  rw [h_bank]
  rw [h_done] at h_result
  unfold PinBank.configure at h_result ⊢
  by_cases h_allowed : (a.chipOk && a.infoOk && a.lineOk) = true ∧ s.bank.mode p = none
  · rw [if_pos h_allowed]
    exact Function.update_self p _ _
  · -- a request that is refused fails
    rw [if_neg h_allowed] at h_result
    exact absurd h_result (by simp)

/-- **`init_hc_sr04`** configures the trigger and the echo, and the trigger is low. -/
theorem initHcSr04_done {e : StartLines} {s : GpioState ο} (h : GpioKept s)
    (h_done : (initHcSr04 e s).2 = true) :
    (initHcSr04 e s).1.bank.mode trigPin = some true ∧
      (initHcSr04 e s).1.bank.mode echoPin = some false ∧
      (initHcSr04 e s).1.levels trigPin = false := by
  have h_trig := exportPin_calls 1 33 (some "out".toList) e.trig s
  have h_echo := exportPin_calls 2 8 (some "in".toList) e.echo
    (exportPin 1 33 (some "out".toList) e.trig s).1
  have h_kept := h_echo.kept (h_trig.kept h)
  unfold initHcSr04 at h_done ⊢
  dsimp only at h_done ⊢
  split_ifs at h_done ⊢ with h_trig_done h_echo_done
  -- both requests have succeeded
  rw [Bool.not_eq_true, Bool.not_eq_false'] at h_trig_done h_echo_done
  set s₂ := (exportPin 2 8 (some "in".toList) e.echo
    (exportPin 1 33 (some "out".toList) e.trig s).1).1 with h_s₂
  have h_low := Calls.one s₂ (.writePinValue 1 33 0 e.trigLow) rfl
  have h_mode : s₂.bank.mode trigPin = some true :=
    h_echo.mode (h_trig.kept h) (exportPin_mode h (p := trigPin) rfl _ _ h_trig_done)
  refine ⟨h_low.mode h_kept h_mode, ?_, ?_⟩
  · exact h_low.mode h_kept (exportPin_mode (h_trig.kept h) (p := echoPin) rfl _ _ h_echo_done)
  · have h_levels := writePinValue_done h_kept (show pinOf 1 33 = some trigPin from rfl) 0 e.trigLow
      h_done
    rw [h_levels, Function.update_self]
    rfl

/-- The requests of the motor configure its lines. -/
theorem exportMotor_done (a : Fin 4 → Attempt) (is : List (Fin 4)) {s : GpioState ο}
    (h : GpioKept s) (h_done : (exportMotor a is s).2 = true) :
    ∀ i ∈ is, (exportMotor a is s).1.bank.mode (motorPin i) = some true := by
  induction is generalizing s with
  | nil => simp
  | cons i is ih =>
    have h_one := exportPin_calls (motorLine i).1 (motorLine i).2 (some "out".toList) (a i) s
    unfold exportMotor at h_done ⊢
    dsimp only at h_done ⊢
    split_ifs at h_done ⊢ with h_first
    · have h_modes := ih (h_one.kept h) h_done
      have h_mode := exportPin_mode h (pinOf_motorLine i) _ _ h_first
      refine List.forall_mem_cons.mpr ⟨?_, h_modes⟩
      exact (exportMotor_calls a is _).mode (h_one.kept h) h_mode

/-- **`StepperMotor_Init`** configures the lines of the motor and leaves them low. -/
theorem stepperMotorInitLines_done {a : Fin 4 → Attempt} {ok : Fin 4 → Bool} {m : MotorOnLines ο}
    (h : GpioKept m.gpio) (h_done : (stepperMotorInitLines a ok m).2 = true) :
    (∀ i, (stepperMotorInitLines a ok m).1.gpio.bank.mode (motorPin i) = some true) ∧
      coilsOf (stepperMotorInitLines a ok m).1.gpio = zeroPattern ∧
      ∀ p, p ∉ Set.range motorPin →
        (stepperMotorInitLines a ok m).1.gpio.levels p = m.gpio.levels p := by
  have h_export := exportMotor_calls a (List.finRange 4) m.gpio
  unfold stepperMotorInitLines at h_done ⊢
  dsimp only at h_done ⊢
  split_ifs at h_done ⊢ with h_exported
  rw [Bool.not_eq_true, Bool.not_eq_false'] at h_exported
  have h_modes := exportMotor_done a (List.finRange 4) h h_exported
  -- the exports and the first pattern touch the motor's lines only
  obtain ⟨-, -, h_levels⟩ := exportMotor_refines a (List.nodup_finRange 4) h (fun i _ => rfl)
  obtain ⟨h_pins, h_frame⟩ := setMotorLines_refines zeroPattern ok (h_export.kept h)
  obtain ⟨h_coils, h_result⟩ := Prod.ext_iff.mp h_pins
  dsimp only [MotorOnLines.atZero] at h_coils h_result ⊢
  refine ⟨fun i => ?_, ?_, fun p h_p => ?_⟩
  · rw [h_frame.mode]
    exact h_modes i (List.mem_finRange i)
  · rw [h_coils]
    exact setMotorPins_coils (h_result.symm.trans h_done)
  · rw [h_frame.levels p h_p, h_levels p h_p]

/-! ### The start and what comes after it -/

/-- The six lines. -/
def doorPins : Finset Pin := {trigPin, echoPin} ∪ Finset.univ.image motorPin

/-- A step of a program that uses no other lines. -/
def UsesDoorLines (op : GpioOp ο) : Prop :=
  match op with
  | .exportPin chip line _ _ | .setPinDirection chip line _ _ =>
    ∀ p, pinOf chip line = some p → p ∈ doorPins
  | _ => True

/-- What a start leaves, with its result. -/
structure DoorLinesStarted (files : Descriptors ο) (s : GpioState ο) (done : Bool) : Prop where
  kept : GpioKept s
  /-- The files of the program stay open, except the one at 0. -/
  others : ∀ n, n ≠ 0 → ∀ file, s.table.get n = some (.other file) ↔ files.get n = some file
  /-- That one stays exactly when no line has been taken into use. -/
  stdin : s.table.get 0 = if s.linesInUse = ∅ then (files.get 0).map .other else none
  modes : done = true → s.bank.mode trigPin = some true ∧ s.bank.mode echoPin = some false ∧
    ∀ i, s.bank.mode (motorPin i) = some true
  low : done = true → s.levels trigPin = false ∧ coilsOf s = zeroPattern
  /-- The next file that is opened gets descriptor 0. -/
  next : done = true → s.table.lowest = 0
  /-- Whatever happens from there, a use of these lines closes no file. -/
  later : done = true → ∀ (ops : List (GpioOp ο)) (op : GpioOp ο), UsesDoorLines op → ∀ n file,
    (run stepGpio s ops).table.get n = some (.other file) → op ≠ .otherClose n →
      (stepGpio (run stepGpio s ops) op).table.get n = some (.other file)

/-- With the six lines in use, a step that uses no others takes no line into use. -/
theorem not_takesLine {s : GpioState ο} (h : GpioKept s)
    (h_use : ∀ p ∈ doorPins, (s.gpioFds p).inUse = true) {op : GpioOp ο} (h_op : UsesDoorLines op) :
    ¬ TakesLine s op := by
  have h_init : ∀ chip line direction a, (∀ p, pinOf chip line = some p → p ∈ doorPins) →
      (initPin chip line direction a s).1 = s := by
    intro chip line direction a h_pins
    unfold initPin
    split
    · next d p h_p =>
      rw [gpioLineInit_inUse h (h_use p (h_pins p h_p))]
    · rfl
  rintro ⟨p, -, h_before, h_after⟩
  have h_same : (stepGpio s op).gpioFds = s.gpioFds := by
    cases stepGpio_change h op with
    | nothing _ h_fds _ => exact h_fds
    | opened _ _ h_eq => rw [h_eq]
    | closed _ _ _ _ h_eq => rw [h_eq]
    | newLine q isOutput fd h_q h_fd h_free h_eq =>
      -- only a request changes an entry, and it finds its line in use
      cases op with
      | exportPin chip line direction a =>
        exact congrArg GpioState.gpioFds (h_init chip line direction a h_op)
      | setPinDirection chip line direction a =>
        exact congrArg GpioState.gpioFds (h_init chip line direction a h_op)
      | writePinValue chip line value ok =>
        obtain ⟨levels, h_frame⟩ := writePinValue_frame chip line value ok s
        have h_fds := congrArg GpioState.gpioFds h_frame
        exact h_fds
      | readPinValue => rfl
      | otherOpen => rfl
      | otherClose fd' =>
        unfold stepGpio execGpio
        dsimp only
        split <;> rfl
      | drive p level =>
        unfold stepGpio execGpio
        dsimp only
        split_ifs <;> rfl
  rw [h_same, h_before] at h_after
  exact absurd h_after (by simp)

/-- **`initializeDoorSystem`** configures the lines, and leaves the trigger and the coils
low. -/
theorem initializeDoorLines_done {e : StartLines} {m : MotorOnLines ο} (h : GpioKept m.gpio)
    (h_done : (initializeDoorLines e m).2 = true) :
    ((initializeDoorLines e m).1.gpio.bank.mode trigPin = some true ∧
        (initializeDoorLines e m).1.gpio.bank.mode echoPin = some false ∧
        ∀ i, (initializeDoorLines e m).1.gpio.bank.mode (motorPin i) = some true) ∧
      (initializeDoorLines e m).1.gpio.levels trigPin = false ∧
        coilsOf (initializeDoorLines e m).1.gpio = zeroPattern := by
  have h_sensor_calls := initHcSr04_calls e m.gpio
  unfold initializeDoorLines at h_done ⊢
  dsimp only at h_done ⊢
  split_ifs at h_done ⊢ with h_sensor
  rw [Bool.not_eq_true, Bool.not_eq_false'] at h_sensor
  have h_kept := h_sensor_calls.kept h
  -- the sensor's lines come first, and the motor's leave them as they are
  obtain ⟨h_trig, h_echo, h_low⟩ := initHcSr04_done h h_sensor
  obtain ⟨h_motor, h_coils, h_levels⟩ :=
    stepperMotorInitLines_done (m := { m with gpio := (initHcSr04 e m.gpio).1 }) h_kept h_done
  have h_calls := stepperMotorInitLines_calls e.motor e.coilsLow
    { m with gpio := (initHcSr04 e m.gpio).1 }
  refine ⟨⟨h_calls.mode h_kept h_trig, h_calls.mode h_kept h_echo, h_motor⟩, ?_, h_coils⟩
  rw [h_levels trigPin (by decide)]
  exact h_low

/-! ### A start without failures -/

/-- A request of a free pin that the kernel grants. -/
theorem exportPin_granted {s : GpioState ο} (h : GpioKept s) {chip line : ℤ} {p : Pin}
    (h_p : pinOf chip line = some p) (d : CStr) {a : Attempt}
    (h_a : (a.chipOk && a.infoOk && a.lineOk) = true) (h_free : s.bank.mode p = none) :
    (exportPin chip line (some d) a s).2 = true ∧
      (exportPin chip line (some d) a s).1.bank.mode
        = Function.update s.bank.mode p (some (decide (d = "out".toList))) := by
  obtain ⟨h_bank, h_done⟩ := Prod.ext_iff.mp (exportPin_refines h h_p d a)
  unfold PinBank.configure at h_bank h_done
  rw [if_pos ⟨h_a, h_free⟩] at h_bank h_done
  exact ⟨h_done, congrArg PinBank.mode h_bank⟩

/-- Every system call of the start succeeds. -/
structure StartLines.Smooth (e : StartLines) : Prop where
  trig : (e.trig.chipOk && e.trig.infoOk && e.trig.lineOk) = true
  echo : (e.echo.chipOk && e.echo.infoOk && e.echo.lineOk) = true
  trigLow : e.trigLow = true
  motor : ∀ i, ((e.motor i).chipOk && (e.motor i).infoOk && (e.motor i).lineOk) = true
  coilsLow : ∀ i, e.coilsLow i = true

theorem initHcSr04_smooth {e : StartLines} (h_e : e.Smooth) {s : GpioState ο} (h : GpioKept s)
    (h_trig : s.bank.mode trigPin = none) (h_echo : s.bank.mode echoPin = none) :
    (initHcSr04 e s).2 = true ∧ ∀ p, p ≠ trigPin → p ≠ echoPin →
      (initHcSr04 e s).1.bank.mode p = s.bank.mode p := by
  obtain ⟨h_done₁, h_mode₁⟩ := exportPin_granted h (show pinOf 1 33 = some trigPin from rfl)
    "out".toList h_e.trig h_trig
  have h_kept₁ := (exportPin_calls 1 33 (some "out".toList) e.trig s).kept h
  unfold initHcSr04
  generalize exportPin 1 33 (some "out".toList) e.trig s = r₁ at *
  have h_free₁ : r₁.1.bank.mode echoPin = none := by
    rw [h_mode₁, Function.update_of_ne (by decide)]
    exact h_echo
  obtain ⟨h_done₂, h_mode₂⟩ := exportPin_granted h_kept₁
    (show pinOf 2 8 = some echoPin from rfl) "in".toList h_e.echo h_free₁
  have h_kept₂ := (exportPin_calls 2 8 (some "in".toList) e.echo r₁.1).kept h_kept₁
  dsimp only
  generalize exportPin 2 8 (some "in".toList) e.echo r₁.1 = r₂ at *
  -- the trigger is an output now, so it can be driven low
  have h_out₂ : r₂.1.bank.mode trigPin = some true := by
    rw [h_mode₂, Function.update_of_ne (by decide), h_mode₁, Function.update_self]
    rfl
  have h_write := writePinValue_refines h_kept₂ (show pinOf 1 33 = some trigPin from rfl) 0
    e.trigLow
  unfold PinBank.write at h_write
  rw [if_pos ⟨h_e.trigLow, h_out₂⟩] at h_write
  obtain ⟨h_bank, h_low⟩ := Prod.ext_iff.mp h_write
  rw [h_done₁, h_done₂]
  refine ⟨h_low, fun p h_p h_p' => ?_⟩
  refine (congrArg (fun b : PinBank => b.mode p) h_bank).trans ?_
  dsimp only
  rw [h_mode₂, Function.update_of_ne h_p', h_mode₁, Function.update_of_ne h_p]

theorem stepperMotorInitLines_smooth {e : StartLines} (h_e : e.Smooth) {m : MotorOnLines ο}
    (h : GpioKept m.gpio) (h_free : ∀ i, m.gpio.bank.mode (motorPin i) = none) :
    (stepperMotorInitLines e.motor e.coilsLow m).2 = true := by
  have h_given : ∀ i ∈ List.finRange 4, motorGiven e.motor m.gpio i = true := fun i _ =>
    -- every line of the motor is free and granted
    motorGiven_iff.mpr ⟨h_e.motor i, h_free i⟩
  obtain ⟨h_kept, h_export, -⟩ :=
    exportMotor_refines e.motor (List.nodup_finRange 4) h h_given
  have h_exported : (exportMotor e.motor (List.finRange 4) m.gpio).2 = true :=
    (congrArg Prod.snd h_export).trans ((writePins_ok zeroPattern _ _ _).mpr (fun _ _ => rfl))
  have h_modes := exportMotor_done e.motor (List.finRange 4) h h_exported
  unfold stepperMotorInitLines
  generalize exportMotor e.motor (List.finRange 4) m.gpio = r at *
  obtain ⟨h_pins, -⟩ := setMotorLines_refines zeroPattern e.coilsLow h_kept
  have h_ok : ∀ i, (motorOut r.1 i && e.coilsLow i) = true := by
    -- so the writes of the first pattern succeed
    intro i
    rw [h_e.coilsLow, Bool.and_true]
    exact decide_eq_true (h_modes i (List.mem_finRange i))
  dsimp only
  rw [h_exported]
  exact (congrArg Prod.snd h_pins).trans ((setMotorPins_ok zeroPattern _ _).mpr h_ok)

/-- **A start without failures** succeeds on lines that are free. -/
theorem initializeDoorLines_smooth {e : StartLines} (h_e : e.Smooth) {m : MotorOnLines ο}
    (h : GpioKept m.gpio) (h_free : ∀ p, m.gpio.bank.mode p = none) :
    (initializeDoorLines e m).2 = true := by
  obtain ⟨h_sensor, h_mode⟩ := initHcSr04_smooth h_e h (h_free trigPin) (h_free echoPin)
  have h_kept := (initHcSr04_calls e m.gpio).kept h
  unfold initializeDoorLines
  dsimp only
  rw [h_sensor]
  refine stepperMotorInitLines_smooth h_e h_kept (fun i => ?_)
  have h_ne : motorPin i ≠ trigPin ∧ motorPin i ≠ echoPin := by
    revert i
    decide
  exact (h_mode (motorPin i) h_ne.1 h_ne.2).trans (h_free (motorPin i))

/-! ### The whole start -/

/-- **The start of a door module**, whatever files are open, and with any outcomes of its calls. -/
theorem doorLines_start (files : Descriptors ο) (levels : Pin → Bool) (e : StartLines) :
    DoorLinesStarted files
      (initializeDoorLines e (MotorOnLines.atZero (GpioState.boot files levels))).1.gpio
      (initializeDoorLines e (MotorOnLines.atZero (GpioState.boot files levels))).2 := by
  set m := MotorOnLines.atZero (GpioState.boot files levels) with h_m
  have h_boot : FilesLeft files m.gpio := FilesLeft.boot files levels
  have h_left := (initializeDoorLines_calls e m).filesLeft h_boot
  have h_success := fun h_done => initializeDoorLines_done (e := e) h_boot.kept h_done
  generalize (initializeDoorLines e m).1.gpio = s at *
  generalize (initializeDoorLines e m).2 = done at *
  refine ⟨h_left.kept, h_left.others, ?_, fun h => (h_success h).1, fun h => (h_success h).2,
    ?_, ?_⟩
  · split_ifs with h_none
    · exact h_left.zeroOpen h_none
    · exact h_left.zeroClosed (Finset.nonempty_iff_ne_empty.mpr h_none)
  · intro h_done
    obtain ⟨⟨h_trig, -, -⟩, -⟩ := h_success h_done
    refine Descriptors.lowest_eq_zero (h_left.zeroClosed ⟨trigPin, ?_⟩)
    rw [GpioState.linesInUse, Finset.mem_filter]
    exact ⟨Finset.mem_univ _, by decide, (bank_mode_eq_some.mp h_trig).1⟩
  · intro h_done ops op h_op n file h_get h_other
    obtain ⟨⟨h_trig, h_echo, h_motor⟩, -⟩ := h_success h_done
    -- all six lines stay in use
    have h_use : ∀ p ∈ doorPins, (s.gpioFds p).inUse = true := by
      intro p h_p
      simp only [doorPins, Finset.mem_union, Finset.mem_insert, Finset.mem_singleton,
        Finset.mem_image, Finset.mem_univ, true_and] at h_p
      rcases h_p with (rfl | rfl) | ⟨i, rfl⟩
      · exact (bank_mode_eq_some.mp h_trig).1
      · exact (bank_mode_eq_some.mp h_echo).1
      · exact (bank_mode_eq_some.mp (h_motor i)).1
    have h_run : GpioKept (run stepGpio s ops) ∧
        ∀ p ∈ doorPins, ((run stepGpio s ops).gpioFds p).inUse = true :=
      run_invariant (fun t => GpioKept t ∧ ∀ p ∈ doorPins, (t.gpioFds p).inUse = true)
      (fun t op h_t => ⟨h_t.1.step op, fun p h_p => by
        rw [(h_t.1.stepSpares op).lines p (h_t.2 p h_p)]
        exact h_t.2 p h_p⟩) ⟨h_left.kept, h_use⟩ ops
    rcases (h_run.1.stepSpares op).others n file h_get with h_kept | h_close | ⟨-, h_takes⟩
    · exact h_kept
    · exact absurd h_close h_other
    · exact absurd h_takes (not_takesLine h_run.1 h_run.2 h_op)

end Door

end DoorSystem
