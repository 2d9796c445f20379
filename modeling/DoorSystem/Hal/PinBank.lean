import DoorSystem.Hal.Gpio

/-!
# A bank of pins

What `GPIO.c` is for, said without descriptors: a pin is configured once, as an input or as an
output, and an output starts low; it is set by a write, and a read gives the level that is on the
pin.

`gpio_refines` is the refinement: the answers of `GPIO.c` are the ones of the bank, in every run and
whatever the rest of the program opens and closes. So a write reaches the line that it names and no
other one, although a line is addressed by a number that an entry of `gpio_fds` holds.
-/

namespace DoorSystem

open CLib

namespace Hal

variable {ο : Type}

/-- A bank of pins: whether a pin is configured, and as an output, and the levels on the pins. -/
@[ext]
structure PinBank where
  mode : Pin → Option Bool
  levels : Pin → Bool

namespace PinBank

/-- A bank with nothing configured. -/
def blank (levels : Pin → Bool) : PinBank := ⟨fun _ => none, levels⟩

/-- A pin that is not configured yet becomes an input or an output, if the system allows it. An
output starts low. -/
def configure (p : Pin) (isOutput allowed : Bool) (b : PinBank) : PinBank × Bool :=
  if allowed = true ∧ b.mode p = none then
    ({ mode := Function.update b.mode p (some isOutput)
       levels := if isOutput then Function.update b.levels p false else b.levels }, true)
  else (b, false)

/-- An output is set. -/
def write (p : Pin) (value ok : Bool) (b : PinBank) : PinBank × Bool :=
  if ok = true ∧ b.mode p = some true then
    ({ b with levels := Function.update b.levels p value }, true)
  else (b, false)

/-- The level on a configured pin, and -1 where there is none to read. -/
def read (p : Pin) (ok : Bool) (b : PinBank) : ℤ :=
  if ok = true ∧ b.mode p ≠ none then (if b.levels p then 1 else 0) else -1

/-- The call `export_pin` or `set_pin_direction`. -/
def configureCall (chip line : ℤ) (direction : Option CStr) (a : Attempt) (b : PinBank) :
    PinBank × Bool :=
  match direction, pinOf chip line with
  | some d, some p => b.configure p (d = "out".toList) (a.chipOk && a.infoOk && a.lineOk)
  | _, _ => (b, false)

/-- One step with its answer. -/
def exec (b : PinBank) : GpioOp ο → PinBank × List GpioAnswer
  | .exportPin chip line direction a | .setPinDirection chip line direction a =>
    let (b, ok) := b.configureCall chip line direction a
    (b, [.done ok])
  | .writePinValue chip line value ok =>
    match pinOf chip line with
    | some p =>
      let (b, ok) := b.write p (value ≠ 0) ok
      (b, [.done ok])
    | none => (b, [.done false])
  | .readPinValue chip line ok =>
    match pinOf chip line with
    | some p => (b, [.value (b.read p ok)])
    | none => (b, [.value (-1)])
  | .otherOpen _ | .otherClose _ => (b, [.silent])
  | .drive p level =>
    if b.mode p = some true then (b, [.silent])
    else ({ b with levels := Function.update b.levels p level }, [.silent])

end PinBank

/-! ### The bank of a process -/

/-- The pins as the entries of `gpio_fds` have them. -/
def GpioState.bank (s : GpioState ο) : PinBank where
  mode p := if (s.gpioFds p).inUse then some (s.gpioFds p).isOutput else none
  levels := s.levels

theorem bank_boot (files : Descriptors ο) (levels : Pin → Bool) :
    (GpioState.boot files levels).bank = PinBank.blank levels := rfl

theorem bank_mode_eq_none {s : GpioState ο} {p : Pin} :
    s.bank.mode p = none ↔ (s.gpioFds p).inUse = false := by
  unfold GpioState.bank
  by_cases h_use : (s.gpioFds p).inUse = true <;> simp [h_use]

theorem bank_mode_eq_some {s : GpioState ο} {p : Pin} {isOutput : Bool} :
    s.bank.mode p = some isOutput
      ↔ (s.gpioFds p).inUse = true ∧ (s.gpioFds p).isOutput = isOutput := by
  unfold GpioState.bank
  by_cases h_use : (s.gpioFds p).inUse = true <;> simp [h_use]

/-- Descriptors that hold no line, and levels, are all that a step may change beside the pins. -/
theorem bank_congr {s s' : GpioState ο} (h_fds : s'.gpioFds = s.gpioFds)
    (h_levels : s'.levels = s.levels) : s'.bank = s.bank := by
  unfold GpioState.bank
  rw [h_fds, h_levels]

theorem bank_storeLine (p : Pin) (isOutput : Bool) (fd : ℕ) (s : GpioState ο) :
    (storeLine p isOutput fd s).bank
      = { mode := Function.update s.bank.mode p (some isOutput)
          levels := requestedLevels p isOutput s.levels } := by
  ext1
  · funext q
    by_cases h_q : q = p
    · subst h_q
      simp [GpioState.bank, storeLine]
    · simp [GpioState.bank, storeLine, Function.update_of_ne h_q]
  · rfl

/-! ### One step -/

/-- **A request** configures the pin. -/
theorem gpioLineInit_refines {s : GpioState ο} (h : GpioKept s) (p : Pin) (isOutput : Bool)
    (a : Attempt) :
    ((gpioLineInit p isOutput a s).1.bank, (gpioLineInit p isOutput a s).2)
      = s.bank.configure p isOutput (a.chipOk && a.infoOk && a.lineOk) := by
  have h_allowed : (a.chipOk && a.infoOk && a.lineOk) = true ↔ a.Succeeds := by
    simp [Attempt.Succeeds, and_assoc]
  have h_none : s.bank.mode p = none ↔ ¬ s.table.Any (Handle.holds p) := by
    rw [bank_mode_eq_none, h.any_holds_iff p, Bool.not_eq_true]
  unfold PinBank.configure
  rcases gpioLineInit_cases p isOutput a s with
    ⟨h_fail, h_why⟩ | ⟨h_a, h_free, fd, -, -, h_done⟩
  · -- a step failed or the line is taken: the bank refuses too
    have h_refused : ¬ ((a.chipOk && a.infoOk && a.lineOk) = true ∧ s.bank.mode p = none) := by
      rw [h_allowed, h_none]
      tauto
    rw [h_fail, if_neg h_refused]
  · rw [h_done, if_pos ⟨h_allowed.mpr h_a, h_none.mpr h_free⟩, bank_storeLine]
    rfl

theorem initPin_refines {s : GpioState ο} (h : GpioKept s) (chip line : ℤ)
    (direction : Option CStr) (a : Attempt) :
    ((initPin chip line direction a s).1.bank, (initPin chip line direction a s).2)
      = s.bank.configureCall chip line direction a := by
  unfold initPin PinBank.configureCall
  cases direction with
  | none => rfl
  | some d =>
    cases pinOf chip line with
    | none => rfl
    | some p => exact gpioLineInit_refines h p _ a

/-- The call configures the pin that its arguments name. -/
theorem exportPin_refines {s : GpioState ο} (h : GpioKept s) {chip line : ℤ} {p : Pin}
    (h_p : pinOf chip line = some p) (d : CStr) (a : Attempt) :
    ((exportPin chip line (some d) a s).1.bank, (exportPin chip line (some d) a s).2)
      = s.bank.configure p (d = "out".toList) (a.chipOk && a.infoOk && a.lineOk) := by
  have h_call := initPin_refines h chip line (some d) a
  unfold PinBank.configureCall at h_call
  rw [h_p] at h_call
  exact h_call

/-- **A write** sets the line that it names. -/
theorem setValues_refines {s : GpioState ο} (h : GpioKept s) {p : Pin} (value ok : Bool)
    (h_use : (s.gpioFds p).inUse = true) :
    ((setValues (s.gpioFds p).lineFd.toNat value ok s).1.bank,
      (setValues (s.gpioFds p).lineFd.toNat value ok s).2)
      = s.bank.write p value ok := by
  obtain ⟨fd, -, h_line, h_get⟩ := h.held p h_use
  have h_mode : s.bank.mode p = some true ↔ _ := bank_mode_eq_some
  unfold setValues PinBank.write
  rw [h_line, Int.toNat_natCast, h_get]
  cases h_out : (s.gpioFds p).isOutput with
  | false => simp [h_mode, h_out]
  | true => cases ok <;> simp [h_use, h_out, GpioState.bank]

theorem writePinValue_refines {s : GpioState ο} (h : GpioKept s) {chip line : ℤ} {p : Pin}
    (h_p : pinOf chip line = some p) (value : ℤ) (ok : Bool) :
    ((writePinValue chip line value ok s).1.bank, (writePinValue chip line value ok s).2)
      = s.bank.write p (value ≠ 0) ok := by
  unfold writePinValue
  rw [h_p]
  dsimp only
  by_cases h_use : (s.gpioFds p).inUse = true
  · obtain ⟨fd, -, h_line, -⟩ := h.held p h_use
    have h_nonneg : ¬ (fd : ℤ) < 0 := by omega
    rw [← setValues_refines h (value ≠ 0) ok h_use]
    by_cases h_out : (s.gpioFds p).isOutput = true
    · simp [h_use, h_line, h_out, h_nonneg]
    · -- the line is an input, and the kernel would refuse as well
      rw [if_pos (by simp [h_out]), setValues_refines h (value ≠ 0) ok h_use]
      unfold PinBank.write
      rw [if_neg]
      rintro ⟨-, h_mode⟩
      exact h_out (bank_mode_eq_some.mp h_mode).2
  · have h_mode : s.bank.mode p ≠ some true := fun h_mode => h_use (bank_mode_eq_some.mp h_mode).1
    rw [if_pos (by simp [h_use])]
    unfold PinBank.write
    rw [if_neg (fun h_and => h_mode h_and.2)]

/-- A write that succeeds has set the level. -/
theorem writePinValue_done {s : GpioState ο} (h : GpioKept s) {chip line : ℤ} {p : Pin}
    (h_p : pinOf chip line = some p) (value : ℤ) (ok : Bool)
    (h_done : (writePinValue chip line value ok s).2 = true) :
    (writePinValue chip line value ok s).1.levels = Function.update s.levels p (value ≠ 0) := by
  obtain ⟨h_bank, h_result⟩ := Prod.ext_iff.mp (writePinValue_refines h h_p value ok)
  change (writePinValue chip line value ok s).1.bank = _ at h_bank
  change (writePinValue chip line value ok s).2 = _ at h_result
  change (writePinValue chip line value ok s).1.bank.levels = _
  rw [h_done] at h_result
  rw [h_bank]
  unfold PinBank.write at h_result ⊢
  split_ifs at h_result ⊢
  · rfl

/-- **A read** gives the level of the line that it names. -/
theorem readPinValue_refines {s : GpioState ο} (h : GpioKept s) {chip line : ℤ} {p : Pin}
    (h_p : pinOf chip line = some p) (ok : Bool) :
    readPinValue chip line ok s = s.bank.read p ok := by
  unfold readPinValue PinBank.read
  rw [h_p]
  dsimp only
  by_cases h_use : (s.gpioFds p).inUse = true
  · -- the descriptor of a pin in use is a handle on its line
    obtain ⟨fd, -, h_line, h_get⟩ := h.held p h_use
    have h_mode : s.bank.mode p ≠ none := by
      rw [Ne, bank_mode_eq_none, h_use]
      simp
    have h_nonneg : ¬ (fd : ℤ) < 0 := by omega
    unfold getValues
    rw [h_line, Int.toNat_natCast, h_get]
    cases ok <;> cases h_level : s.levels p <;>
      simp [h_use, h_nonneg, h_level, GpioState.bank]
  · -- without a descriptor the read fails, as on a pin that is not configured
    have h_mode : s.bank.mode p = none := bank_mode_eq_none.mpr (by simpa using h_use)
    simp [h_use, h_mode]

/-- The outputs of the bank are the lines that this process drives. -/
theorem GpioKept.any_drives_iff {s : GpioState ο} (h : GpioKept s) (p : Pin) :
    s.table.Any (Handle.drives p) ↔ s.bank.mode p = some true := by
  rw [bank_mode_eq_some]
  constructor
  · rintro ⟨n, k, h_get, h_drives⟩
    cases k with
    | line q isOutput =>
      obtain ⟨rfl, rfl⟩ : q = p ∧ isOutput = true := by simpa [Handle.drives] using h_drives
      rw [h.owned n q true h_get]
      exact ⟨rfl, rfl⟩
    | other _ => simp [Handle.drives] at h_drives
    | chip _ => simp [Handle.drives] at h_drives
  · rintro ⟨h_use, h_out⟩
    obtain ⟨fd, -, -, h_get⟩ := h.held p h_use
    exact ⟨fd, _, h_get, by simp [Handle.drives, h_out]⟩

/-- One step of the process with its answer in a list. -/
def gpioAnswers (s : GpioState ο) (op : GpioOp ο) : GpioState ο × List GpioAnswer :=
  ((execGpio s op).1, [(execGpio s op).2])

/-- **Step.** -/
theorem execGpio_refines {s : GpioState ο} (h : GpioKept s) (op : GpioOp ο) :
    ((gpioAnswers s op).1.bank, (gpioAnswers s op).2) = s.bank.exec op := by
  cases op with
  | exportPin chip line direction a =>
    have h_call := initPin_refines h chip line direction a
    simp only [PinBank.exec, ← h_call]
    rfl
  | setPinDirection chip line direction a =>
    have h_call := initPin_refines h chip line direction a
    simp only [PinBank.exec, ← h_call]
    rfl
  | writePinValue chip line value ok =>
    unfold PinBank.exec
    cases h_p : pinOf chip line with
    -- no such pin
    | none => simp [gpioAnswers, execGpio, writePinValue, h_p]
    | some p =>
      have h_write := writePinValue_refines h h_p value ok
      simp only [h_p, ← h_write]
      rfl
  | readPinValue chip line ok =>
    unfold PinBank.exec
    cases h_p : pinOf chip line with
    | none => simp [gpioAnswers, execGpio, readPinValue, h_p]
    | some p =>
      simp only [h_p, ← readPinValue_refines h h_p ok]
      rfl
  | otherOpen file => rfl
  | otherClose fd =>
    unfold gpioAnswers execGpio PinBank.exec
    dsimp only
    split <;> rfl
  | drive p level =>
    -- the outside cannot drive a line that is an output
    have h_drives := h.any_drives_iff p
    unfold gpioAnswers execGpio PinBank.exec
    by_cases h_any : s.table.Any (Handle.drives p)
    · simp [h_any, h_drives.mp h_any]
    · have h_mode : s.bank.mode p ≠ some true := fun h_mode => h_any (h_drives.mpr h_mode)
      simp only [if_neg h_any, if_neg h_mode]
      rfl

/-- A pin that is configured keeps its direction. -/
theorem bank_mode_step {s : GpioState ο} (h : GpioKept s) {p : Pin} {isOutput : Bool}
    (h_mode : s.bank.mode p = some isOutput) (op : GpioOp ο) :
    (stepGpio s op).bank.mode p = some isOutput := by
  rw [bank_mode_eq_some] at h_mode ⊢
  rw [(h.stepSpares op).lines p h_mode.1]
  exact h_mode

/-- What a use of the lines `ps` keeps: the descriptors and entries of all lines, and the levels of
the other ones. -/
structure LinesFrame (ps : Set Pin) (s s' : GpioState ο) : Prop where
  table : s'.table = s.table
  gpioFds : s'.gpioFds = s.gpioFds
  closed : s'.closed = s.closed
  levels : ∀ p, p ∉ ps → s'.levels p = s.levels p

namespace LinesFrame

variable {ps qs : Set Pin} {s s' s'' : GpioState ο}

theorem refl (ps : Set Pin) (s : GpioState ο) : LinesFrame ps s s := ⟨rfl, rfl, rfl, fun _ _ => rfl⟩

theorem trans (h : LinesFrame ps s s') (h' : LinesFrame ps s' s'') : LinesFrame ps s s'' where
  table := h'.table.trans h.table
  gpioFds := h'.gpioFds.trans h.gpioFds
  closed := h'.closed.trans h.closed
  levels p h_p := (h'.levels p h_p).trans (h.levels p h_p)

theorem mono (h : LinesFrame ps s s') (h_ps : ps ⊆ qs) : LinesFrame qs s s' where
  table := h.table
  gpioFds := h.gpioFds
  closed := h.closed
  levels p h_p := h.levels p (fun h_mem => h_p (h_ps h_mem))

theorem kept (h : LinesFrame ps s s') (h_s : GpioKept s) : GpioKept s' :=
  h_s.congr h.table h.gpioFds h.closed

theorem mode (h : LinesFrame ps s s') : s'.bank.mode = s.bank.mode := by
  unfold GpioState.bank
  rw [h.gpioFds]

end LinesFrame

/-- The bank of a process and the answers so far. -/
def bankView (sl : GpioState ο × List GpioAnswer) : PinBank × List GpioAnswer := (sl.1.bank, sl.2)

/-- **Refinement.** A run of `GPIO.c` leaves the pins and gives the answers that the bank does. -/
theorem gpio_refines (files : Descriptors ο) (levels : Pin → Bool) (ops : List (GpioOp ο)) :
    bankView (run (logged gpioAnswers) (GpioState.boot files levels, []) ops)
      = run (logged PinBank.exec) (PinBank.blank levels, []) ops := by
  rw [← bank_boot files levels]
  refine run_simulation_of_invariant bankView (fun sl => GpioKept sl.1) ?_ ?_
    (GpioKept.boot files levels) ops
  · rintro ⟨s, log⟩ op h
    exact GpioKept.step h op
  · rintro ⟨s, log⟩ op h
    have h_step := Prod.ext_iff.mp (execGpio_refines h op)
    exact Prod.ext h_step.1 (congrArg (log ++ ·) h_step.2)

end Hal

end DoorSystem
