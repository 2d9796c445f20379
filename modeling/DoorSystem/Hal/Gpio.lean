import DoorSystem.Lib.CString
import DoorSystem.Lib.Descriptors
import DoorSystem.Lib.Run
import Mathlib.Data.Fintype.Card
import Mathlib.Data.Fintype.Prod

/-!
# The lines of the GPIO chips

`GPIO.c` keeps one descriptor for every line that it has requested from the kernel. The table
`gpio_fds` is initialised at its first entry only, so an entry that was never used holds descriptor
0, except the one of line 0 of chip 0, which holds -1. `gpio_line_init` closes what the entry
holds before it stores the new descriptor.

The kernel gives a line to one holder at a time, so a second request for a line in use fails before
the code comes to that close. What it ever closes is therefore descriptor 0
(`GpioKept.closed_eq`), once for every line but the first of the table, and `set_pin_direction`
never changes a direction (`gpioLineInit_inUse`). Everything else about the descriptors is as it
should be: no line shares its descriptor, and none is lost.

The rest of the program opens descriptors of its own and closes only those.
-/

namespace DoorSystem

open CLib

namespace Hal

abbrev MAX_CHIPS : ℕ := 3
abbrev MAX_LINES_PER_CHIP : ℕ := 70

/-- A chip and a line that `gpio_fds` has an entry for. -/
abbrev Pin := Fin MAX_CHIPS × Fin MAX_LINES_PER_CHIP

/-- The pin of a chip and a line in range. -/
abbrev pinAt (chip line : ℕ) : Pin := (Fin.ofNat MAX_CHIPS chip, Fin.ofNat MAX_LINES_PER_CHIP line)

/-- What stands behind a descriptor: a file of the rest of the program, a chip, or a line. -/
inductive Handle (ο : Type)
  | other (file : ο)
  | chip (chip : Fin MAX_CHIPS)
  | line (pin : Pin) (isOutput : Bool)

/-- The handle is a request of the line. -/
def Handle.holds {ο : Type} (p : Pin) : Handle ο → Bool
  | .line q _ => q = p
  | _ => false

/-- An entry of `gpio_fds`. -/
structure GpioFd where
  lineFd : ℤ
  isOutput : Bool
  inUse : Bool

/-- The descriptors of the process, the levels on the lines and `gpio_fds`. -/
structure GpioState (ο : Type) where
  table : Descriptors (Handle ο)
  levels : Pin → Bool
  gpioFds : Pin → GpioFd
  /-- The descriptors that were closed as the old ones of a line. -/
  closed : List ℤ

/-- The initial value of `gpio_fds`. -/
def initialFds (p : Pin) : GpioFd where
  lineFd := if p = (0, 0) then -1 else 0
  isOutput := false
  inUse := false

/-- The start of a program that has `files` open. -/
def GpioState.boot {ο : Type} (files : Descriptors ο) (levels : Pin → Bool) : GpioState ο where
  table := files.map .other
  levels := levels
  gpioFds := initialFds
  closed := []

variable {ο : Type}

/-! ### Requesting a line -/

/-- The outcomes of the open and of the two ioctls of `gpio_line_init`, where nobody in this process
holds the line. -/
structure Attempt where
  chipOk : Bool
  infoOk : Bool
  lineOk : Bool

/-- The ioctl `GPIO_V2_GET_LINE_IOCTL`: a line that is held is busy. -/
def getLine (p : Pin) (isOutput ok : Bool) (t : Descriptors (Handle ο)) :
    Option (Descriptors (Handle ο) × ℤ) :=
  if !ok || t.Any (Handle.holds p) then none
  else
    let (t, fd) := t.allocate (.line p isOutput)
    some (t, fd)

/-- The levels after a line was given: one that is requested as an output, without values, is driven
low; an input leaves the level to the outside. -/
def requestedLevels (p : Pin) (isOutput : Bool) (levels : Pin → Bool) : Pin → Bool :=
  if isOutput then Function.update levels p false else levels

/-- `gpio_line_init` with its result. The entry of the line is always in the range of the table:
both callers have checked that. -/
def gpioLineInit (p : Pin) (isOutput : Bool) (a : Attempt) (s : GpioState ο) :
    GpioState ο × Bool :=
  if !a.chipOk then (s, false)
  else
    let (t, chipFd) := s.table.allocate (.chip p.1)
    if !a.infoOk then ({ s with table := t.close chipFd }, false)
    else match getLine p isOutput a.lineOk t with
      | none => ({ s with table := t.close chipFd }, false)
      | some (t, fd) =>
        let t := t.close chipFd
        let levels := requestedLevels p isOutput s.levels
        if fd < 0 then ({ s with table := t, levels := levels }, false)
        else
          let old := (s.gpioFds p).lineFd
          let (t, closed) :=
            if 0 ≤ old then (t.close old.toNat, s.closed ++ [old]) else (t, s.closed)
          ({ table := t
             levels := levels
             gpioFds := Function.update s.gpioFds p ⟨fd, isOutput, true⟩
             closed := closed }, true)

/-- The entry of a chip and a line, when both are in range. -/
def pinOf (chip line : ℤ) : Option Pin :=
  if h : (0 ≤ chip ∧ chip < MAX_CHIPS) ∧ 0 ≤ line ∧ line < MAX_LINES_PER_CHIP then
    some (⟨chip.toNat, by omega⟩, ⟨line.toNat, by omega⟩)
  else none

/-- The body of `export_pin` and of `set_pin_direction`. -/
def initPin (chip line : ℤ) (direction : Option CStr) (a : Attempt) (s : GpioState ο) :
    GpioState ο × Bool :=
  match direction, pinOf chip line with
  | some d, some p => gpioLineInit p (d = "out".toList) a s
  | _, _ => (s, false)

/-- `export_pin`. -/
def exportPin (chip line : ℤ) (direction : Option CStr) (a : Attempt) (s : GpioState ο) :
    GpioState ο × Bool := initPin chip line direction a s

/-- `set_pin_direction`. -/
def setPinDirection (chip line : ℤ) (direction : Option CStr) (a : Attempt) (s : GpioState ο) :
    GpioState ο × Bool := initPin chip line direction a s

/-! ### Writing and reading -/

/-- The ioctl `GPIO_V2_LINE_SET_VALUES_IOCTL`: only a line that is held as an output can be set. -/
def setValues (fd : ℕ) (value ok : Bool) (s : GpioState ο) : GpioState ο × Bool :=
  match s.table.get fd with
  | some (.line p true) =>
    if ok then ({ s with levels := Function.update s.levels p value }, true) else (s, false)
  | _ => (s, false)

/-- `write_pin_value`. -/
def writePinValue (chip line value : ℤ) (ok : Bool) (s : GpioState ο) : GpioState ο × Bool :=
  match pinOf chip line with
  | none => (s, false)
  | some p =>
    let e := s.gpioFds p
    if !e.inUse || e.lineFd < 0 || !e.isOutput then (s, false)
    else setValues e.lineFd.toNat (value ≠ 0) ok s

/-- The ioctl `GPIO_V2_LINE_GET_VALUES_IOCTL`. -/
def getValues (fd : ℕ) (ok : Bool) (s : GpioState ο) : Option Bool :=
  match s.table.get fd with
  | some (.line p _) => if ok then some (s.levels p) else none
  | _ => none

/-- `read_pin_value`. -/
def readPinValue (chip line : ℤ) (ok : Bool) (s : GpioState ο) : ℤ :=
  match pinOf chip line with
  | none => -1
  | some p =>
    let e := s.gpioFds p
    if !e.inUse then -1
    else if e.lineFd < 0 then -1
    else match getValues e.lineFd.toNat ok s with
      | none => -1
      | some level => if level then 1 else 0

/-! ### Runs -/

/-- A step of a program that uses the lines. -/
inductive GpioOp (ο : Type)
  | exportPin (chip line : ℤ) (direction : Option CStr) (a : Attempt)
  | setPinDirection (chip line : ℤ) (direction : Option CStr) (a : Attempt)
  | writePinValue (chip line value : ℤ) (ok : Bool)
  | readPinValue (chip line : ℤ) (ok : Bool)
  /-- The rest of the program opens a file. -/
  | otherOpen (file : ο)
  /-- The rest of the program closes a descriptor, if it is one of its own. -/
  | otherClose (fd : ℕ)
  /-- The outside puts a level on a line, where the line is not an output. -/
  | drive (p : Pin) (level : Bool)

/-- What a step returns. -/
inductive GpioAnswer
  | done (ok : Bool)
  | value (v : ℤ)
  | silent
deriving DecidableEq

/-- The line is driven by this process. -/
def Handle.drives (p : Pin) : Handle ο → Bool
  | .line q isOutput => q = p && isOutput
  | _ => false

/-- One step with its answer. -/
def execGpio (s : GpioState ο) : GpioOp ο → GpioState ο × GpioAnswer
  | .exportPin chip line direction a =>
    let (s, ok) := exportPin chip line direction a s
    (s, .done ok)
  | .setPinDirection chip line direction a =>
    let (s, ok) := setPinDirection chip line direction a s
    (s, .done ok)
  | .writePinValue chip line value ok =>
    let (s, ok) := writePinValue chip line value ok s
    (s, .done ok)
  | .readPinValue chip line ok => (s, .value (readPinValue chip line ok s))
  | .otherOpen file => ({ s with table := (s.table.allocate (.other file)).1 }, .silent)
  | .otherClose fd =>
    match s.table.get fd with
    | some (.other _) => ({ s with table := s.table.close fd }, .silent)
    | _ => (s, .silent)
  | .drive p level =>
    if s.table.Any (Handle.drives p) then (s, .silent)
    else ({ s with levels := Function.update s.levels p level }, .silent)

/-- The state after a step. -/
def stepGpio (s : GpioState ο) (op : GpioOp ο) : GpioState ο := (execGpio s op).1

/-! ### What a request does -/

/-- A table with a new line, after the close of what the entry of the line held. -/
def storeLine (p : Pin) (isOutput : Bool) (fd : ℕ) (s : GpioState ο) : GpioState ο where
  table :=
    if 0 ≤ (s.gpioFds p).lineFd then
      (s.table.put fd (some (.line p isOutput))).close (s.gpioFds p).lineFd.toNat
    else s.table.put fd (some (.line p isOutput))
  levels := requestedLevels p isOutput s.levels
  gpioFds := Function.update s.gpioFds p ⟨fd, isOutput, true⟩
  closed :=
    if 0 ≤ (s.gpioFds p).lineFd then s.closed ++ [(s.gpioFds p).lineFd] else s.closed

/-- The request of a line can succeed. -/
def Attempt.Succeeds (a : Attempt) : Prop := a.chipOk = true ∧ a.infoOk = true ∧ a.lineOk = true

/-- **A request** that does not succeed leaves no trace. One that succeeds finds the line free and
stores a new descriptor above 0: the one of the chip is lower, and is closed again. -/
theorem gpioLineInit_cases (p : Pin) (isOutput : Bool) (a : Attempt) (s : GpioState ο) :
    (gpioLineInit p isOutput a s = (s, false) ∧
        (¬ a.Succeeds ∨ s.table.Any (Handle.holds p))) ∨
      (a.Succeeds ∧ ¬ s.table.Any (Handle.holds p) ∧
        ∃ fd, 0 < fd ∧ s.table.get fd = none ∧
          gpioLineInit p isOutput a s = (storeLine p isOutput fd s, true)) := by
  have h_closed : (s.table.put s.table.lowest (some (.chip p.1))).close s.table.lowest = s.table :=
    Descriptors.close_put_of_free s.table.get_lowest _
  have h_busy : (s.table.put s.table.lowest (some (.chip p.1))).Any (Handle.holds p)
      ↔ s.table.Any (Handle.holds p) := by
    rw [Descriptors.any_put_of_free s.table.get_lowest]
    simp [Handle.holds]
  unfold gpioLineInit getLine Attempt.Succeeds
  simp only [Descriptors.allocate_fst, Descriptors.allocate_snd, h_busy]
  cases a.chipOk with
  | false => simp
  | true =>
    cases a.infoOk with
    | false => simp [h_closed]
    | true =>
      cases a.lineOk with
      | false => simp [h_closed]
      | true =>
        by_cases h_any : s.table.Any (Handle.holds p)
        · simp [h_any, h_closed]
        · -- the line is given, above the descriptor of the chip
          refine Or.inr ⟨⟨rfl, rfl, rfl⟩, h_any, ?_⟩
          have h_lt := s.table.lowest_lt_lowest_put (.chip p.1)
          set fd := (s.table.put s.table.lowest (some (.chip p.1))).lowest with h_fd
          have h_free : s.table.get fd = none := by
            rw [← Descriptors.get_put_of_ne s.table h_lt.ne' (some (.chip p.1))]
            exact Descriptors.get_lowest _
          refine ⟨fd, Nat.zero_lt_of_lt h_lt, h_free, ?_⟩
          have h_table : ((s.table.put s.table.lowest (some (.chip p.1))).put fd
              (some (.line p isOutput))).close s.table.lowest
              = s.table.put fd (some (.line p isOutput)) := by
            rw [Descriptors.close_put_of_ne _ h_lt.ne, h_closed]
          simp only [h_any, storeLine]
          split_ifs <;> simp_all

/-! ### What holds of the descriptors -/

/-- The lines in use, except the one whose entry is initialised to -1. -/
def GpioState.linesInUse (s : GpioState ο) : Finset Pin :=
  Finset.univ.filter (fun p => p ≠ (0, 0) ∧ (s.gpioFds p).inUse = true)

/-- Every line in use has a descriptor of its own above 0, which is open and stands for the line
with the direction of its entry. No line and no chip is open besides. The old descriptors that were
closed are 0, once for each line in use. -/
structure GpioKept (s : GpioState ο) : Prop where
  held : ∀ p, (s.gpioFds p).inUse = true → ∃ fd : ℕ, 0 < fd ∧ (s.gpioFds p).lineFd = fd ∧
    s.table.get fd = some (.line p (s.gpioFds p).isOutput)
  owned : ∀ n p isOutput, s.table.get n = some (.line p isOutput) →
    s.gpioFds p = ⟨n, isOutput, true⟩
  noChip : ∀ n c, s.table.get n ≠ some (.chip c)
  unused : ∀ p, (s.gpioFds p).inUse = false → s.gpioFds p = initialFds p
  closed_eq : s.closed = List.replicate s.linesInUse.card 0

theorem GpioKept.boot (files : Descriptors ο) (levels : Pin → Bool) :
    GpioKept (GpioState.boot files levels) where
  held p h := absurd h (by simp [GpioState.boot, initialFds])
  owned n p isOutput h := by
    change (files.get n).map Handle.other = _ at h
    cases files.get n <;> simp at h
  noChip n c h := by
    change (files.get n).map Handle.other = _ at h
    cases files.get n <;> simp at h
  unused p _ := rfl
  closed_eq := by
    simp [GpioState.boot, GpioState.linesInUse, initialFds]

/-- Only the descriptors and the entries count. -/
theorem GpioKept.congr {s s' : GpioState ο} (h : GpioKept s) (h_table : s'.table = s.table)
    (h_fds : s'.gpioFds = s.gpioFds) (h_closed : s'.closed = s.closed) : GpioKept s' where
  held := by
    rw [h_table, h_fds]
    exact h.held
  owned := by
    rw [h_table, h_fds]
    exact h.owned
  noChip := by
    rw [h_table]
    exact h.noChip
  unused := by
    rw [h_fds]
    exact h.unused
  closed_eq := by
    unfold GpioState.linesInUse
    rw [h_closed, h_fds]
    exact h.closed_eq

/-- A line is requested exactly when its entry is in use. -/
theorem GpioKept.any_holds_iff {s : GpioState ο} (h : GpioKept s) (p : Pin) :
    s.table.Any (Handle.holds p) ↔ (s.gpioFds p).inUse = true := by
  constructor
  · rintro ⟨n, k, h_get, h_holds⟩
    cases k with
    | line q isOutput =>
      obtain rfl : q = p := by simpa [Handle.holds] using h_holds
      rw [h.owned n q isOutput h_get]
    -- neither a foreign file nor the chip's holds a line
    | other _ => simp [Handle.holds] at h_holds
    | chip _ => simp [Handle.holds] at h_holds
  · intro h_use
    obtain ⟨fd, -, -, h_get⟩ := h.held p h_use
    exact ⟨fd, _, h_get, by simp [Handle.holds]⟩

/-- **A line in use is not initialised again**, with either direction. -/
theorem gpioLineInit_inUse {s : GpioState ο} (h : GpioKept s) {p : Pin}
    (h_use : (s.gpioFds p).inUse = true) (isOutput : Bool) (a : Attempt) :
    gpioLineInit p isOutput a s = (s, false) := by
  rcases gpioLineInit_cases p isOutput a s with ⟨h_fail, -⟩ | ⟨-, h_free, -⟩
  · exact h_fail
  · exact absurd ((h.any_holds_iff p).mpr h_use) h_free

/-! ### The first request of a line -/

section StoreLine

variable {s : GpioState ο} {p : Pin} {fd : ℕ} (isOutput : Bool)

/-- What the entry of a line holds that was never in use: -1 for the first one, and 0. -/
theorem GpioKept.lineFd_unused (h : GpioKept s) (h_use : (s.gpioFds p).inUse = false) :
    (s.gpioFds p).lineFd = if p = (0, 0) then -1 else 0 := by
  rw [h.unused p h_use]
  rfl

/-- The descriptors after the first request of a line: 0 is closed, unless the line is the first
one of the table. -/
theorem storeLine_get (h : GpioKept s) (h_use : (s.gpioFds p).inUse = false) (h_fd : 0 < fd)
    (n : ℕ) : (storeLine p isOutput fd s).table.get n =
      if n = fd then some (.line p isOutput)
      else if n = 0 ∧ p ≠ (0, 0) then none else s.table.get n := by
  have h_line := h.lineFd_unused h_use
  unfold storeLine
  dsimp only
  -- entry 0, 0 has the descriptor -1 from the initializer, every other one still 0, which is closed
  by_cases h_p : p = (0, 0)
  · rw [if_pos h_p] at h_line
    rw [h_line, if_neg (by decide), Descriptors.get_put]
    simp [h_p]
  · rw [if_neg h_p] at h_line
    rw [h_line, if_pos le_rfl, Descriptors.get_close, Descriptors.get_put]
    simp only [Int.toNat_zero]
    by_cases h_n : n = 0
    · simp [h_n, h_p, h_fd.ne]
    · simp [h_n]

/-- The entries of the other lines stay. -/
theorem storeLine_gpioFds_of_ne {q : Pin} (h_q : q ≠ p) :
    (storeLine p isOutput fd s).gpioFds q = s.gpioFds q := Function.update_of_ne h_q _ _

/-- The first request adds the line to the ones in use. -/
theorem storeLine_linesInUse :
    (storeLine p isOutput fd s).linesInUse
      = if p = (0, 0) then s.linesInUse else insert p s.linesInUse := by
  unfold GpioState.linesInUse storeLine
  ext q
  by_cases h_p : p = (0, 0)
  · subst h_p
    rw [if_pos rfl]
    by_cases h_q : q = (0, 0) <;> simp [h_q]
  · rw [if_neg h_p]
    by_cases h_q : q = p <;> simp [h_q, h_p]

/-- **Step.** The first request of a line keeps the descriptors in order. -/
theorem GpioKept.storeLine (h : GpioKept s) (h_use : (s.gpioFds p).inUse = false) (h_fd : 0 < fd)
    (h_free : s.table.get fd = none) : GpioKept (storeLine p isOutput fd s) where
  held q h_q := by
    by_cases h_eq : q = p
    · subst h_eq
      refine ⟨fd, h_fd, by simp [Hal.storeLine], ?_⟩
      rw [storeLine_get isOutput h h_use h_fd, if_pos rfl]
      simp [Hal.storeLine]
    · -- the descriptor of another line is neither the new one nor 0
      rw [storeLine_gpioFds_of_ne isOutput h_eq] at h_q ⊢
      obtain ⟨fd', h_pos, h_line, h_get⟩ := h.held q h_q
      refine ⟨fd', h_pos, h_line, ?_⟩
      have h_ne : fd' ≠ fd := by
        rintro rfl
        rw [h_free] at h_get
        exact absurd h_get (by simp)
      rw [storeLine_get isOutput h h_use h_fd, if_neg h_ne, if_neg (by omega)]
      exact h_get
  owned n q out h_get := by
    rw [storeLine_get isOutput h h_use h_fd] at h_get
    split_ifs at h_get with h_n h_zero
    · obtain ⟨rfl, rfl⟩ := Handle.line.inj (Option.some.inj h_get)
      simp [Hal.storeLine, h_n]
    · have h_entry := h.owned n q out h_get
      have h_ne : q ≠ p := by
        rintro rfl
        rw [h_entry] at h_use
        exact absurd h_use (by simp)
      exact (storeLine_gpioFds_of_ne isOutput h_ne).trans h_entry
  noChip n c h_get := by
    rw [storeLine_get isOutput h h_use h_fd] at h_get
    split_ifs at h_get with h_n h_zero
    · simp at h_get
    · exact h.noChip n c h_get
  unused q h_q := by
    by_cases h_eq : q = p
    · subst h_eq
      simp [Hal.storeLine] at h_q
    · rw [storeLine_gpioFds_of_ne isOutput h_eq] at h_q ⊢
      exact h.unused q h_q
  closed_eq := by
    have h_line := h.lineFd_unused h_use
    rw [storeLine_linesInUse isOutput]
    unfold Hal.storeLine
    dsimp only
    rw [h.closed_eq, h_line]
    by_cases h_p : p = (0, 0)
    · simp [h_p]
    · have h_new : p ∉ s.linesInUse := by simp [GpioState.linesInUse, h_use]
      simp [h_p, Finset.card_insert_of_notMem h_new, List.replicate_succ']

end StoreLine

/-! ### Steps and runs -/

/-- What a step changes besides levels. -/
inductive GpioChange (s : GpioState ο) (op : GpioOp ο) (s' : GpioState ο) : Prop
  | nothing (h_table : s'.table = s.table) (h_fds : s'.gpioFds = s.gpioFds)
      (h_closed : s'.closed = s.closed)
  | newLine (p : Pin) (isOutput : Bool) (fd : ℕ) (h_use : (s.gpioFds p).inUse = false)
      (h_fd : 0 < fd) (h_free : s.table.get fd = none) (h_eq : s' = storeLine p isOutput fd s)
  | opened (file : ο) (h_op : op = .otherOpen file)
      (h_eq : s' = { s with table := (s.table.allocate (.other file)).1 })
  | closed (fd : ℕ) (file : ο) (h_op : op = .otherClose fd)
      (h_get : s.table.get fd = some (.other file))
      (h_eq : s' = { s with table := s.table.close fd })

theorem initPin_change {s : GpioState ο} (h : GpioKept s) (op : GpioOp ο) (chip line : ℤ)
    (direction : Option CStr) (a : Attempt) :
    GpioChange s op (initPin chip line direction a s).1 := by
  unfold initPin
  split
  · next d p _ =>
    rcases gpioLineInit_cases p (d = "out".toList) a s with
      ⟨h_fail, -⟩ | ⟨-, h_busy, fd, h_fd, h_free, h_done⟩
    · rw [h_fail]
      exact .nothing rfl rfl rfl
    · -- the kernel granted the line, so nobody held it
      have h_use : (s.gpioFds p).inUse = false := by
        rw [← Bool.not_eq_true, ← h.any_holds_iff p]
        exact h_busy
      rw [h_done]
      exact .newLine p _ fd h_use h_fd h_free rfl
  · exact .nothing rfl rfl rfl

/-- A write changes levels only. -/
theorem writePinValue_frame (chip line value : ℤ) (ok : Bool) (s : GpioState ο) :
    ∃ levels, (writePinValue chip line value ok s).1 = { s with levels := levels } := by
  unfold writePinValue
  split
  · exact ⟨s.levels, rfl⟩
  · next p _ =>
    dsimp only
    split
    · exact ⟨s.levels, rfl⟩
    · unfold setValues
      split
      · next q _ =>
        cases ok with
        | false => exact ⟨s.levels, rfl⟩
        | true => exact ⟨Function.update s.levels q (value ≠ 0), rfl⟩
      · exact ⟨s.levels, rfl⟩

/-- What each kind of step can do. -/
theorem stepGpio_change {s : GpioState ο} (h : GpioKept s) (op : GpioOp ο) :
    GpioChange s op (stepGpio s op) := by
  cases op with
  | exportPin chip line direction a => exact initPin_change h _ chip line direction a
  | setPinDirection chip line direction a => exact initPin_change h _ chip line direction a
  | writePinValue chip line value ok =>
    -- a write may change levels, but no handle
    obtain ⟨levels, h_eq⟩ := writePinValue_frame chip line value ok s
    have h_step : stepGpio s (.writePinValue chip line value ok) = { s with levels := levels } :=
      h_eq
    rw [h_step]
    exact .nothing rfl rfl rfl
  | readPinValue chip line ok => exact .nothing rfl rfl rfl
  | otherOpen file => exact .opened file rfl rfl
  | otherClose fd =>
    -- the rest of the program closes what it has open
    unfold stepGpio execGpio
    dsimp only
    split
    · next file h_get => exact .closed fd file rfl h_get rfl
    · exact .nothing rfl rfl rfl
  | drive p level =>
    unfold stepGpio execGpio
    dsimp only
    split_ifs <;> exact .nothing rfl rfl rfl

/-- **Step.** -/
theorem GpioKept.step {s : GpioState ο} (h : GpioKept s) (op : GpioOp ο) :
    GpioKept (stepGpio s op) := by
  cases stepGpio_change h op with
  | nothing h_table h_fds h_closed => exact h.congr h_table h_fds h_closed
  | newLine p isOutput fd h_use h_fd h_free h_eq =>
    rw [h_eq]
    exact h.storeLine isOutput h_use h_fd h_free
  | opened file _ h_eq =>
    rw [h_eq]
    exact
      { held := fun p h_p => by
          obtain ⟨fd, h_fd, h_line, h_get⟩ := h.held p h_p
          exact ⟨fd, h_fd, h_line,
            (Descriptors.get_put_of_ne _ (Descriptors.ne_lowest h_get) _).trans h_get⟩
        owned := fun n p isOutput h_get => by
          change (s.table.put s.table.lowest (some (Handle.other file))).get n = _ at h_get
          rw [Descriptors.get_put] at h_get
          split_ifs at h_get with h_n
          · simp at h_get
          · exact h.owned n p isOutput h_get
        noChip := fun n c h_get => by
          change (s.table.put s.table.lowest (some (Handle.other file))).get n = _ at h_get
          rw [Descriptors.get_put] at h_get
          split_ifs at h_get with h_n
          · simp at h_get
          · exact h.noChip n c h_get
        unused := h.unused
        closed_eq := h.closed_eq }
  | closed fd file _ h_other h_eq =>
    rw [h_eq]
    exact
      { held := fun p h_p => by
          obtain ⟨fd', h_fd, h_line, h_get⟩ := h.held p h_p
          -- the descriptor that is closed is of another kind
          have h_ne : fd' ≠ fd := by
            rintro rfl
            rw [h_other] at h_get
            exact absurd h_get (by simp)
          exact ⟨fd', h_fd, h_line, (Descriptors.get_put_of_ne _ h_ne _).trans h_get⟩
        owned := fun n p isOutput h_get => by
          rw [Descriptors.get_close] at h_get
          split_ifs at h_get
          exact h.owned n p isOutput h_get
        noChip := fun n c h_get => by
          rw [Descriptors.get_close] at h_get
          split_ifs at h_get
          exact h.noChip n c h_get
        unused := h.unused
        closed_eq := h.closed_eq }

/-- **Run.** -/
theorem GpioKept.run (files : Descriptors ο) (levels : Pin → Bool) (ops : List (GpioOp ο)) :
    GpioKept (run stepGpio (GpioState.boot files levels) ops) :=
  run_invariant GpioKept (fun _ op h => h.step op) (GpioKept.boot files levels) ops

/-- The step takes a line into use, other than the first one of the table. -/
def TakesLine (s : GpioState ο) (op : GpioOp ο) : Prop :=
  ∃ p, p ≠ (0, 0) ∧ (s.gpioFds p).inUse = false ∧ ((stepGpio s op).gpioFds p).inUse = true

/-- What a step leaves alone. A file of the rest of the program is closed by the rest itself, or it
stands at 0 and a line is taken into use. A line that is taken into use always closes 0. A line in
use keeps its descriptor and its direction. -/
structure StepSpares (s : GpioState ο) (op : GpioOp ο) : Prop where
  others : ∀ n file, s.table.get n = some (.other file) →
    (stepGpio s op).table.get n = some (.other file) ∨ op = .otherClose n ∨
      n = 0 ∧ TakesLine s op
  closesZero : TakesLine s op → (stepGpio s op).table.get 0 = none
  lines : ∀ p, (s.gpioFds p).inUse = true → (stepGpio s op).gpioFds p = s.gpioFds p

/-- **Step.** -/
theorem GpioKept.stepSpares {s : GpioState ο} (h : GpioKept s) (op : GpioOp ο) :
    StepSpares s op := by
  cases stepGpio_change h op with
  | nothing h_table h_fds h_closed =>
    refine ⟨fun n file h_get => Or.inl (h_table ▸ h_get), ?_, fun p _ => by rw [h_fds]⟩
    rintro ⟨p, -, h_use, h_use'⟩
    rw [h_fds, h_use] at h_use'
    exact absurd h_use' (by simp)
  | newLine p isOutput fd h_use h_fd h_free h_eq =>
    have h_takes : p ≠ (0, 0) → TakesLine s op := fun h_p =>
      ⟨p, h_p, h_use, by rw [h_eq]; simp [Hal.storeLine]⟩
    refine ⟨fun n file h_get => ?_, ?_, fun q h_q => ?_⟩
    · rw [h_eq, storeLine_get isOutput h h_use h_fd]
      have h_ne : n ≠ fd := by
        rintro rfl
        rw [h_free] at h_get
        exact absurd h_get (by simp)
      rw [if_neg h_ne]
      split_ifs with h_zero
      · exact Or.inr (Or.inr ⟨h_zero.1, h_takes h_zero.2⟩)
      · exact Or.inl h_get
    · rintro ⟨q, h_q, h_before, h_after⟩
      -- the line that is taken is the one that was requested
      have h_same : q = p := by
        by_contra h_ne
        rw [h_eq, storeLine_gpioFds_of_ne isOutput h_ne, h_before] at h_after
        exact absurd h_after (by simp)
      rw [h_eq, storeLine_get isOutput h h_use h_fd, if_neg h_fd.ne, if_pos ⟨rfl, h_same ▸ h_q⟩]
    · have h_ne : q ≠ p := by
        rintro rfl
        rw [h_q] at h_use
        exact absurd h_use (by simp)
      rw [h_eq]
      exact storeLine_gpioFds_of_ne isOutput h_ne
  | opened file _ h_eq =>
    refine ⟨fun n file' h_get => Or.inl ?_, ?_, fun p _ => by rw [h_eq]⟩
    · rw [h_eq]
      exact (Descriptors.get_put_of_ne _ (Descriptors.ne_lowest h_get) _).trans h_get
    · rintro ⟨p, -, h_use, h_use'⟩
      rw [h_eq] at h_use'
      exact absurd (h_use.symm.trans h_use') (by simp)
  | closed fd file h_op _ h_eq =>
    refine ⟨fun n file' h_get => ?_, ?_, fun p _ => by rw [h_eq]⟩
    · by_cases h_n : n = fd
      · rw [h_n]
        exact Or.inr (Or.inl h_op)
      · rw [h_eq]
        exact Or.inl ((Descriptors.get_put_of_ne _ h_n _).trans h_get)
    · rintro ⟨p, -, h_use, h_use'⟩
      rw [h_eq] at h_use'
      exact absurd (h_use.symm.trans h_use') (by simp)

/-- **The lines keep their descriptors.** At the end of every run the descriptors are in order, and
so they are whatever step comes next. -/
theorem gpio_descriptors (files : Descriptors ο) (levels : Pin → Bool) (ops : List (GpioOp ο)) :
    GpioKept (run stepGpio (GpioState.boot files levels) ops) ∧
      ∀ op, StepSpares (run stepGpio (GpioState.boot files levels) ops) op :=
  ⟨GpioKept.run files levels ops, fun op => (GpioKept.run files levels ops).stepSpares op⟩

/-! ### A program that opens nothing else -/

/-- The step is a call of a function of `GPIO.c`. -/
def GpioOp.isCall : GpioOp ο → Bool
  | .exportPin .. | .setPinDirection .. | .writePinValue .. | .readPinValue .. => true
  | .otherOpen _ | .otherClose _ | .drive .. => false

/-- What calls of `GPIO.c` leave of the files that were open at the start: all of them but the one
at 0, which is there as long as no line has been taken into use. -/
structure FilesLeft (files : Descriptors ο) (s : GpioState ο) : Prop where
  kept : GpioKept s
  others : ∀ n, n ≠ 0 → ∀ file, s.table.get n = some (.other file) ↔ files.get n = some file
  zeroOpen : s.linesInUse = ∅ → s.table.get 0 = (files.get 0).map .other
  zeroClosed : s.linesInUse.Nonempty → s.table.get 0 = none

theorem FilesLeft.boot (files : Descriptors ο) (levels : Pin → Bool) :
    FilesLeft files (GpioState.boot files levels) where
  kept := GpioKept.boot files levels
  others n _ file := by
    change (files.get n).map Handle.other = _ ↔ _
    cases files.get n <;> simp
  zeroOpen _ := rfl
  zeroClosed h := by
    obtain ⟨p, h_p⟩ := h
    simp [GpioState.boot, GpioState.linesInUse, initialFds] at h_p

/-- **Step.** -/
theorem FilesLeft.step {files : Descriptors ο} {s : GpioState ο} (h : FilesLeft files s)
    {op : GpioOp ο} (h_op : op.isCall = true) : FilesLeft files (stepGpio s op) := by
  cases stepGpio_change h.kept op with
  | opened file h_eq _ => exact absurd h_op (by simp [h_eq, GpioOp.isCall])
  | closed fd file h_eq _ _ => exact absurd h_op (by simp [h_eq, GpioOp.isCall])
  | nothing h_table h_fds h_closed =>
    have h_lines : (stepGpio s op).linesInUse = s.linesInUse := by
      unfold GpioState.linesInUse
      rw [h_fds]
    refine ⟨h.kept.step op, ?_, ?_, ?_⟩
    · rw [h_table]
      exact h.others
    · rw [h_table, h_lines]
      exact h.zeroOpen
    · rw [h_table, h_lines]
      exact h.zeroClosed
  | newLine p isOutput fd h_use h_fd h_free h_eq =>
    have h_get := storeLine_get isOutput h.kept h_use h_fd
    have h_lines : (storeLine p isOutput fd s).linesInUse = _ := storeLine_linesInUse isOutput
    refine ⟨h.kept.step op, ?_, ?_, ?_⟩ <;> rw [h_eq]
    · intro n h_n file
      rw [h_get, ← h.others n h_n file]
      split_ifs with h_new h_zero
      · simp [h_new, h_free]
      · exact absurd h_zero.1 h_n
      · rfl
    · -- nothing is in use yet, so the line is the first one of the table
      intro h_none
      rw [h_lines] at h_none
      split_ifs at h_none with h_p
      · rw [h_get, if_neg h_fd.ne, if_neg (by simp [h_p])]
        exact h.zeroOpen h_none
      · exact absurd h_none (Finset.insert_ne_empty p _)
    · intro h_some
      rw [h_get, if_neg h_fd.ne]
      split_ifs with h_zero
      · rfl
      · have h_p : p = (0, 0) := by
          by_contra h_p
          exact h_zero ⟨rfl, h_p⟩
        rw [h_lines, if_pos h_p] at h_some
        exact h.zeroClosed h_some

/-- **Run.** -/
theorem FilesLeft.run {files : Descriptors ο} {s : GpioState ο} (h : FilesLeft files s)
    {ops : List (GpioOp ο)} (h_ops : ∀ op ∈ ops, op.isCall = true) :
    FilesLeft files (run stepGpio s ops) :=
  run_invariant_of_forall (FilesLeft files) (C := fun op => op.isCall = true)
    (fun _ _ h_op h_s => h_s.step h_op) h h_ops

end Hal

end DoorSystem
