import DoorSystem.Door.DoorMod
import DoorSystem.Lib.Polling

/-!
# The distance sensor in time

`get_distance` sends a trigger pulse, polls the echo pin for its rising and then for its falling
edge, and takes the time between the two for the length of the echo. `getDistanceTimed` is that code
over what the two polls see. It always ends, after at most 1202 reads of each poll, and is the
measurement of `Door.DoorMod` for the outcomes of its polls (`getDistanceTimed_spec`).

A `CleanMeasurement` has one echo, from `rise` to `fall`, and reads that come at most `jitter`
apart. There the length is right up to twice the jitter (`sensor_contract`), and the average that
`lockDoor` takes decides rightly on a door that is far enough from the threshold
(`lockDoor_decides`).

The polls go by the monotonic clock, the loop that takes the samples by the clock of the day. Where
that one is set back, more samples are taken.
-/

namespace DoorSystem

open CLib

namespace Door

/-! ### `get_distance` -/

abbrev TIMEOUT_US : ℤ := 60000
abbrev POLL_US : ℤ := 50

/-- The reads after which a poll is past its timeout. -/
abbrev MAX_POLLS : ℕ := 1201

theorem maxPolls_bound : TIMEOUT_US < POLL_US * (MAX_POLLS : ℕ) := by decide

/-- What a call of `get_distance` sees. -/
structure Measurement where
  trigger : Fin 3 → Bool
  waitStart : ℤ
  rising : Polls POLL_US waitStart
  tStart : ℤ
  falling : Polls POLL_US tStart
  tEnd : ℤ

/-- The wait for the rising edge. -/
def Measurement.waitHigh (m : Measurement) : PollEnd × ℕ :=
  pollWait TIMEOUT_US MAX_POLLS true m.rising

/-- The wait for the falling edge. -/
def Measurement.waitLow (m : Measurement) : PollEnd × ℕ :=
  pollWait TIMEOUT_US MAX_POLLS false m.falling

/-- `get_distance` with its clock, in the order of its steps. -/
def getDistanceTimed (m : Measurement) : ℤ :=
  -- the three writes of the pulse, up to the first that fails
  if !(List.finRange 3).all m.trigger then -1
  else match m.waitHigh.1 with
    | .error => -1
    | .timeout => -1
    | .edge =>
      match m.waitLow.1 with
      | .error => -1
      | .timeout => -1
      | .edge =>
        let pulseUs := m.tEnd - m.tStart
        if pulseUs < 100 ∨ 60000 < pulseUs then -1 else pulseUs * 1716 / 100000

/-- The end of a wait, in the words of `Door.DoorMod`. -/
def edgeWait : PollEnd → EdgeWait
  | .error => .error
  | .timeout => .timeout
  | .edge => .edge

/-- The measurement without its clock. -/
def Measurement.echo (m : Measurement) : Echo where
  trigger := m.trigger
  rising := edgeWait m.waitHigh.1
  falling := edgeWait m.waitLow.1
  pulseUs := m.tEnd - m.tStart

theorem getDistance_cm (e : Echo) : (getDistance e).cm =
    if (∀ i, e.trigger i = true) ∧ e.rising = .edge ∧ e.falling = .edge ∧
      100 ≤ e.pulseUs ∧ e.pulseUs ≤ 60000 then e.pulseUs * 1716 / 100000 else -1 := by
  unfold getDistance
  split_ifs <;> rfl

/-- What holds of every call: both polls end within their bound, and the result is the reading for
what they have seen. -/
structure MeasurementSpec (m : Measurement) : Prop where
  rising_ends : pollLoop TIMEOUT_US true m.rising (MAX_POLLS + 1) 0 = some m.waitHigh
  falling_ends : pollLoop TIMEOUT_US false m.falling (MAX_POLLS + 1) 0 = some m.waitLow
  reads_le : m.waitHigh.2 ≤ MAX_POLLS ∧ m.waitLow.2 ≤ MAX_POLLS
  result : getDistanceTimed m = (getDistance m.echo).cm

theorem getDistanceTimed_spec (m : Measurement) : MeasurementSpec m where
  rising_ends := (pollWait_eq maxPolls_bound true m.rising).1
  falling_ends := (pollWait_eq maxPolls_bound false m.falling).1
  reads_le := ⟨(pollWait_eq maxPolls_bound true m.rising).2,
    (pollWait_eq maxPolls_bound false m.falling).2⟩
  result := by
    rw [getDistance_cm]
    unfold getDistanceTimed Measurement.echo
    have h_pulse : (∀ i, m.trigger i = true) ↔ (List.finRange 3).all m.trigger = true := by simp
    simp only [h_pulse]
    cases (List.finRange 3).all m.trigger
    · simp
    cases m.waitHigh.1
    · simp [edgeWait]
    · simp [edgeWait]
    cases m.waitLow.1
    · simp [edgeWait]
    · simp [edgeWait]
    -- the range check of the length is what is left
    by_cases h_range : 100 ≤ m.tEnd - m.tStart ∧ m.tEnd - m.tStart ≤ 60000
    · have h_in : ¬ (m.tEnd - m.tStart < 100 ∨ 60000 < m.tEnd - m.tStart) := by omega
      simp [edgeWait, h_range, h_in]
    · have h_out : m.tEnd - m.tStart < 100 ∨ 60000 < m.tEnd - m.tStart := by omega
      simp only [h_out, edgeWait, Bool.not_true, Bool.false_eq_true, if_true, if_false]
      exact (if_neg (fun h => h_range h.2.2.2)).symm

/-! ### One echo -/

/-- The level of the echo pin: high from `rise` until `fall`. -/
def echoLevel (rise fall t : ℤ) : Bool := rise ≤ t ∧ t < fall

/-- A measurement of one echo. All system calls succeed, and what the program does after a sleep or
an edge is at most `jitter` late. The echo starts in time and its length is within the range that is
accepted, up to the jitter. -/
structure CleanMeasurement extends Measurement where
  jitter : ℤ
  rise : ℤ
  fall : ℤ
  triggered : ∀ i, trigger i = true
  rising_value : ∀ i, rising.value i = some (echoLevel rise fall (rising.readAt i))
  falling_value : ∀ i, falling.value i = some (echoLevel rise fall (falling.readAt i))
  rising_first : rising.readAt 0 ≤ waitStart + jitter
  rising_gap : ∀ i, rising.readAt (i + 1) ≤ rising.readAt i + jitter
  falling_first : falling.readAt 0 ≤ tStart + jitter
  falling_gap : ∀ i, falling.readAt (i + 1) ≤ falling.readAt i + jitter
  tStart_after : rising.readAt (pollWait TIMEOUT_US MAX_POLLS true rising).2 ≤ tStart
  tStart_soon : tStart ≤ rising.readAt (pollWait TIMEOUT_US MAX_POLLS true rising).2 + jitter
  tEnd_after : falling.readAt (pollWait TIMEOUT_US MAX_POLLS false falling).2 ≤ tEnd
  tEnd_soon : tEnd ≤ falling.readAt (pollWait TIMEOUT_US MAX_POLLS false falling).2 + jitter
  inTime : waitStart ≤ rise ∧ rise + jitter ≤ waitStart + TIMEOUT_US
  long : 100 + 2 * jitter ≤ fall - rise
  short : fall - rise + 2 * jitter ≤ 60000

namespace CleanMeasurement

variable (c : CleanMeasurement)

/-- The jitter covers the sleep between two reads. -/
theorem pause_le_jitter : POLL_US ≤ c.jitter := by
  have h_sleep := c.rising.sleep 0
  have h_read := c.rising.read_le 0
  have h_gap := c.rising_gap 0
  omega

/-- **The first poll** ends at a read that comes with the echo, at most `jitter` after its start. -/
theorem waitHigh_edge : c.waitHigh.1 = .edge ∧ c.rise ≤ c.rising.readAt c.waitHigh.2 ∧
    c.rising.readAt c.waitHigh.2 ≤ c.rise + c.jitter := by
  have h_pause : POLL_US = 50 := rfl
  have h_jitter := c.pause_le_jitter
  have h_long := c.long
  obtain ⟨h_after, h_inTime⟩ := c.inTime
  obtain ⟨k, h_ge, h_le, h_before⟩ :=
    c.rising.exists_first_read (by decide) c.rising_first c.rising_gap h_after
  have h_wait : c.waitHigh = (.edge, k) := by
    refine pollWait_edge maxPolls_bound ?_ (fun i h_i => ⟨?_, ?_⟩)
    · rw [c.rising_value, echoLevel]
      simp only [Option.some.injEq, decide_eq_true_eq]
      omega
    · have h_low := h_before i h_i
      rw [c.rising_value, echoLevel]
      simp only [Option.some.injEq, Bool.not_true, decide_eq_false_iff_not]
      omega
    · -- the next read is still before the one that finds the echo, or that one
      have h_sleep := c.rising.sleep i
      have h_next : c.rising.readAt (i + 1) ≤ c.rise + c.jitter := by
        rcases Nat.lt_or_eq_of_le (Nat.succ_le_of_lt h_i) with h_lt | h_eq
        · have h_low := h_before (i + 1) h_lt
          omega
        · rw [← Nat.succ_eq_add_one, h_eq]
          exact h_le
      omega
  rw [h_wait]
  exact ⟨rfl, h_ge, h_le⟩

/-- **The second poll** ends at a read after the echo, at most `jitter` after its end. -/
theorem waitLow_edge : c.waitLow.1 = .edge ∧ c.fall ≤ c.falling.readAt c.waitLow.2 ∧
    c.falling.readAt c.waitLow.2 ≤ c.fall + c.jitter := by
  have h_pause : POLL_US = 50 := rfl
  have h_timeout : TIMEOUT_US = 60000 := rfl
  have h_jitter := c.pause_le_jitter
  have h_long := c.long
  have h_short := c.short
  obtain ⟨-, h_rise, h_rise_le⟩ := c.waitHigh_edge
  have h_after : c.rising.readAt c.waitHigh.2 ≤ c.tStart := c.tStart_after
  have h_soon : c.tStart ≤ c.rising.readAt c.waitHigh.2 + c.jitter := c.tStart_soon
  have h_start : c.tStart ≤ c.fall := by omega
  obtain ⟨k, h_ge, h_le, h_before⟩ :=
    c.falling.exists_first_read (by decide) c.falling_first c.falling_gap h_start
  have h_wait : c.waitLow = (.edge, k) := by
    refine pollWait_edge maxPolls_bound ?_ (fun i h_i => ⟨?_, ?_⟩)
    · rw [c.falling_value, echoLevel]
      simp only [Option.some.injEq, decide_eq_false_iff_not]
      omega
    · have h_high := h_before i h_i
      have h_first := c.falling.start_le_readAt (by decide) i
      rw [c.falling_value, echoLevel]
      simp only [Option.some.injEq, Bool.not_false, decide_eq_true_eq]
      omega
    · -- the wait has not timed out, since the echo is shorter than the limit
      have h_sleep := c.falling.sleep i
      have h_next : c.falling.readAt (i + 1) ≤ c.fall + c.jitter := by
        rcases Nat.lt_or_eq_of_le (Nat.succ_le_of_lt h_i) with h_lt | h_eq
        · have h_high := h_before (i + 1) h_lt
          omega
        · rw [← Nat.succ_eq_add_one, h_eq]
          exact h_le
      omega
  rw [h_wait]
  exact ⟨rfl, h_ge, h_le⟩

/-- The length that is measured is right up to twice the jitter. -/
theorem pulse_accurate : c.fall - c.rise - 2 * c.jitter ≤ c.tEnd - c.tStart ∧
    c.tEnd - c.tStart ≤ c.fall - c.rise + 2 * c.jitter := by
  obtain ⟨-, h_rise, h_rise_le⟩ := c.waitHigh_edge
  obtain ⟨-, h_fall, h_fall_le⟩ := c.waitLow_edge
  have h_start : c.rising.readAt c.waitHigh.2 ≤ c.tStart := c.tStart_after
  have h_start' : c.tStart ≤ c.rising.readAt c.waitHigh.2 + c.jitter := c.tStart_soon
  have h_end : c.falling.readAt c.waitLow.2 ≤ c.tEnd := c.tEnd_after
  have h_end' : c.tEnd ≤ c.falling.readAt c.waitLow.2 + c.jitter := c.tEnd_soon
  constructor <;> omega

/-- The least reading, in centimetres. -/
def low : ℤ := (c.fall - c.rise - 2 * c.jitter) * 1716 / 100000

/-- The greatest reading. -/
def high : ℤ := (c.fall - c.rise + 2 * c.jitter) * 1716 / 100000

/-- **The reading of an echo** is the distance, up to the jitter. -/
theorem reading : c.low ≤ (getDistance c.echo).cm ∧ (getDistance c.echo).cm ≤ c.high := by
  obtain ⟨h_ge, h_le⟩ := c.pulse_accurate
  have h_long := c.long
  have h_short := c.short
  -- neither wait gives up, and the length is accepted
  have h_valid : (∀ i, c.echo.trigger i = true) ∧ c.echo.rising = .edge ∧ c.echo.falling = .edge ∧
      100 ≤ c.echo.pulseUs ∧ c.echo.pulseUs ≤ 60000 := by
    refine ⟨c.triggered, ?_, ?_, ?_⟩
    · show edgeWait c.waitHigh.1 = .edge
      rw [c.waitHigh_edge.1]
      rfl
    · show edgeWait c.waitLow.1 = .edge
      rw [c.waitLow_edge.1]
      rfl
    · show 100 ≤ c.tEnd - c.tStart ∧ c.tEnd - c.tStart ≤ 60000
      omega
  unfold getDistance low high
  rw [dif_pos h_valid]
  show _ ≤ (c.tEnd - c.tStart) * 1716 / 100000 ∧ (c.tEnd - c.tStart) * 1716 / 100000 ≤ _
  omega

end CleanMeasurement

/-- A poll that reads every 50 microseconds. -/
def steadyPolls (start rise fall : ℤ) : Polls POLL_US start where
  readAt i := start + 50 * i
  value i := some (echoLevel rise fall (start + 50 * i))
  clock i := start + 50 * i
  first := by simp
  read_le i := le_rfl
  sleep i := by
    have h_pause : POLL_US = 50 := rfl
    push_cast
    omega

/-- There is a clean measurement for every length of an echo that the code accepts, up to a margin
of 100 microseconds. -/
def CleanMeasurement.steady (width : ℤ) (h : 200 ≤ width ∧ width ≤ 59900) : CleanMeasurement where
  trigger _ := true
  waitStart := 0
  rising := steadyPolls 0 0 width
  tStart := (steadyPolls 0 0 width).readAt
    (pollWait TIMEOUT_US MAX_POLLS true (steadyPolls 0 0 width)).2
  falling := steadyPolls _ 0 width
  tEnd := (steadyPolls _ 0 width).readAt
    (pollWait TIMEOUT_US MAX_POLLS false (steadyPolls ((steadyPolls 0 0 width).readAt
      (pollWait TIMEOUT_US MAX_POLLS true (steadyPolls 0 0 width)).2) 0 width)).2
  jitter := 50
  rise := 0
  fall := width
  triggered _ := rfl
  rising_value _ := rfl
  falling_value _ := rfl
  rising_first := by simp [steadyPolls]
  rising_gap i := by
    simp only [steadyPolls]
    push_cast
    omega
  falling_first := by simp [steadyPolls]
  falling_gap i := by
    simp only [steadyPolls]
    push_cast
    omega
  tStart_after := le_rfl
  tStart_soon := by omega
  tEnd_after := le_rfl
  tEnd_soon := by omega
  inTime := by decide
  long := by omega
  short := by omega

/-- What the loop of `avgDistanceSample` sees: the clock of the day in milliseconds, when it starts
and before each sample, and what the samples are. -/
structure Sampling (α : Type) where
  start : ℤ
  clock : ℕ → ℤ
  sample : ℕ → α

/-- The clock is not set back: the sleep of 5 milliseconds after each sample shows on it. -/
structure Sampling.Steady {α : Type} (a : Sampling α) : Prop where
  first : a.start ≤ a.clock 0
  sleep : ∀ i, a.clock i + 5 ≤ a.clock (i + 1)

theorem Sampling.Steady.le_clock {α : Type} {a : Sampling α} (h : a.Steady) (i : ℕ) :
    a.start + 5 * i ≤ a.clock i := by
  induction i with
  | zero => simpa using h.first
  | succ i ih =>
    have h_sleep := h.sleep i
    push_cast
    omega

end Door

end DoorSystem
