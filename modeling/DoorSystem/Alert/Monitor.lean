import DoorSystem.System.Views

/-!
# The alert monitor

`doorAlertThread` asks `door_alert_provider` for a message twice a second and sends it when it is
not the message it has sent last. The message shows the pair `D0` of the module, and behind it the
time of its last heartbeat. So the comparison sees more than the door: after every heartbeat the
message is a new one (`alertText_eq_iff`), and the monitor repeats an alert for a door that has not
changed (`not_changesOnly`). `changesOnly_iff` says for which polls this does not happen.
-/

namespace DoorSystem

open CLib

namespace Alert

open Hub DoorSystem.System

/-- A hub state as a poll finds it. The times are of type `long long`. -/
structure PolledHub where
  hub : HubState
  inLong : ∀ i, InLong (hub.gDoors i).lastHeartbeatMs

/-! ### The thread -/

/-- The first poll of `doorAlertThread`, on the provider's message: `last_msg` and the alert. -/
def firstPoll (m lastMsg : Option CStr) : Option CStr × Option CStr :=
  match m with
  | some m => (some m, some m)
  | none => (lastMsg, none)

/-- A poll of the loop of `doorAlertThread`. -/
def loopPoll (m lastMsg : Option CStr) : Option CStr × Option CStr :=
  match m with
  | some m => if lastMsg = none ∨ lastMsg ≠ some m then (some m, some m) else (lastMsg, none)
  | none => (lastMsg, none)

/-- What the module of the provider's context shows to a poll. -/
def polledStatus (ctx : Option CStr) (h : PolledHub) : Option HubDoorStatus :=
  ctx.bind (fun module => hubUdpGetStatus module h.hub)

/-- The state of the thread. -/
structure AlertThread where
  /-- The thread is in its loop. -/
  inLoop : Bool
  lastMsg : Option CStr
  /-- The status that the last alert has shown. -/
  lastAlerted : Option HubDoorStatus

def AlertThread.initial : AlertThread where
  inLoop := false
  lastMsg := none
  lastAlerted := none

/-- One poll, and the alert it sends. -/
def execPoll (ctx : Option CStr) (s : AlertThread) (h : PolledHub) : AlertThread × Option CStr :=
  let m := doorAlertProvider ctx h.hub
  let (lastMsg, alert) := if s.inLoop then loopPoll m s.lastMsg else firstPoll m s.lastMsg
  ({ inLoop := true
     lastMsg := lastMsg
     lastAlerted := if alert.isSome then polledStatus ctx h else s.lastAlerted }, alert)

/-- The thread after the polls `hs`. -/
def alertThread (ctx : Option CStr) (hs : List PolledHub) : AlertThread :=
  run (fun s h => (execPoll ctx s h).1) AlertThread.initial hs

/-- The alert of the poll of `h` after the polls `hs`. -/
def alertAt (ctx : Option CStr) (hs : List PolledHub) (h : PolledHub) : Option CStr :=
  (execPoll ctx (alertThread ctx hs) h).2

/-- The door and the lock that an alert reports. -/
def reportedDoor (st : HubDoorStatus) : Bool × Bool := (st.d0Open, st.d0Locked)

/-- **The monitor reports changes only**: after the first message, the polls that send an alert are
those that find another door or lock than the last alert has reported. -/
structure ChangesOnly (ctx : Option CStr) (hs : List PolledHub) : Prop where
  silent : ∀ pre h post, hs = pre ++ h :: post → polledStatus ctx h = none →
    alertAt ctx pre h = none
  changed : ∀ pre h post, hs = pre ++ h :: post →
    ∀ st last, polledStatus ctx h = some st → (alertThread ctx pre).lastAlerted = some last →
      ((alertAt ctx pre h).isSome = true ↔ reportedDoor st ≠ reportedDoor last)

/-! ### The message -/

theorem fmtInt_injective : Function.Injective fmtInt := by
  intro x y h
  rw [← signedDigits_fmtInt x, h, signedDigits_fmtInt]

theorem length_pairText_le (o l : Bool) : (pairText o l).length ≤ 15 := by
  cases o <;> cases l <;> decide

/-- The message fits its buffer. -/
theorem alertText_eq {st : HubDoorStatus} (h : InLong st.lastHeartbeatMs) :
    alertText st = st.moduleId.str ++ (": D0=".toList ++ (pairText st.d0Open st.d0Locked ++
      (" lastHB=".toList ++ (fmtInt st.lastHeartbeatMs ++ "ms".toList)))) := by
  have h_id := st.moduleId.fits
  have h_pair := length_pairText_le st.d0Open st.d0Locked
  have h_num := length_fmtInt_le_of_inLong h
  have h_assoc : st.moduleId.str ++ ": D0=".toList ++ pairText st.d0Open st.d0Locked ++
      " lastHB=".toList ++ fmtInt st.lastHeartbeatMs ++ "ms".toList
      = st.moduleId.str ++ (": D0=".toList ++ (pairText st.d0Open st.d0Locked ++
        (" lastHB=".toList ++ (fmtInt st.lastHeartbeatMs ++ "ms".toList)))) := by
    simp only [List.append_assoc]
  -- the text fits, whatever the id and the number are
  unfold alertText
  rw [h_assoc]
  apply snprintf_of_fits
  simp only [List.length_append]
  unfold HUB_MODULE_ID_LEN at h_id
  have h_words : (": D0=".toList).length + (" lastHB=".toList).length + ("ms".toList).length
      = 15 := by decide
  omega

/-- **The message** of a module is the same exactly when the reported door and the time of the last
heartbeat are. -/
theorem alertText_eq_iff {st st' : HubDoorStatus} (h_id : st.moduleId = st'.moduleId)
    (h : InLong st.lastHeartbeatMs) (h' : InLong st'.lastHeartbeatMs) :
    alertText st = alertText st' ↔
      reportedDoor st = reportedDoor st' ∧ st.lastHeartbeatMs = st'.lastHeartbeatMs := by
  rw [alertText_eq h, alertText_eq h', h_id]
  unfold reportedDoor
  constructor
  · intro h_eq
    have h_rest := List.append_cancel_left (List.append_cancel_left h_eq)
    obtain ⟨h_open, h_locked, h_rest⟩ := pairText_append_inj h_rest
    have h_num := List.append_cancel_right (List.append_cancel_left h_rest)
    exact ⟨Prod.ext h_open h_locked, fmtInt_injective h_num⟩
  · rintro ⟨h_door, h_time⟩
    obtain ⟨h_open, h_locked⟩ := Prod.mk.inj h_door
    rw [h_open, h_locked, h_time]

/-! ### The polls -/

section Polls

variable {ctx : Option CStr}

/-- The status is one that a poll can find for the module of the context. -/
structure Polled (ctx : Option CStr) (st : HubDoorStatus) : Prop where
  ctx_eq : ctx = some st.moduleId.str
  inLong : InLong st.lastHeartbeatMs

theorem Polled.of_status {h : PolledHub} {st : HubDoorStatus}
    (h_st : polledStatus ctx h = some st) : Polled ctx st := by
  obtain ⟨module, h_ctx, h_get⟩ := Option.bind_eq_some_iff.mp h_st
  obtain ⟨d, h_find, rfl⟩ := Http.hubUdpGetStatus_eq_some_iff.mp h_get
  obtain ⟨⟨-, h_id⟩, -⟩ := findDoor_eq_some_iff.mp h_find
  exact ⟨h_id ▸ h_ctx, h.inLong d⟩

/-- Of two statuses that polls can find the messages tell the door and the time. -/
theorem Polled.text_eq_iff {st st' : HubDoorStatus} (h : Polled ctx st) (h' : Polled ctx st') :
    alertText st = alertText st' ↔
      reportedDoor st = reportedDoor st' ∧ st.lastHeartbeatMs = st'.lastHeartbeatMs := by
  refine alertText_eq_iff (CharBuf.ext ?_) h.inLong h'.inLong
  exact Option.some.inj (h.ctx_eq.symm.trans h'.ctx_eq)

theorem doorAlertProvider_eq (h : PolledHub) :
    doorAlertProvider ctx h.hub = (polledStatus ctx h).map alertText := by
  unfold doorAlertProvider polledStatus
  cases ctx <;> rfl

/-- The status that the last answered poll has found. -/
def lastAnswered (ctx : Option CStr) (hs : List PolledHub) : Option HubDoorStatus :=
  (hs.filterMap (polledStatus ctx)).getLast?

/-- What the thread remembers after the polls `hs`. -/
structure AlertInv (ctx : Option CStr) (hs : List PolledHub) (s : AlertThread) : Prop where
  /-- Before the loop nothing has been sent. -/
  first : s.inLoop = false → s.lastMsg = none
  alerted_eq : s.lastMsg = s.lastAlerted.map alertText
  answered_eq : s.lastMsg = (lastAnswered ctx hs).map alertText
  alerted : ∀ st, s.lastAlerted = some st → Polled ctx st
  answered : ∀ st, lastAnswered ctx hs = some st → Polled ctx st

/-- A poll without an answer changes nothing. -/
theorem execPoll_of_none {s : AlertThread} {h : PolledHub} (h_none : polledStatus ctx h = none) :
    execPoll ctx s h = ({ s with inLoop := true }, none) := by
  unfold execPoll
  rw [doorAlertProvider_eq, h_none]
  unfold loopPoll firstPoll
  cases s.inLoop <;> rfl

/-- A poll with an answer sends it, unless it was the last message. -/
theorem execPoll_of_some {s : AlertThread} (h_first : s.inLoop = false → s.lastMsg = none)
    {h : PolledHub} {st : HubDoorStatus} (h_some : polledStatus ctx h = some st) :
    execPoll ctx s h = if s.lastMsg = some (alertText st) then ({ s with inLoop := true }, none)
      else (⟨true, some (alertText st), some st⟩, some (alertText st)) := by
  unfold execPoll
  rw [doorAlertProvider_eq, h_some]
  unfold loopPoll firstPoll
  cases h_loop : s.inLoop with
  | false =>
    -- the first poll of the thread has nothing to compare with
    rw [h_first h_loop]
    rfl
  | true =>
    dsimp only [Option.map_some]
    rw [if_pos rfl]
    by_cases h_same : s.lastMsg = some (alertText st)
    · -- the same text again: no alarm
      rw [if_pos h_same, if_neg (by simp [h_same])]
      rfl
    · -- another text: it is sent and kept
      rw [if_neg h_same, if_pos (Or.inr h_same)]
      rfl

theorem lastAnswered_concat_of_none (hs : List PolledHub) {h : PolledHub}
    (h_none : polledStatus ctx h = none) : lastAnswered ctx (hs ++ [h]) = lastAnswered ctx hs := by
  unfold lastAnswered
  rw [List.filterMap_append, List.filterMap_cons, h_none, List.filterMap_nil, List.append_nil]

theorem lastAnswered_concat_of_some (hs : List PolledHub) {h : PolledHub} {st : HubDoorStatus}
    (h_some : polledStatus ctx h = some st) : lastAnswered ctx (hs ++ [h]) = some st := by
  unfold lastAnswered
  rw [List.filterMap_append, List.filterMap_cons, h_some, List.filterMap_nil,
    List.getLast?_concat]

/-- **Step.** -/
theorem AlertInv.step {hs : List PolledHub} {s : AlertThread} (h_inv : AlertInv ctx hs s)
    (h : PolledHub) : AlertInv ctx (hs ++ [h]) (execPoll ctx s h).1 := by
  cases h_st : polledStatus ctx h with
  | none =>
    rw [execPoll_of_none h_st]
    have h_last := lastAnswered_concat_of_none hs h_st
    refine ⟨by simp, h_inv.alerted_eq, ?_, h_inv.alerted, ?_⟩
    · rw [h_last]
      exact h_inv.answered_eq
    · rw [h_last]
      exact h_inv.answered
  | some st =>
    rw [execPoll_of_some h_inv.first h_st]
    have h_last := lastAnswered_concat_of_some hs h_st
    have h_polled : ∀ st', lastAnswered ctx (hs ++ [h]) = some st' → Polled ctx st' := by
      intro st' h_eq
      obtain rfl := Option.some.inj (h_last.symm.trans h_eq)
      exact Polled.of_status h_st
    split_ifs with h_same
    · -- the message is the last one, and stays so
      refine ⟨by simp, h_inv.alerted_eq, ?_, h_inv.alerted, h_polled⟩
      rw [h_last]
      exact h_same
    · refine ⟨by simp, rfl, ?_, ?_, h_polled⟩
      · rw [h_last]
        rfl
      · intro st' h_eq
        obtain rfl := Option.some.inj h_eq
        exact Polled.of_status h_st

theorem alertThread_concat (hs : List PolledHub) (h : PolledHub) :
    alertThread ctx (hs ++ [h]) = (execPoll ctx (alertThread ctx hs) h).1 := run_append _ _ _ _

variable (ctx) in
/-- **Run.** -/
theorem AlertInv.thread (hs : List PolledHub) : AlertInv ctx hs (alertThread ctx hs) := by
  induction hs using List.reverseRecOn with
  | nil =>
    exact ⟨fun _ => rfl, rfl, rfl, fun _ h => absurd h (by simp [alertThread, AlertThread.initial]),
      fun _ h => absurd h (by simp [lastAnswered])⟩
  | append_singleton hs h ih =>
    rw [alertThread_concat]
    exact ih.step h

/-- A poll that finds the module sends an alert exactly when the door or the time of the last
heartbeat is another one than in the last alert. -/
theorem alertAt_isSome_iff {hs : List PolledHub} {h : PolledHub} {st last : HubDoorStatus}
    (h_st : polledStatus ctx h = some st)
    (h_last : (alertThread ctx hs).lastAlerted = some last) :
    (alertAt ctx hs h).isSome = true ↔
      ¬ (reportedDoor st = reportedDoor last ∧ st.lastHeartbeatMs = last.lastHeartbeatMs) := by
  have h_inv := AlertInv.thread ctx hs
  have h_text := (Polled.of_status h_st).text_eq_iff (h_inv.alerted last h_last)
  have h_msg : (alertThread ctx hs).lastMsg = some (alertText last) := by
    rw [h_inv.alerted_eq, h_last]
    rfl
  rw [← h_text, alertAt, execPoll_of_some h_inv.first h_st]
  split_ifs with h_same
  · -- the message is the one that has been sent last
    have h_eq := Option.some.inj (h_msg.symm.trans h_same)
    exact iff_of_false (by simp) (not_not_intro h_eq.symm)
  · have h_ne : alertText st ≠ alertText last := fun h_eq => h_same (h_eq ▸ h_msg)
    exact iff_of_true rfl h_ne

/-- The last alert shows what the last answered poll has found. -/
theorem lastAlerted_of_answered {hs : List PolledHub} {st : HubDoorStatus}
    (h : lastAnswered ctx hs = some st) :
    ∃ last, (alertThread ctx hs).lastAlerted = some last ∧
      reportedDoor last = reportedDoor st ∧ last.lastHeartbeatMs = st.lastHeartbeatMs := by
  have h_inv := AlertInv.thread ctx hs
  have h_eq := h_inv.alerted_eq.symm.trans h_inv.answered_eq
  rw [h, Option.map_some] at h_eq
  obtain ⟨last, h_last, h_text⟩ := Option.map_eq_some_iff.mp h_eq
  exact ⟨last, h_last, ((h_inv.alerted last h_last).text_eq_iff (h_inv.answered st h)).mp h_text⟩

theorem answered_of_lastAlerted {hs : List PolledHub} {last : HubDoorStatus}
    (h : (alertThread ctx hs).lastAlerted = some last) : ∃ st, lastAnswered ctx hs = some st := by
  have h_inv := AlertInv.thread ctx hs
  have h_eq := h_inv.alerted_eq.symm.trans h_inv.answered_eq
  rw [h, Option.map_some] at h_eq
  obtain ⟨st, h_st, -⟩ := Option.map_eq_some_iff.mp h_eq.symm
  exact ⟨st, h_st⟩

/-- Between two answered polls that find the same door there is no heartbeat of the module. -/
def NoHeartbeatBetween (ctx : Option CStr) (hs : List PolledHub) : Prop :=
  ∀ pre h post, hs = pre ++ h :: post →
    ∀ st before, polledStatus ctx h = some st → lastAnswered ctx pre = some before →
      reportedDoor st = reportedDoor before → st.lastHeartbeatMs = before.lastHeartbeatMs

/-- **The monitor reports changes only** exactly when the time of the last heartbeat is the same at
any two consecutive answered polls that find the same door. -/
theorem changesOnly_iff (ctx : Option CStr) (hs : List PolledHub) :
    ChangesOnly ctx hs ↔ NoHeartbeatBetween ctx hs := by
  constructor
  · -- a stamp that changes alone would make an alarm
    intro h_changes pre h post h_eq st before h_st h_before h_door
    obtain ⟨last, h_last, h_same, h_time⟩ := lastAlerted_of_answered h_before
    have h_iff := h_changes.changed pre h post h_eq st last h_st h_last
    rw [alertAt_isSome_iff h_st h_last, not_iff_not, h_same] at h_iff
    exact (h_iff.mpr h_door).2.trans h_time
  · -- without such a stamp an alarm means that the door has changed
    intro h_stamps
    refine ⟨fun pre h post _ h_none => ?_, fun pre h post h_eq st last h_st h_last => ?_⟩
    · unfold alertAt
      rw [execPoll_of_none h_none]
    · obtain ⟨before, h_before⟩ := answered_of_lastAlerted h_last
      obtain ⟨last', h_last', h_same, h_time⟩ := lastAlerted_of_answered h_before
      obtain rfl := Option.some.inj (h_last.symm.trans h_last')
      have h_stamp := h_stamps pre h post h_eq st before h_st h_before
      rw [alertAt_isSome_iff h_st h_last, not_iff_not, h_same, h_time]
      exact ⟨And.left, fun h_door => ⟨h_door, h_stamp h_door⟩⟩

end Polls

/-! ### A door that does not change -/

/-- The hub after the events `es`. -/
def polledAfter (es : List HubEv)
    (inLong : ∀ i, InLong ((reached (CharBuf.zero _) es).gDoors i).lastHeartbeatMs) : PolledHub :=
  ⟨reached (CharBuf.zero _) es, inLong⟩

/-- A heartbeat of an open, unlocked door at the time `t`. -/
def openHeartbeat (t : ℤ) : HubEv :=
  .datagram "D1 HEARTBEAT D0=OPEN,UNLOCKED D1=OPEN,UNLOCKED\n".toList ⟨1, 4001⟩ t t

/-- The hub after one heartbeat, and after a second one that says the same. -/
def firstHub : PolledHub := polledAfter [openHeartbeat 1000] (by decide +kernel)

def secondHub : PolledHub :=
  polledAfter [openHeartbeat 1000, openHeartbeat 6000] (by decide +kernel)

theorem not_changesOnly : ¬ ∀ ctx hs, ChangesOnly ctx hs := by
  intro h_all
  have h_iff := (h_all (some "D1".toList) [firstHub, secondHub]).changed [firstHub] secondHub [] rfl
    (secondHub.hub.gDoors 0) (firstHub.hub.gDoors 0) (by decide +kernel) (by decide +kernel)
  exact absurd (h_iff.mp (by decide +kernel)) (by decide +kernel)

end Alert

end DoorSystem
