import DoorSystem.Hub.Isolation
import DoorSystem.System.Health

/-!
# Reports and what the hub makes of them

`door_udp_update` encodes the state of a door as heartbeats and events, and `handle_line` decodes
them into the four state bits of a slot. `DoorMsg.apply` is the meaning of a report: a heartbeat
writes the door and the lock of both pairs, a door event the first bit of `D0` and a lock event the
second bit of `D1`. `step_report` says that the hub gives a report this meaning.

When every line of a door is handled in the order in which it was sent, the bits that the hub keeps
are those of the last update (`stepsAgree`). The invariant is that after an update the hub agrees
with the `g_prev` fields of the door.
-/

namespace DoorSystem

open CLib

namespace System

open Door Hub

/-! ### The meaning of a report -/

/-- The four state bits of a slot. -/
def stateBits (s : HubDoorStatus) : Report := ⟨s.d0Open, s.d0Locked, s.d1Open, s.d1Locked⟩

/-- What a report makes of the four bits. -/
def DoorMsg.apply (b : Report) : DoorMsg → Report
  | .heartbeat r => ⟨r.d0Open, r.d1Locked, r.d0Open, r.d1Locked⟩
  | .doorEvent d0Open => { b with d0Open := d0Open }
  | .lockEvent d1Locked => { b with d1Locked := d1Locked }

/-- The bits of a module, all false as long as it has no slot. -/
def hubBits (m : CStr) (h : HubState) : Report :=
  ((hubUdpGetStatus m h).map stateBits).getD ⟨false, false, false, false⟩

theorem stateBits_updateLastAddr (type : CStr) (src : SockAddr) (s : HubDoorStatus) :
    stateBits (updateLastAddr type src s) = stateBits s := by
  unfold updateLastAddr
  split_ifs <;> rfl

/-- The decoder on the words of a report. -/
theorem stateBits_lineStatus {module type : CStr} {args : List CStr} {msg : DoorMsg}
    (h_words : msg.words module = module :: type :: args) (src : SockAddr) (t : ℤ)
    (s : HubDoorStatus) :
    stateBits (lineStatus module type args src t s) = DoorMsg.apply (stateBits s) msg := by
  rw [← stateBits_updateLastAddr type src s]
  unfold lineStatus
  generalize updateLastAddr type src s = s'
  unfold DoorMsg.words at h_words
  cases msg with
  | heartbeat r =>
    obtain ⟨o, p, q, l⟩ := r
    obtain ⟨rfl, rfl⟩ := List.cons.inj (List.cons.inj h_words).2
    unfold dispatchStatus
    rw [if_pos rfl]
    -- every pair of words is parsed back
    cases o <;> cases l <;> rfl
  | doorEvent o =>
    obtain ⟨rfl, rfl⟩ := List.cons.inj (List.cons.inj h_words).2
    unfold dispatchStatus
    rw [if_neg (by decide), if_pos rfl]
    cases o <;> rfl
  | lockEvent l =>
    obtain ⟨rfl, rfl⟩ := List.cons.inj (List.cons.inj h_words).2
    unfold dispatchStatus
    rw [if_neg (by decide), if_pos rfl]
    cases l <;> rfl

/-- The words of a report start with its module and a type. -/
theorem DoorMsg.exists_words (module : CStr) (msg : DoorMsg) :
    ∃ type args, msg.words module = module :: type :: args := by
  cases msg <;> exact ⟨_, _, rfl⟩

/-- **A report is handled**: its module is known then, and its bits are what the report makes of
them. -/
theorem step_report {m : CStr} (h_text : IsText m) (h_fits : m.length < 16) (msg : DoorMsg)
    (src : SockAddr) (t tReg : ℤ) {h : HubState} (h_slot : HasSlot m h.gDoors) :
    hubUdpGetStatus m (step h (.datagram (msg.line m) src t tReg)) ≠ none ∧
      hubBits m (step h (.datagram (msg.line m) src t tReg))
        = DoorMsg.apply (hubBits m h) msg := by
  obtain ⟨type, args, h_words⟩ := DoorMsg.exists_words m msg
  have h_line : (HubEv.datagram (msg.line m) src t tReg).words = m :: type :: args :=
    (DoorMsg.lineTokens_line h_text h_fits msg).trans h_words
  obtain ⟨t', h_status⟩ := hubUdpGetStatus_step_self h_line h_fits h_slot
  refine ⟨by rw [h_status]; simp, ?_⟩
  have h_bits : stateBits ((hubUdpGetStatus m h).getD (HubDoorStatus.fresh m)) = hubBits m h := by
    unfold hubBits
    cases hubUdpGetStatus m h <;> rfl
  calc hubBits m (step h (.datagram (msg.line m) src t tReg))
      = stateBits (lineStatus m type args src t'
          ((hubUdpGetStatus m h).getD (HubDoorStatus.fresh m))) := by
        unfold hubBits
        rw [h_status]
        rfl
    _ = DoorMsg.apply (hubBits m h) msg := by rw [stateBits_lineStatus h_words, h_bits]

theorem hasSlot_of_known {m : CStr} {h : HubState} (h_known : hubUdpGetStatus m h ≠ none) :
    HasSlot m h.gDoors := by
  obtain ⟨s, h_s⟩ := Option.ne_none_iff_exists'.mp h_known
  obtain ⟨d, h_d, -⟩ := Option.map_eq_some_iff.mp h_s
  unfold HasSlot
  rw [findOrCreateDoor_of_find h_d]
  simp

/-! ### A door that is heard in order -/

/-- A call of `door_udp_update`, with the sender and the clock readings under which the hub handles
its first, second and third datagram. -/
structure UpdateCall where
  r : Report
  t : ℤ
  feed : ℕ → SockAddr × ℤ × ℤ

/-- The hub handles the datagrams of a call in the order in which they were sent. -/
def feedLines (feed : ℕ → SockAddr × ℤ × ℤ) (outs : List DoorOut) (h : HubState) : HubState :=
  run Hub.step h (outs.mapIdx
    (fun i o => .datagram o.line (feed i).1 (feed i).2.1 (feed i).2.2))

/-- One call, at the door and at the hub. -/
def stepCall (s : DoorUdp × HubState) (c : UpdateCall) : DoorUdp × HubState :=
  ((doorUdpUpdate c.r c.t s.1).1, feedLines c.feed (doorUdpUpdate c.r c.t s.1).2 s.2)

/-- A door that was started in mode NOTIFICATION|HEARTBEAT with an id of 1 to 15 characters, a hub
that has a slot for it, and the calls that follow. -/
structure CallRun where
  init : InitCall
  before : DoorUdp
  ok : (doorUdpInit2 init before).2.1 = true
  mode : init.mode = ⟨true, true⟩
  idText : IsText init.moduleId
  idFits : init.moduleId.length ≤ 15
  url : CharBuf 512
  past : List HubEv
  slot : HasSlot init.moduleId (reached url past).gDoors
  calls : List UpdateCall

/-- The door and the hub after the calls `cs`. -/
def CallRun.after (R : CallRun) (cs : List UpdateCall) : DoorUdp × HubState :=
  run stepCall ((doorUdpInit2 R.init R.before).1, reached R.url R.past) cs

/-- What the call `c` sends after the calls `cs`. -/
def CallRun.emitted (R : CallRun) (cs : List UpdateCall) (c : UpdateCall) : List DoorOut :=
  (doorUdpUpdate c.r c.t (R.after cs).1).2

/-- The datagram is a heartbeat. -/
def IsHeartbeat (o : DoorOut) : Prop :=
  (lineTokens (datagramLine o.line))[1]? = some "HEARTBEAT".toList

instance (o : DoorOut) : Decidable (IsHeartbeat o) := inferInstanceAs (Decidable (_ = _))

/-- The time of the last call among `cs` that sent a heartbeat, for a door that was `u` before. -/
def lastHeartbeat : DoorUdp → List UpdateCall → Option ℤ
  | _, [] => none
  | u, c :: cs =>
    (lastHeartbeat (doorUdpUpdate c.r c.t u).1 cs).or
      (if ∃ o ∈ (doorUdpUpdate c.r c.t u).2, IsHeartbeat o then some c.t else none)

/-- The period that `door_udp_init2` stores. -/
def CallRun.period (R : CallRun) : ℤ :=
  if 0 < R.init.heartbeatPeriodMs then R.init.heartbeatPeriodMs else 1000

/-- **Encoder and decoder agree**: after each call the hub shows the door and the lock of that call,
and a call that changes neither sends something only when the heartbeat period is over. -/
structure StepsAgree (R : CallRun) : Prop where
  status : ∀ pre c post, R.calls = pre ++ c :: post →
    ∃ s, hubUdpGetStatus R.init.moduleId (R.after (pre ++ [c])).2 = some s ∧
      s.d0Open = c.r.d0Open ∧ s.d1Locked = c.r.d1Locked
  silent : ∀ pre p c post, R.calls = pre ++ p :: c :: post →
    c.r.d0Open = p.r.d0Open → c.r.d1Locked = p.r.d1Locked → R.emitted (pre ++ [p]) c ≠ [] →
      ∃ last, lastHeartbeat (doorUdpInit2 R.init R.before).1 (pre ++ [p]) = some last ∧
        R.period ≤ c.t - last

/-! ### Calls -/

/-- The hub handles the reports `msgs` of the module one by one. -/
theorem feedLines_reports {u : DoorUdp} (h_text : IsText u.gModuleId.str) (msgs : List DoorMsg)
    (feed : ℕ → SockAddr × ℤ × ℤ) {h : HubState} (h_slot : HasSlot u.gModuleId.str h.gDoors) :
    hubBits u.gModuleId.str (feedLines feed (msgs.map (DoorMsg.out u)) h)
        = msgs.foldl DoorMsg.apply (hubBits u.gModuleId.str h) ∧
      HasSlot u.gModuleId.str (feedLines feed (msgs.map (DoorMsg.out u)) h).gDoors ∧
      (hubUdpGetStatus u.gModuleId.str h ≠ none ∨ msgs ≠ [] →
        hubUdpGetStatus u.gModuleId.str (feedLines feed (msgs.map (DoorMsg.out u)) h) ≠ none) := by
  induction msgs generalizing h feed with
  | nil => exact ⟨rfl, h_slot, fun h_or => h_or.resolve_right (fun h_ne => h_ne rfl)⟩
  | cons msg msgs ih =>
    have h_line : (msg.out u).line = msg.line u.gModuleId.str := by cases msg <;> rfl
    obtain ⟨h_known, h_bits⟩ := step_report h_text u.gModuleId.fits msg (feed 0).1 (feed 0).2.1
      (feed 0).2.2 h_slot
    obtain ⟨h_bits', h_slot', h_known'⟩ := ih (fun i => feed (i + 1)) (hasSlot_of_known h_known)
    -- the first datagram, and then the others with the rest of the feed
    have h_cons : feedLines feed ((msg :: msgs).map (DoorMsg.out u)) h
        = feedLines (fun i => feed (i + 1)) (msgs.map (DoorMsg.out u))
          (Hub.step h (.datagram (msg.line u.gModuleId.str) (feed 0).1 (feed 0).2.1
            (feed 0).2.2)) := by
      unfold feedLines
      rw [List.map_cons, List.mapIdx_cons, run_cons, h_line]
    rw [h_cons]
    refine ⟨?_, h_slot', fun _ => h_known' (Or.inl h_known)⟩
    rw [h_bits', h_bits]
    rfl

/-- The reports of an update lead from the previous values to the new ones. -/
theorem foldl_updateMsgs {u : DoorUdp} (h_mode : u.gMode = ⟨true, true⟩) (r : Report) (t : ℤ)
    {b : Report} (h_b : u.gPrevValid = true →
      b.d0Open = u.gPrev.d0Open ∧ b.d1Locked = u.gPrev.d1Locked) :
    ((updateMsgs r t u).foldl DoorMsg.apply b).d0Open = r.d0Open ∧
      ((updateMsgs r t u).foldl DoorMsg.apply b).d1Locked = r.d1Locked := by
  unfold updateMsgs
  rw [h_mode]
  by_cases h_valid : u.gPrevValid = true
  · obtain ⟨h_open, h_locked⟩ := h_b h_valid
    rw [if_pos h_valid, if_pos rfl, List.foldl_append]
    -- a heartbeat at the end brings both values, whatever came before
    by_cases h_due : heartbeatDue t u = true
    · rw [if_pos h_due]
      exact ⟨rfl, rfl⟩
    · rw [if_neg h_due, List.foldl_append]
      split_ifs with h_o h_l h_l
      · exact ⟨rfl, rfl⟩
      · exact ⟨rfl, h_locked.trans (not_not.mp h_l).symm⟩
      · exact ⟨h_open.trans (not_not.mp h_o).symm, rfl⟩
      · exact ⟨h_open.trans (not_not.mp h_o).symm, h_locked.trans (not_not.mp h_l).symm⟩
  · rw [if_neg h_valid]
    exact ⟨rfl, rfl⟩

/-- The heartbeats among the datagrams of an update. -/
theorem exists_isHeartbeat_iff {u : DoorUdp} (h_text : IsText u.gModuleId.str)
    (msgs : List DoorMsg) :
    (∃ o ∈ msgs.map (DoorMsg.out u), IsHeartbeat o) ↔ ∃ r, .heartbeat r ∈ msgs := by
  have h_out : ∀ msg, IsHeartbeat (DoorMsg.out u msg) ↔ ∃ r, msg = .heartbeat r := by
    -- the second word of the line tells
    intro msg
    have h_line : (msg.out u).line = msg.line u.gModuleId.str := by cases msg <;> rfl
    unfold IsHeartbeat
    rw [h_line, DoorMsg.lineTokens_line h_text u.gModuleId.fits]
    cases msg with
    | heartbeat r => exact iff_of_true rfl ⟨r, rfl⟩
    | doorEvent o =>
      refine iff_of_false ?_ (by simp)
      show some "EVENT".toList ≠ some "HEARTBEAT".toList
      decide
    | lockEvent l =>
      refine iff_of_false ?_ (by simp)
      show some "EVENT".toList ≠ some "HEARTBEAT".toList
      decide
  constructor
  · rintro ⟨o, h_o, h_hb⟩
    obtain ⟨msg, h_mem, rfl⟩ := List.mem_map.mp h_o
    obtain ⟨r, rfl⟩ := (h_out msg).mp h_hb
    exact ⟨r, h_mem⟩
  · rintro ⟨r, h_mem⟩
    exact ⟨_, List.mem_map_of_mem h_mem, (h_out _).mpr ⟨r, rfl⟩⟩

theorem lastHeartbeat_concat (u : DoorUdp) (cs : List UpdateCall) (c : UpdateCall) :
    lastHeartbeat u (cs ++ [c])
      = (if ∃ o ∈ (doorUdpUpdate c.r c.t
          (run (fun u (c : UpdateCall) => (doorUdpUpdate c.r c.t u).1) u cs)).2, IsHeartbeat o
          then some c.t else none).or (lastHeartbeat u cs) := by
  induction cs generalizing u with
  | nil =>
    show (lastHeartbeat _ []).or _ = _
    unfold lastHeartbeat
    rw [Option.none_or, Option.or_none]
    rfl
  | cons c' cs ih =>
    rw [List.cons_append]
    unfold lastHeartbeat
    rw [ih, Option.or_assoc]
    rfl

/-! ### The invariant -/

/-- After the calls `cs` the door is as it was started, up to its reports, and the hub agrees with
its previous values. -/
structure CallInv (R : CallRun) (cs : List UpdateCall) : Prop where
  sockOpen : (R.after cs).1.gSockOpen = true
  id : (R.after cs).1.gModuleId.str = R.init.moduleId
  mode : (R.after cs).1.gMode = ⟨true, true⟩
  period : (R.after cs).1.gHeartbeatPeriodMs = R.period
  slot : HasSlot R.init.moduleId (R.after cs).2.gDoors
  fresh : cs = [] → (R.after cs).1.gPrevValid = false
  prev : (R.after cs).1.gPrevValid = true →
    hubUdpGetStatus R.init.moduleId (R.after cs).2 ≠ none ∧
      (hubBits R.init.moduleId (R.after cs).2).d0Open = (R.after cs).1.gPrev.d0Open ∧
      (hubBits R.init.moduleId (R.after cs).2).d1Locked = (R.after cs).1.gPrev.d1Locked ∧
      lastHeartbeat (doorUdpInit2 R.init R.before).1 cs = some (R.after cs).1.gLastHeartbeatMs

theorem CallRun.after_concat (R : CallRun) (cs : List UpdateCall) (c : UpdateCall) :
    R.after (cs ++ [c]) = stepCall (R.after cs) c := by
  unfold CallRun.after
  rw [run_append]
  rfl

/-- The door does not see the hub. -/
theorem CallRun.after_fst (R : CallRun) (cs : List UpdateCall) :
    (R.after cs).1 = run (fun u (c : UpdateCall) => (doorUdpUpdate c.r c.t u).1)
      (doorUdpInit2 R.init R.before).1 cs := by
  induction cs using List.reverseRecOn with
  | nil => rfl
  | append_singleton cs c ih =>
    rw [R.after_concat, run_append, ← ih]
    rfl

theorem CallInv.initial (R : CallRun) : CallInv R [] := by
  obtain ⟨h_open, h_id, h_mode, h_fresh, h_period, -⟩ := doorUdpInit2_started R.ok
  refine ⟨h_open, ?_, h_mode.trans R.mode, ?_, R.slot, fun _ => h_fresh, ?_⟩
  · show (doorUdpInit2 R.init R.before).1.gModuleId.str = _
    rw [h_id]
    exact snprintf_of_fits (Nat.lt_succ_of_le R.idFits)
  · exact h_period
  · intro h_valid
    exact absurd (h_fresh.symm.trans h_valid) Bool.false_ne_true

/-- **Step.** -/
theorem CallInv.step {R : CallRun} {cs : List UpdateCall} (inv : CallInv R cs) (c : UpdateCall) :
    CallInv R (cs ++ [c]) ∧ (R.after (cs ++ [c])).1.gPrevValid = true ∧
      (R.after (cs ++ [c])).1.gPrev = c.r := by
  obtain ⟨h_outs, h_valid, h_prev, h_open, -, -, h_id, h_mode⟩ :=
    doorUdpUpdate_eq inv.sockOpen c.r c.t
  have h_text : IsText (R.after cs).1.gModuleId.str := by
    rw [inv.id]
    exact R.idText
  have h_slot : HasSlot (R.after cs).1.gModuleId.str (R.after cs).2.gDoors := by
    rw [inv.id]
    exact inv.slot
  have h_hb : (R.after cs).1.gMode.heartbeat = true := by rw [inv.mode]
  obtain ⟨h_period, h_timer⟩ := doorUdpUpdate_timer inv.sockOpen h_hb c.r c.t
  obtain ⟨h_bits, h_slot', h_known⟩ := feedLines_reports h_text
    (updateMsgs c.r c.t (R.after cs).1) c.feed h_slot
  rw [inv.id, ← h_outs] at h_bits h_slot' h_known
  have h_value := foldl_updateMsgs inv.mode c.r c.t
    (b := hubBits R.init.moduleId (R.after cs).2)
    (fun h_old => ⟨(inv.prev h_old).2.1, (inv.prev h_old).2.2.1⟩)
  -- the first update sends a heartbeat, and later ones find the module known
  have h_now : hubUdpGetStatus R.init.moduleId (stepCall (R.after cs) c).2 ≠ none := by
    refine h_known ?_
    by_cases h_old : (R.after cs).1.gPrevValid = true
    · exact Or.inl (inv.prev h_old).1
    · refine Or.inr ?_
      unfold updateMsgs
      rw [if_neg h_old, if_pos h_hb]
      simp
  have h_last : lastHeartbeat (doorUdpInit2 R.init R.before).1 (cs ++ [c])
      = some (stepCall (R.after cs) c).1.gLastHeartbeatMs := by
    have h_iff := exists_isHeartbeat_iff h_text (updateMsgs c.r c.t (R.after cs).1)
    rw [lastHeartbeat_concat, ← R.after_fst, h_outs]
    rcases h_timer with ⟨h_sent, h_t⟩ | ⟨h_none, h_old, -, h_t⟩
    · rw [if_pos (h_iff.mpr h_sent), Option.some_or]
      exact congrArg some h_t.symm
    · rw [if_neg (mt h_iff.mp h_none), Option.none_or, (inv.prev h_old).2.2.2]
      exact congrArg some h_t.symm
  rw [R.after_concat]
  refine ⟨⟨?_, ?_, ?_, ?_, ?_, ?_, ?_⟩, h_valid, h_prev⟩
  · rw [R.after_concat]
    exact h_open.trans inv.sockOpen
  · rw [R.after_concat]
    exact (congrArg CharBuf.str h_id).trans inv.id
  · rw [R.after_concat]
    exact h_mode.trans inv.mode
  · rw [R.after_concat]
    exact h_period.trans inv.period
  · rw [R.after_concat]
    exact h_slot'
  · intro h_nil
    exact absurd h_nil (by simp)
  · intro _
    rw [R.after_concat]
    refine ⟨h_now, ?_, ?_, h_last⟩
    · show (hubBits R.init.moduleId (feedLines c.feed _ _)).d0Open
        = (doorUdpUpdate _ _ _).1.gPrev.d0Open
      rw [h_bits, h_prev]
      exact h_value.1
    · show (hubBits R.init.moduleId (feedLines c.feed _ _)).d1Locked
        = (doorUdpUpdate _ _ _).1.gPrev.d1Locked
      rw [h_bits, h_prev]
      exact h_value.2

/-- **Run.** -/
theorem CallRun.inv (R : CallRun) (cs : List UpdateCall) : CallInv R cs := by
  induction cs using List.reverseRecOn with
  | nil => exact CallInv.initial R
  | append_singleton cs c ih => exact (ih.step c).1

/-- **Step by step.** Whatever a door reports and whatever the clocks show, after every call the hub
has the door and the lock of that call, and repeated values are sent by heartbeats only. -/
theorem stepsAgree (R : CallRun) : StepsAgree R := by
  constructor
  · intro pre c post _
    obtain ⟨inv, h_valid, h_prev⟩ := (R.inv pre).step c
    obtain ⟨h_known, h_open, h_locked, -⟩ := inv.prev h_valid
    obtain ⟨s, h_s⟩ := Option.ne_none_iff_exists'.mp h_known
    have h_bits : hubBits R.init.moduleId (R.after (pre ++ [c])).2 = stateBits s := by
      unfold hubBits
      rw [h_s]
      rfl
    rw [h_bits, h_prev] at h_open h_locked
    exact ⟨s, h_s, h_open, h_locked⟩
  · intro pre p c post _ h_open h_locked h_sent
    obtain ⟨inv, h_valid, h_prev⟩ := (R.inv pre).step p
    refine ⟨_, (inv.prev h_valid).2.2.2, ?_⟩
    unfold CallRun.emitted at h_sent
    rw [(doorUdpUpdate_eq inv.sockOpen c.r c.t).1] at h_sent
    unfold updateMsgs at h_sent
    -- without a change there are no events, so what is sent is a heartbeat that is due
    rw [if_pos h_valid, inv.mode, if_pos rfl, h_prev, if_neg (not_not.mpr h_open),
      if_neg (not_not.mpr h_locked), List.append_nil, List.nil_append] at h_sent
    by_cases h_due : heartbeatDue c.t (R.after (pre ++ [p])).1 = true
    · unfold heartbeatDue at h_due
      rw [Bool.and_eq_true, decide_eq_true_eq, inv.period] at h_due
      exact h_due.2
    · rw [if_neg h_due] at h_sent
      exact absurd rfl h_sent

/-- The door `D1` reports to a hub that has not heard of it: open first, then closed and locked. -/
def lockingCalls : CallRun where
  init := initD1
  before := .initial
  ok := initD1_ok
  mode := rfl
  idText := initD1_isText
  idFits := by decide
  url := CharBuf.zero _
  past := []
  slot := by decide +kernel
  calls := [⟨⟨true, false, false, false⟩, 0, fun _ => (SockAddr.zero, 1, 1)⟩,
    ⟨⟨false, false, false, true⟩, 100, fun _ => (SockAddr.zero, 101, 101)⟩]

theorem stepsAgree_lockingCalls : ∃ s,
    hubUdpGetStatus "D1".toList (lockingCalls.after lockingCalls.calls).2 = some s ∧
      s.d0Open = false ∧ s.d1Locked = true :=
  (stepsAgree lockingCalls).status (lockingCalls.calls.take 1) _ [] rfl

end System

end DoorSystem
