import DoorSystem.Http.Api
import DoorSystem.System.Decoder
import DoorSystem.System.Identity
import DoorSystem.System.Mirror

/-!
# What the hub says about a door

A slot has two pairs of bits, and every view reads its own choice of them: the alert of
`door_alert_provider` prints the pair `D0`, the status line of the command loop and its webhook
message print both pairs, and the HTTP API takes the door from `D0` and the lock from `D1`.

A heartbeat writes both pairs. An event writes one bit of one pair, and its twin keeps the value of
the last heartbeat. `viewsAgree_iff` says for which runs nobody sees this: every event that is
handled must repeat the last heartbeat.
-/

namespace DoorSystem

open CLib

namespace System

open Door Hub Http

/-! ### The views -/

/-- `"%s,%s"`, a door and its lock. -/
def pairText (isOpen locked : Bool) : CStr := openText isOpen ++ ',' :: lockText locked

/-- `"%s: D0=%s,%s lastHB=%lldms"`. -/
def alertText (st : HubDoorStatus) : CStr :=
  (snprintf 512 (st.moduleId.str ++ ": D0=".toList ++ pairText st.d0Open st.d0Locked ++
    " lastHB=".toList ++ fmtInt st.lastHeartbeatMs ++ "ms".toList)).str

/-- `door_alert_provider`, on the module id of its context. -/
def doorAlertProvider (ctx : Option CStr) (h : HubState) : Option CStr :=
  ctx.bind (fun module => (hubUdpGetStatus module h).map alertText)

/-- `"Status %s: D0=%s,%s D1=%s,%s lastHB=%lldms\n"`, the answer of the command loop. -/
def statusLine (st : HubDoorStatus) : CStr :=
  "Status ".toList ++ (st.moduleId.str ++ (": D0=".toList ++ (pairText st.d0Open st.d0Locked ++
    (" D1=".toList ++ (pairText st.d1Open st.d1Locked ++
      (" lastHB=".toList ++ fmtInt st.lastHeartbeatMs ++ "ms\n".toList))))))

/-- `"Hub: status %s: D0=%s,%s D1=%s,%s"`, the webhook message of the command loop. -/
def statusMessage (st : HubDoorStatus) : CStr :=
  (snprintf 256 ("Hub: status ".toList ++ st.moduleId.str ++ ": D0=".toList ++
    pairText st.d0Open st.d0Locked ++ " D1=".toList ++ pairText st.d1Open st.d1Locked)).str

/-- Where the hub shows a door. -/
inductive View
  | alert
  | cli
  | webhook
  | http
deriving DecidableEq

/-- The text that a view makes of a slot. -/
def View.text : View → HubDoorStatus → CStr
  | .alert => alertText
  | .cli => statusLine
  | .webhook => statusMessage
  | .http => hubStatusBody

/-- The status of a module whose one door and lock are as given, in both pairs. -/
def withDoor (isOpen locked : Bool) (st : HubDoorStatus) : HubDoorStatus :=
  { st with d0Open := isOpen, d0Locked := locked, d1Open := isOpen, d1Locked := locked }

/-- **The views of a module agree**: there are a door and a lock that all of them show. -/
def ViewsAgree (m : CStr) (h : HubState) : Prop :=
  ∀ st, hubUdpGetStatus m h = some st →
    ∃ isOpen locked, ∀ v : View, v.text st = v.text (withDoor isOpen locked st)

/-- The bit that a field has in the other pair. -/
def twin : Field → Report → Bool
  | .d0Open, b => b.d1Open
  | .d1Locked, b => b.d0Locked

/-- What precedes the rest of a line can be read off. -/
theorem pairText_append_inj {o l o' l' : Bool} {xs ys : CStr}
    (h : pairText o l ++ xs = pairText o' l' ++ ys) : o = o' ∧ l = l' ∧ xs = ys := by
  unfold pairText at h
  cases o <;> cases o' <;> cases l <;> cases l' <;> simp [openText, lockText] at h ⊢ <;> exact h

/-- The status line shows all four bits. -/
theorem stateBits_of_statusLine {st : HubDoorStatus} {o l : Bool}
    (h : statusLine st = statusLine (withDoor o l st)) : stateBits st = ⟨o, l, o, l⟩ := by
  unfold statusLine withDoor at h
  have h_first := List.append_cancel_left (List.append_cancel_left (List.append_cancel_left h))
  obtain ⟨h_d0, h_l0, h_rest⟩ := pairText_append_inj h_first
  obtain ⟨h_d1, h_l1, -⟩ := pairText_append_inj (List.append_cancel_left h_rest)
  unfold stateBits
  rw [h_d0, h_l0, h_d1, h_l1]

/-- The views agree when the pairs of the slot do. -/
theorem viewsAgree_iff_twin {m : CStr} {h : HubState} :
    ViewsAgree m h ↔ ∀ f, reportField f (hubBits m h) = twin f (hubBits m h) := by
  unfold ViewsAgree hubBits
  cases hubUdpGetStatus m h with
  | none =>
    refine iff_of_true (fun st h_st => absurd h_st (by simp)) (fun f => ?_)
    cases f <;> rfl
  | some st =>
    constructor
    · intro h_views f
      obtain ⟨o, l, h_text⟩ := h_views st rfl
      show reportField f (stateBits st) = twin f (stateBits st)
      rw [stateBits_of_statusLine (h_text .cli)]
      cases f <;> rfl
    · intro h_twin st' h_st
      obtain rfl : st = st' := Option.some.inj h_st
      -- writing the bits that are there changes nothing
      refine ⟨st.d0Open, st.d1Locked, fun v => ?_⟩
      have h_d1 : st.d0Open = st.d1Open := h_twin .d0Open
      have h_l0 : st.d1Locked = st.d0Locked := h_twin .d1Locked
      have h_same : withDoor st.d0Open st.d1Locked st = st := by
        unfold withDoor
        cases st
        cases h_d1
        cases h_l0
        rfl
      rw [h_same]

/-! ### Reports on the way -/

/-- The datagram is one that a started door with the id `m` sends from `door_udp_update`, after any
earlier updates. -/
def ReportLine (m : CStr) (data : List Char) : Prop :=
  ∃ D : StartedDoor, D.init.moduleId = m ∧ IsText m ∧ m.length ≤ 15 ∧
    ∃ calls r t, ∃ o ∈ (doorUdpUpdate r t
      (run (fun u (c : Report × ℤ) => (doorUdpUpdate c.1 c.2 u).1) D.udp calls)).2, o.line = data

/-- A hub that has handled nothing but the reports of doors, in whatever order they came in, and
that has checked for silent modules and taken command numbers in between. -/
structure ReportRun where
  url : CharBuf 512
  events : List HubEv
  conforming : ∀ data src t tReg, .datagram data src t tReg ∈ events → ∃ m, ReportLine m data

/-- What a heartbeat of the module `m` says about a field. -/
def beatSays (f : Field) (m : CStr) (e : HubEv) : Option Bool :=
  if e.words[1]? = some "HEARTBEAT".toList then f.lineSays m e.words else none

/-- What the last heartbeat of the module `m` said, closed and unlocked if there was none. -/
def lastBeat (f : Field) (m : CStr) (es : List HubEv) : Bool := lastWrite (beatSays f m) false es

/-- The views of all modules agree in every state of the run. -/
def ReportRun.AllAgree (R : ReportRun) : Prop :=
  ∀ pre post, R.events = pre ++ post → ∀ m, ViewsAgree m (reached R.url pre)

/-- Every event of a module with a slot repeats what the last heartbeat of the module said. -/
def ReportRun.InPlace (R : ReportRun) : Prop :=
  ∀ pre e post, R.events = pre ++ e :: post → ∀ m, HasSlot m (reached R.url pre).gDoors →
    ∀ f b, beatSays f m e = none → f.lineSays m e.words = some b → b = lastBeat f m pre

/-- What a report says about the other pair: events say nothing. -/
def msgBeat (f : Field) (msg : DoorMsg) : Option Bool :=
  if msgIsHb msg then msgSays f msg else none

theorem reportField_apply (f : Field) (b : Report) (msg : DoorMsg) :
    reportField f (DoorMsg.apply b msg) = (msgSays f msg).getD (reportField f b) := by
  cases msg <;> cases f <;> rfl

theorem twin_apply (f : Field) (b : Report) (msg : DoorMsg) :
    twin f (DoorMsg.apply b msg) = (msgBeat f msg).getD (twin f b) := by
  cases msg <;> cases f <;> rfl

/-- A started door keeps its id and its socket. -/
theorem StartedDoor.sameRoute (D : StartedDoor) (calls : List (Report × ℤ)) :
    SameRoute D.udp (run (fun u (c : Report × ℤ) => (doorUdpUpdate c.1 c.2 u).1) D.udp calls) := by
  refine run_invariant (SameRoute D.udp) (fun u c h_u => ?_) ⟨rfl, rfl, rfl, rfl, rfl⟩ calls
  have h_open : u.gSockOpen = true := h_u.1.trans (doorUdpInit2_started D.ok).1
  exact sameRoute_trans h_u (doorUdpUpdate_eq h_open c.1 c.2).2.2.2

/-- What a door sends from `door_udp_update` is a heartbeat or an event. -/
theorem ReportLine.exists_msg {m : CStr} {data : List Char} (h : ReportLine m data) :
    IsText m ∧ m.length < 16 ∧ ∃ msg : DoorMsg, data = msg.line m := by
  obtain ⟨D, rfl, h_text, h_fits, calls, r, t, o, h_o, rfl⟩ := h
  obtain ⟨h_open, h_id, -⟩ := doorUdpInit2_started D.ok
  obtain ⟨h_sock, -, -, h_same, -⟩ := D.sameRoute calls
  refine ⟨h_text, Nat.lt_succ_of_le h_fits, ?_⟩
  rw [(doorUdpUpdate_eq (h_sock.trans h_open) r t).1] at h_o
  obtain ⟨msg, -, rfl⟩ := List.mem_map.mp h_o
  refine ⟨msg, ?_⟩
  have h_line : ∀ u : DoorUdp, (msg.out u).line = msg.line u.gModuleId.str := by
    intro u
    cases msg <;> rfl
  -- an id of 15 characters is stored whole
  rw [h_line, h_same]
  exact congrArg msg.line ((congrArg CharBuf.str h_id).trans
    (snprintf_of_fits (Nat.lt_succ_of_le h_fits)))

/-- The events of a run are reports, or no lines at all. -/
theorem ReportRun.event_cases (R : ReportRun) {e : HubEv} (h_e : e ∈ R.events) :
    (∃ m msg src t tReg, IsText m ∧ m.length < 16 ∧
      e = .datagram (DoorMsg.line m msg) src t tReg) ∨ e.words = [] := by
  cases e with
  | datagram data src t tReg =>
    obtain ⟨m, h_report⟩ := R.conforming data src t tReg h_e
    obtain ⟨h_text, h_fits, msg, rfl⟩ := h_report.exists_msg
    exact Or.inl ⟨m, msg, src, t, tReg, h_text, h_fits, rfl⟩
  | check now => exact Or.inr rfl
  | alloc => exact Or.inr rfl

/-! ### One event -/

/-- An event that is no line changes no bits. -/
theorem hubBits_step_of_no_line {e : HubEv} (h_words : e.words = []) (m : CStr) (h : HubState) :
    hubBits m (Hub.step h e) = hubBits m h := by
  rcases step_gDoors_cases h e with ⟨mod, type, args, t, h_some, -⟩ | ⟨-, h_same⟩
  · rw [h_words] at h_some
    exact absurd h_some (by simp)
  · have h_find : findDoor m (Hub.step h e).gDoors = findDoor m h.gDoors := by
      refine findDoor_congr (fun i => ?_) m
      rw [h_same i]
      exact ⟨rfl, rfl⟩
    unfold hubBits hubUdpGetStatus
    rw [h_find]
    cases findDoor m h.gDoors with
    | none => rfl
    | some d =>
      show stateBits ((Hub.step h e).gDoors d) = stateBits (h.gDoors d)
      rw [h_same d]
      rfl

/-- What an event of a run means for the module `m`: its report is applied, or nothing happens. -/
theorem ReportRun.step_cases (R : ReportRun) {e : HubEv} (h_e : e ∈ R.events) {m : CStr}
    {h : HubState} (h_slot : HasSlot m h.gDoors) :
    (∃ msg, hubBits m (Hub.step h e) = DoorMsg.apply (hubBits m h) msg ∧
      ∀ f, beatSays f m e = msgBeat f msg ∧ f.lineSays m e.words = msgSays f msg) ∨
    (hubBits m (Hub.step h e) = hubBits m h ∧
      ∀ f, beatSays f m e = none ∧ f.lineSays m e.words = none) := by
  rcases R.event_cases h_e with ⟨m', msg, src, t, tReg, h_text, h_fits, rfl⟩ | h_none
  · have h_words : (HubEv.datagram (msg.line m') src t tReg).words = msg.words m' :=
      DoorMsg.lineTokens_line h_text h_fits msg
    by_cases h_m : m' = m
    · subst h_m
      refine Or.inl ⟨msg, (step_report h_text h_fits msg src t tReg h_slot).2, fun f => ?_⟩
      unfold beatSays
      rw [h_words, lineSays_words]
      refine ⟨?_, rfl⟩
      -- the second word tells heartbeats from events
      cases msg with
      | heartbeat r => exact if_pos rfl
      | doorEvent o =>
        refine if_neg ?_
        show some "EVENT".toList ≠ some "HEARTBEAT".toList
        decide
      | lockEvent l =>
        refine if_neg ?_
        show some "EVENT".toList ≠ some "HEARTBEAT".toList
        decide
    · obtain ⟨type, args, h_eq⟩ := DoorMsg.exists_words m' msg
      refine Or.inr ⟨?_, fun f => ?_⟩
      · unfold hubBits
        rw [hubUdpGetStatus_step_of_ne (h_words.trans h_eq) h_fits (Ne.symm h_m)]
      · have h_word : f.lineSays m (HubEv.datagram (msg.line m') src t tReg).words = none := by
          rw [h_words, h_eq]
          exact if_neg h_m
        unfold beatSays
        rw [h_word]
        exact ⟨ite_self _, rfl⟩
  · refine Or.inr ⟨hubBits_step_of_no_line h_none m h, fun f => ?_⟩
    unfold beatSays
    rw [h_none]
    exact ⟨ite_self _, rfl⟩

/-! ### Runs -/

/-- The twins of a module with a slot keep what its last heartbeat said. -/
theorem ReportRun.twin_eq_lastBeat (R : ReportRun) {pre post : List HubEv}
    (h_pre : R.events = pre ++ post) {m : CStr} (h_slot : HasSlot m (reached R.url pre).gDoors)
    (f : Field) : twin f (hubBits m (reached R.url pre)) = lastBeat f m pre := by
  induction pre using List.reverseRecOn generalizing post with
  | nil => cases f <;> rfl
  | append_singleton pre e ih =>
    rw [List.append_assoc] at h_pre
    rw [reached_concat] at h_slot ⊢
    have h_old := hasSlot_of_step h_slot
    have h_e : e ∈ R.events := by
      rw [h_pre]
      simp
    unfold lastBeat
    rw [lastWrite_concat]
    -- the module's own line, or one that leaves its bits
    rcases R.step_cases h_e h_old with ⟨msg, h_bits, h_word⟩ | ⟨h_bits, h_word⟩
    · rw [h_bits, twin_apply, (h_word f).1, ih h_pre h_old]
      rfl
    · rw [h_bits, (h_word f).1, ih h_pre h_old]
      rfl

/-- **Step.** If the views of a module with a slot agree, they do so after the next event exactly
when this repeats the last heartbeat. -/
theorem ReportRun.viewsAgree_step_iff (R : ReportRun) {pre : List HubEv} {e : HubEv}
    {post : List HubEv} (h_pre : R.events = pre ++ e :: post) {m : CStr}
    (h_agree : ViewsAgree m (reached R.url pre)) (h_slot : HasSlot m (reached R.url pre).gDoors) :
    ViewsAgree m (Hub.step (reached R.url pre) e) ↔
      ∀ f b, beatSays f m e = none → f.lineSays m e.words = some b → b = lastBeat f m pre := by
  have h_e : e ∈ R.events := by
    rw [h_pre]
    simp
  rw [viewsAgree_iff_twin] at h_agree ⊢
  rcases R.step_cases h_e h_slot with ⟨msg, h_bits, h_msg⟩ | ⟨h_bits, h_none⟩
  · -- the report writes the shown bit, and its twin as well if it is a heartbeat
    rw [h_bits]
    refine forall_congr' (fun f => ?_)
    rw [reportField_apply, twin_apply, (h_msg f).1, (h_msg f).2, h_agree f,
      R.twin_eq_lastBeat h_pre h_slot]
    unfold msgBeat
    cases msgSays f msg with
    | none => simp
    | some b =>
      by_cases h_hb : msgIsHb msg = true
      · simp [h_hb]
      · simp [h_hb]
  · rw [h_bits]
    refine iff_of_true h_agree (fun f b _ h_word => ?_)
    rw [(h_none f).2] at h_word
    exact absurd h_word (by simp)

/-- **Views.** The views of all modules agree all the time exactly when every event that is handled
repeats the last heartbeat of its module. -/
theorem viewsAgree_iff (R : ReportRun) : R.AllAgree ↔ R.InPlace := by
  constructor
  · intro h_agree pre e post h_pre m h_slot
    have h_after : R.events = (pre ++ [e]) ++ post := by
      rw [h_pre, List.append_assoc]
      rfl
    have h_step := h_agree (pre ++ [e]) post h_after m
    rw [reached_concat] at h_step
    exact (R.viewsAgree_step_iff h_pre (h_agree pre _ h_pre m) h_slot).mp h_step
  · intro h_place pre
    induction pre using List.reverseRecOn with
    | nil =>
      intro post _ m
      refine viewsAgree_iff_twin.mpr (fun f => ?_)
      cases f <;> rfl
    | append_singleton pre e ih =>
      intro post h_pre m
      rw [List.append_assoc] at h_pre
      rw [reached_concat]
      by_cases h_slot : HasSlot m (Hub.step (reached R.url pre) e).gDoors
      · have h_old := hasSlot_of_step h_slot
        exact (R.viewsAgree_step_iff h_pre (ih _ h_pre m) h_old).mpr
          (h_place pre e post h_pre m h_old)
      · -- the hub says nothing about a module without a slot
        intro st h_st
        exact absurd (hasSlot_of_known (by rw [h_st]; simp)) h_slot

/-! ### A lock that moves between two heartbeats -/

/-- Its first report: closed and locked. -/
def lockedHeartbeat : CStr := "D1 HEARTBEAT D0=CLOSED,LOCKED D1=CLOSED,LOCKED\n".toList

/-- Its second report: the lock is open now. -/
def unlockEvent : CStr := "D1 EVENT D1 LOCK UNLOCKED\n".toList

theorem doorD1_first : (doorUdpUpdate ⟨false, false, false, true⟩ 0 doorD1.udp).2.map DoorOut.line
    = [lockedHeartbeat] := by decide +kernel

theorem doorD1_second : (doorUdpUpdate ⟨false, false, false, false⟩ 100
    (doorUdpUpdate ⟨false, false, false, true⟩ 0 doorD1.udp).1).2.map DoorOut.line
    = [unlockEvent] := by decide +kernel

theorem reportLine_lockedHeartbeat : ReportLine "D1".toList lockedHeartbeat := by
  refine ⟨doorD1, rfl, initD1_isText, by decide, [], ⟨false, false, false, true⟩, 0, ?_⟩
  refine List.mem_map.mp ?_
  rw [run_nil, doorD1_first]
  exact List.mem_singleton_self _

theorem reportLine_unlockEvent : ReportLine "D1".toList unlockEvent := by
  refine ⟨doorD1, rfl, initD1_isText, by decide, [(⟨false, false, false, true⟩, 0)],
    ⟨false, false, false, false⟩, 100, ?_⟩
  refine List.mem_map.mp ?_
  rw [run_cons, run_nil, doorD1_second]
  exact List.mem_singleton_self _

/-- The hub handles the two reports in the order in which they were sent. -/
def unlockedRun : ReportRun where
  url := CharBuf.zero _
  events := [.datagram lockedHeartbeat SockAddr.zero 1 1,
    .datagram unlockEvent SockAddr.zero 101 101]
  conforming := by
    intro data src t tReg h_mem
    rcases List.mem_cons.mp h_mem with h_first | h_rest
    · obtain ⟨rfl, -⟩ := HubEv.datagram.inj h_first
      exact ⟨_, reportLine_lockedHeartbeat⟩
    · obtain ⟨rfl, -⟩ := HubEv.datagram.inj (List.mem_singleton.mp h_rest)
      exact ⟨_, reportLine_unlockEvent⟩

/-- **Views, as one would expect them**, fail: the alert says that the door is locked when the HTTP
API says that it is not. -/
theorem not_allAgree : ¬ unlockedRun.AllAgree := by
  intro h_agree
  have h_views := h_agree unlockedRun.events [] (List.append_nil _).symm "D1".toList
  have h_twin := viewsAgree_iff_twin.mp h_views .d1Locked
  revert h_twin
  decide +kernel

/-- What the alert and the HTTP API say in the end. -/
example : (hubUdpGetStatus "D1".toList (reached unlockedRun.url unlockedRun.events)).map
    (fun st => (alertText st,
      decide ("\"front_lock_locked\":false".toList <:+: hubStatusBody st))) =
    some ("D1: D0=CLOSED,LOCKED lastHB=1ms".toList, true) := by
  decide +kernel

end System

end DoorSystem
