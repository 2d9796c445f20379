import DoorSystem.Wire

/-!
# The UDP transport of a door module

`door_udp.c` without its listener thread (see `Door.Handler`): the socket, the two destinations, the
show detection of `door_udp_update` and the lines it sends. The destination ports stand for the
two channels to the hub.

`doorUdpUpdate_eq` is the spec of an update on an open socket: the state keeps the report that was
passed, and what is sent are the reports of `updateMsgs`. The words of their lines are in
`DoorMsg.lineTokens_line`.
-/

namespace DoorSystem

open CLib

namespace Door

/-- `DoorReportMode`, one field for each bit. -/
structure DoorReportMode where
  notification : Bool
  heartbeat : Bool
deriving DecidableEq

/-- The arguments of `door_udp_update`. -/
structure Report where
  d0Open : Bool
  d0Locked : Bool
  d1Open : Bool
  d1Locked : Bool
deriving DecidableEq

/-- The static variables of `door_udp.c`. -/
structure DoorUdp where
  /-- `g_sock >= 0`. -/
  gSockOpen : Bool
  gDestNotif : ℕ
  gDestHb : ℕ
  gModuleId : CharBuf 16
  gMode : DoorReportMode
  gHeartbeatPeriodMs : ℤ
  gPrevValid : Bool
  /-- `g_prev_d0_open`, `g_prev_d0_locked`, `g_prev_d1_open` and `g_prev_d1_locked`. -/
  gPrev : Report
  gLastHeartbeatMs : ℤ
  gCmdRunning : Bool
  /-- A command handler is registered. -/
  gCmdHandler : Bool

/-- The variables at program start. -/
def DoorUdp.initial : DoorUdp where
  gSockOpen := false
  gDestNotif := 0
  gDestHb := 0
  gModuleId := snprintf 16 "M?".toList
  gMode := ⟨true, false⟩
  gHeartbeatPeriodMs := 1000
  gPrevValid := false
  gPrev := ⟨false, false, false, false⟩
  gLastHeartbeatMs := 0
  gCmdRunning := false
  gCmdHandler := false

/-- A datagram to the hub. -/
structure DoorOut where
  port : ℕ
  line : CStr
deriving DecidableEq

/-- `send_line_notif`. -/
def sendLineNotif (line : CStr) (u : DoorUdp) : List DoorOut :=
  if u.gSockOpen then [⟨u.gDestNotif, line⟩] else []

/-- `send_line_hb`. -/
def sendLineHb (line : CStr) (u : DoorUdp) : List DoorOut :=
  if u.gSockOpen then [⟨u.gDestHb, line⟩] else []

/-- `door_udp_register_command_handler`. -/
def doorUdpRegisterCommandHandler (u : DoorUdp) : DoorUdp := { u with gCmdHandler := true }

/-- `door_udp_send_feedback`. -/
def doorUdpSendFeedback (module : CStr) (cmdid : ℤ) (target action : CStr) (u : DoorUdp) :
    List DoorOut :=
  if u.gSockOpen then
    sendLineNotif (snprintf 256 (feedbackLine module cmdid target action)).str u
  else []

/-! ### Start and end -/

/-- The arguments of `door_udp_init2` and the outcomes of its system calls. -/
structure InitCall where
  notifPort : ℕ
  hbPort : ℕ
  moduleId : CStr
  mode : DoorReportMode
  heartbeatPeriodMs : ℤ
  now : ℤ
  socketOk : Bool
  inetPtonOk : Bool
  bindOk : Bool
  threadOk : Bool

/-- What both forms of the initialisation store first. -/
def DoorUdp.configure (c : InitCall) (u : DoorUdp) : DoorUdp :=
  { u with
    gModuleId := snprintf 16 c.moduleId
    gMode := c.mode
    gHeartbeatPeriodMs := if 0 < c.heartbeatPeriodMs then c.heartbeatPeriodMs else 1000
    gPrevValid := false
    gLastHeartbeatMs := c.now }

/-- `"%s HELLO\n"`. -/
def helloLine (u : DoorUdp) : CStr :=
  (snprintf 256 (spaced [u.gModuleId.str, "HELLO".toList] ++ ['\n'])).str

/-- `door_udp_init`, on the notification port: no listener is started. -/
def doorUdpInit (c : InitCall) (u : DoorUdp) : DoorUdp × Bool × List DoorOut :=
  let u := u.configure c
  if !c.socketOk then (u, false, [])
  else
    let u := { u with gDestNotif := c.notifPort, gDestHb := c.notifPort }
    if !c.inetPtonOk then (u, false, [])
    else
      let u := { u with gSockOpen := true }
      (u, true, sendLineNotif (helloLine u) u)

/-- `door_udp_init2`. -/
def doorUdpInit2 (c : InitCall) (u : DoorUdp) : DoorUdp × Bool × List DoorOut :=
  if c.notifPort = c.hbPort then doorUdpInit c u
  else
    let u := u.configure c
    if !c.socketOk then (u, false, [])
    else
      let u := { u with gDestNotif := c.notifPort, gDestHb := c.hbPort }
      if !c.inetPtonOk then (u, false, [])
      else if !c.bindOk then (u, false, [])
      else
        let u := { u with gSockOpen := true }
        let hello := sendLineNotif (helloLine u) u
        if !c.threadOk then ({ u with gCmdRunning := false }, false, hello)
        else ({ u with gCmdRunning := true }, true, hello)

/-- What a successful `door_udp_init2` with two ports leaves. -/
theorem doorUdpInit2_ok {c : InitCall} {u : DoorUdp} (h_ports : c.notifPort ≠ c.hbPort)
    (h_ok : (doorUdpInit2 c u).2.1 = true) :
    (doorUdpInit2 c u).1 = { u.configure c with
      gDestNotif := c.notifPort
      gDestHb := c.hbPort
      gSockOpen := true
      gCmdRunning := true } := by
  unfold doorUdpInit2 at h_ok ⊢
  rw [if_neg h_ports] at h_ok ⊢
  dsimp only at h_ok ⊢
  -- every branch that gives up returns false
  split_ifs at h_ok ⊢
  rfl

/-- **Start.** What every successful `door_udp_init2` stores and sends, with one port or two. -/
theorem doorUdpInit2_started {c : InitCall} {u : DoorUdp} (h_ok : (doorUdpInit2 c u).2.1 = true) :
    (doorUdpInit2 c u).1.gSockOpen = true ∧
      (doorUdpInit2 c u).1.gModuleId = snprintf 16 c.moduleId ∧
      (doorUdpInit2 c u).1.gMode = c.mode ∧ (doorUdpInit2 c u).1.gPrevValid = false ∧
      (doorUdpInit2 c u).1.gHeartbeatPeriodMs = (u.configure c).gHeartbeatPeriodMs ∧
      (doorUdpInit2 c u).2.2 = [⟨c.notifPort, helloLine (doorUdpInit2 c u).1⟩] := by
  unfold doorUdpInit2 at h_ok ⊢
  split_ifs at h_ok ⊢
  · -- one port: the old initialisation
    unfold doorUdpInit at h_ok ⊢
    dsimp only at h_ok ⊢
    split_ifs at h_ok ⊢
    exact ⟨rfl, rfl, rfl, rfl, rfl, rfl⟩
  · -- two ports: all system calls have succeeded
    exact ⟨rfl, rfl, rfl, rfl, rfl, rfl⟩

/-- The hello of a door is received word by word. -/
theorem lineTokens_helloLine {u : DoorUdp} (h_text : IsText u.gModuleId.str) :
    lineTokens (datagramLine (helloLine u)) = [u.gModuleId.str, "HELLO".toList] := by
  have h_fits := u.gModuleId.fits
  refine lineTokens_sent ?_ ?_
  · simp only [List.forall_mem_cons]
    exact ⟨h_text, by decide, by simp⟩
  · -- 15 characters at most, a blank and the word fit in the buffer
    have h_five : "HELLO".toList.length = 5 := rfl
    rw [spaced_cons_cons, spaced_singleton, List.length_append, List.length_append,
      List.length_cons, List.length_singleton]
    omega

/-- `door_udp_close`. -/
def doorUdpClose (u : DoorUdp) : DoorUdp :=
  { u with gCmdRunning := false, gSockOpen := false, gPrevValid := false }

/-! ### Updates -/

/-- `"OPEN"` or `"CLOSED"`. -/
def openText (b : Bool) : CStr := if b then "OPEN".toList else "CLOSED".toList

/-- `"LOCKED"` or `"UNLOCKED"`. -/
def lockText (b : Bool) : CStr := if b then "LOCKED".toList else "UNLOCKED".toList

/-- `"%s HEARTBEAT D0=%s,%s D1=%s,%s\n"`: both tokens carry the same pair. -/
def heartbeatLine (module : CStr) (r : Report) : CStr :=
  let pair := openText r.d0Open ++ ',' :: lockText r.d1Locked
  (snprintf 256 (spaced [module, "HEARTBEAT".toList, "D0=".toList ++ pair, "D1=".toList ++ pair]
    ++ ['\n'])).str

/-- `"%s EVENT D0 DOOR %s\n"`. -/
def doorEventLine (module : CStr) (d0Open : Bool) : CStr :=
  (snprintf 256 (spaced [module, "EVENT".toList, "D0".toList, "DOOR".toList, openText d0Open]
    ++ ['\n'])).str

/-- `"%s EVENT D1 LOCK %s\n"`. -/
def lockEventLine (module : CStr) (d1Locked : Bool) : CStr :=
  (snprintf 256 (spaced [module, "EVENT".toList, "D1".toList, "LOCK".toList, lockText d1Locked]
    ++ ['\n'])).str

/-- The notifications of an update, for what changed since the last one. -/
def updateEvents (r : Report) (u : DoorUdp) : List DoorOut :=
  if u.gMode.notification then
    (if r.d0Open ≠ u.gPrev.d0Open then
      sendLineNotif (doorEventLine u.gModuleId.str r.d0Open) u else []) ++
    (if r.d1Locked ≠ u.gPrev.d1Locked then
      sendLineNotif (lockEventLine u.gModuleId.str r.d1Locked) u else [])
  else []

/-- A periodic heartbeat is due at the time `t`. -/
def heartbeatDue (t : ℤ) (u : DoorUdp) : Bool :=
  u.gMode.heartbeat && decide (u.gHeartbeatPeriodMs ≤ t - u.gLastHeartbeatMs)

/-- `door_udp_update`, at the time `t`. -/
def doorUdpUpdate (r : Report) (t : ℤ) (u : DoorUdp) : DoorUdp × List DoorOut :=
  if !u.gSockOpen then (u, [])
  else if !u.gPrevValid then
    let u := { u with gPrev := r, gPrevValid := true, gLastHeartbeatMs := t }
    (u, if u.gMode.heartbeat then sendLineHb (heartbeatLine u.gModuleId.str r) u else [])
  else
    let events := updateEvents r u
    let hb := if heartbeatDue t u then sendLineHb (heartbeatLine u.gModuleId.str r) u else []
    let u := if heartbeatDue t u then { u with gLastHeartbeatMs := t } else u
    ({ u with gPrev := r }, events ++ hb)

/-! ### The spec of an update -/

/-- What a line of `door_udp_update` reports. -/
inductive DoorMsg
  | heartbeat (r : Report)
  | doorEvent (d0Open : Bool)
  | lockEvent (d1Locked : Bool)
deriving DecidableEq

/-- The line of a report. -/
def DoorMsg.line (module : CStr) : DoorMsg → CStr
  | .heartbeat r => heartbeatLine module r
  | .doorEvent d0Open => doorEventLine module d0Open
  | .lockEvent d1Locked => lockEventLine module d1Locked

/-- The datagram of a report: heartbeats and events go to different destinations. -/
def DoorMsg.out (u : DoorUdp) (msg : DoorMsg) : DoorOut :=
  match msg with
  | .heartbeat _ => ⟨u.gDestHb, msg.line u.gModuleId.str⟩
  | _ => ⟨u.gDestNotif, msg.line u.gModuleId.str⟩

/-- The reports of an update. -/
def updateMsgs (r : Report) (t : ℤ) (u : DoorUdp) : List DoorMsg :=
  if u.gPrevValid then
    (if u.gMode.notification then
      (if r.d0Open ≠ u.gPrev.d0Open then [.doorEvent r.d0Open] else []) ++
      (if r.d1Locked ≠ u.gPrev.d1Locked then [.lockEvent r.d1Locked] else [])
    else []) ++
    (if heartbeatDue t u then [.heartbeat r] else [])
  else if u.gMode.heartbeat then [.heartbeat r] else []

/-- The part of the transport that updates leave alone. -/
def SameRoute (u u' : DoorUdp) : Prop :=
  u'.gSockOpen = u.gSockOpen ∧ u'.gDestNotif = u.gDestNotif ∧ u'.gDestHb = u.gDestHb ∧
    u'.gModuleId = u.gModuleId ∧ u'.gMode = u.gMode

theorem sendLineNotif_eq {u : DoorUdp} (h_open : u.gSockOpen = true) (line : CStr) :
    sendLineNotif line u = [⟨u.gDestNotif, line⟩] := if_pos h_open

theorem sendLineHb_eq {u : DoorUdp} (h_open : u.gSockOpen = true) (line : CStr) :
    sendLineHb line u = [⟨u.gDestHb, line⟩] := if_pos h_open

/-- **Update.** -/
theorem doorUdpUpdate_eq {u : DoorUdp} (h_open : u.gSockOpen = true) (r : Report) (t : ℤ) :
    (doorUdpUpdate r t u).2 = (updateMsgs r t u).map (DoorMsg.out u) ∧
      (doorUdpUpdate r t u).1.gPrevValid = true ∧ (doorUdpUpdate r t u).1.gPrev = r ∧
      SameRoute u (doorUdpUpdate r t u).1 := by
  have h_not_closed : ¬ (!u.gSockOpen) = true := by simp [h_open]
  unfold doorUdpUpdate updateMsgs
  rw [if_neg h_not_closed]
  by_cases h_valid : u.gPrevValid = true
  · -- a later update: events for what changed, then the heartbeat if it is due
    rw [if_neg (by simp [h_valid]), if_pos h_valid]
    unfold updateEvents
    rw [sendLineNotif_eq h_open, sendLineNotif_eq h_open, sendLineHb_eq h_open]
    refine ⟨?_, ?_, rfl, ?_⟩
    · dsimp only
      split_ifs <;> rfl
    · dsimp only
      split_ifs <;> exact h_valid
    · dsimp only
      split_ifs <;> exact ⟨rfl, rfl, rfl, rfl, rfl⟩
  · -- the first update sends a heartbeat, whatever the period
    rw [if_pos (by simp [h_valid]), if_neg h_valid]
    refine ⟨?_, rfl, rfl, rfl, rfl, rfl, rfl, rfl⟩
    dsimp only
    split_ifs
    · exact if_pos h_open
    · rfl

/-- The words of a report's line. -/
def DoorMsg.words (module : CStr) : DoorMsg → List CStr
  | .heartbeat r =>
    let pair := openText r.d0Open ++ ',' :: lockText r.d1Locked
    [module, "HEARTBEAT".toList, "D0=".toList ++ pair, "D1=".toList ++ pair]
  | .doorEvent d0Open =>
    [module, "EVENT".toList, "D0".toList, "DOOR".toList, openText d0Open]
  | .lockEvent d1Locked =>
    [module, "EVENT".toList, "D1".toList, "LOCK".toList, lockText d1Locked]

theorem DoorMsg.line_eq (module : CStr) (msg : DoorMsg) :
    msg.line module = (snprintf 256 (spaced (msg.words module) ++ ['\n'])).str := by
  cases msg <;> rfl

/-- A report is received word by word. -/
theorem DoorMsg.lineTokens_line {module : CStr} (h_text : IsText module)
    (h_fits : module.length < 16) (msg : DoorMsg) :
    lineTokens (datagramLine (msg.line module)) = msg.words module := by
  rw [DoorMsg.line_eq]
  -- the words behind the module are few and fixed
  obtain ⟨args, h_words, h_args, h_len⟩ : ∃ args, msg.words module = module :: args ∧
      (∀ w ∈ args, IsText w) ∧ (spaced args).length ≤ 60 := by
    cases msg with
    | heartbeat r =>
      obtain ⟨o, p, q, l⟩ := r
      refine ⟨_, rfl, ?_⟩
      dsimp only
      cases o <;> cases l <;> decide
    | doorEvent o =>
      refine ⟨_, rfl, ?_⟩
      cases o <;> decide
    | lockEvent l =>
      refine ⟨_, rfl, ?_⟩
      cases l <;> decide
  rw [h_words]
  refine lineTokens_sent ?_ ?_
  · rw [List.forall_mem_cons]
    exact ⟨h_text, h_args⟩
  · -- 15 characters of the module and 60 of the rest fit in the buffer
    rcases args with _ | ⟨a, args⟩
    · rw [spaced_singleton, List.length_append, List.length_singleton]
      omega
    · rw [spaced_cons_cons, List.length_append, List.length_append, List.length_cons,
        List.length_singleton]
      omega

/-! ### The door `D1` -/

/-- The start of the door `D1`. -/
def initD1 : InitCall where
  notifPort := 5001
  hbPort := 5002
  moduleId := "D1".toList
  mode := ⟨true, true⟩
  heartbeatPeriodMs := 1000
  now := 0
  socketOk := true
  inetPtonOk := true
  bindOk := true
  threadOk := true

theorem initD1_ok : (doorUdpInit2 initD1 .initial).2.1 = true := by decide +kernel

theorem initD1_mode : initD1.mode = ⟨true, true⟩ := rfl

theorem initD1_ports : initD1.notifPort ≠ initD1.hbPort := by decide

theorem initD1_isText : IsText initD1.moduleId := by decide

end Door

end DoorSystem
