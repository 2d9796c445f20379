import DoorSystem.Hub.Tables
import DoorSystem.Lib.Run

/-!
# The line handler of the hub

`handle_line` and everything it calls, `check_offline_modules`, and the part of `udp_thread` and
`hub_udp_send_command` that touches the hub's state. One event (`HubEv`) is one critical section:
a datagram that is handled, one pass of the offline check, or the allocation of a command number
by a local call. `handle_line` gives the mutex up around its `sendto` calls, but the receiver
thread is the only writer of the tables and the sections in between read nothing that is written
afterwards, so a line is handled in one step.

The clock is an input: `t` is the reading `handle_line` takes first and `tReg` the later one that
`register_client_command` takes.
-/

namespace DoorSystem

open CLib

namespace Hub

/-! ### History and alerts -/

/-- `add_history`. -/
def addHistory (moduleId line : CStr) (t : ℤ) (g : History) : History :=
  g.push { timestampMs := t, moduleId := snprintf _ moduleId, line := snprintf _ line }

/-- `trigger_discord_alert`. -/
def triggerDiscordAlert (url : CharBuf 512) (moduleId eventType door state : CStr) : List HubOut :=
  if url.str = [] then []
  else [.alert (snprintf 256 ("[".toList ++ moduleId ++ "] ".toList ++ door ++ " ".toList
    ++ eventType ++ " is now ".toList ++ state)).str]

/-! ### Door and lock words -/

/-- The door word `OPEN` or `CLOSED`; any other word leaves the bit alone. -/
def openWord (w : CStr) (pOpen : Bool) : Bool :=
  if w = "OPEN".toList then true else if w = "CLOSED".toList then false else pOpen

/-- The lock word `LOCKED` or `UNLOCKED`; any other word leaves the bit alone. -/
def lockedWord (w : CStr) (pLocked : Bool) : Bool :=
  if w = "LOCKED".toList then true else if w = "UNLOCKED".toList then false else pLocked

/-- The buffers `first` and `second` of `parse_d_state`: what stands before and after the first
comma. -/
def splitStates (states : CStr) : CharBuf 32 × CharBuf 32 :=
  match states.dropWhile (fun c => c ≠ ',') with
  | _ :: rest => (snprintf _ (states.takeWhile (fun c => c ≠ ',')), snprintf _ rest)
  | [] => (snprintf _ states, CharBuf.zero _)

/-- `parse_d_state`: the new values of `*p_open` and `*p_locked`. -/
def parseDState (token : CStr) (pOpen pLocked : Bool) : Bool × Bool :=
  match token.dropWhile (fun c => c ≠ '=') with
  | [] => (pOpen, pLocked)
  | _ :: states =>
    let (first, second) := splitStates states
    (openWord first.str pOpen,
      -- a lone lock word stands in the first place
      if second.str = [] then lockedWord first.str (lockedWord second.str pLocked)
      else lockedWord second.str pLocked)

/-! ### HEARTBEAT -/

/-- One round of the token loop: the status and the buffer `hb_buf`. -/
def heartbeatToken (tok : CStr) (s : HubDoorStatus) (hbBuf : CharBuf HUB_LINE_LEN) :
    HubDoorStatus × CharBuf HUB_LINE_LEN :=
  let s :=
    if tok.take 3 = "D0=".toList then
      let (o, l) := parseDState tok s.d0Open s.d0Locked
      { s with d0Open := o, d0Locked := l }
    else if tok.take 3 = "D1=".toList then
      let (o, l) := parseDState tok s.d1Open s.d1Locked
      { s with d1Open := o, d1Locked := l }
    else s
  let hbBuf := if hbBuf.str = [] then hbBuf else strncat hbBuf " ".toList
  (s, strncat hbBuf tok)

/-- The token loop. -/
def heartbeatLoop : List CStr → HubDoorStatus → CharBuf HUB_LINE_LEN →
    HubDoorStatus × CharBuf HUB_LINE_LEN
  | [], s, hbBuf => (s, hbBuf)
  | tok :: toks, s, hbBuf =>
    let (s, hbBuf) := heartbeatToken tok s hbBuf
    heartbeatLoop toks s hbBuf

/-- The HEARTBEAT branch. -/
def heartbeatBranch (args : List CStr) (histLine : CharBuf HUB_LINE_LEN) (t : ℤ)
    (s : HubDoorStatus) : HubDoorStatus :=
  let (s, hbBuf) := heartbeatLoop args s (CharBuf.zero _)
  { s with
    lastHeartbeatMs := t
    lastHeartbeatLine := if hbBuf.str = [] then histLine else hbBuf }

/-! ### EVENT -/

/-- The two bits of one door after `EVENT <door> <what> <state>`. -/
def eventBits (what state : CStr) (pOpen pLocked : Bool) : Bool × Bool :=
  if what = "DOOR".toList then (openWord state pOpen, pLocked)
  else if what = "LOCK".toList then (pOpen, lockedWord state pLocked)
  else (pOpen, pLocked)

/-- The EVENT branch, on the status of the door. -/
def eventBranch (args : List CStr) (t : ℤ) (s : HubDoorStatus) : HubDoorStatus :=
  let s :=
    match args with
    | which :: what :: state :: _ =>
      if which = "D0".toList then
        let (o, l) := eventBits what state s.d0Open s.d0Locked
        { s with d0Open := o, d0Locked := l }
      else if which = "D1".toList then
        let (o, l) := eventBits what state s.d1Open s.d1Locked
        { s with d1Open := o, d1Locked := l }
      else s
    | _ => s
  { s with lastEventMs := t }

/-- The alerts of the EVENT branch: one for each event whose words are all known. -/
def eventAlerts (url : CharBuf 512) (mod : CStr) (args : List CStr) : List HubOut :=
  match args with
  | which :: what :: state :: _ =>
    if (which = "D0".toList ∨ which = "D1".toList) ∧
        (what = "DOOR".toList ∧ (state = "OPEN".toList ∨ state = "CLOSED".toList) ∨
          what = "LOCK".toList ∧ (state = "LOCKED".toList ∨ state = "UNLOCKED".toList))
    then triggerDiscordAlert url mod what which state
    else []
  | _ => []

/-! ### FEEDBACK and COMMAND -/

/-- What the FEEDBACK branch stores for the waiting calls. -/
def recordFeedback (cmdid : ℤ) (target action : CStr) (t : ℤ) (s : HubDoorStatus) :
    HubDoorStatus :=
  { s with
    lastFeedbackTarget := snprintf _ target
    lastFeedbackAction := snprintf _ action
    lastFeedbackMs := t
    lastFeedbackCmdid := cmdid }

/-- Change one door slot. -/
def HubState.modifyDoor (h : HubState) (d : Fin HUB_MAX_DOORS)
    (f : HubDoorStatus → HubDoorStatus) : HubState :=
  { h with gDoors := Function.update h.gDoors d (f (h.gDoors d)) }

/-- The FEEDBACK branch. -/
def feedbackBranch (mod : CStr) (args : List CStr) (d : Fin HUB_MAX_DOORS) (t : ℤ)
    (h : HubState) : HubState × List HubOut :=
  match args with
  | cmdidS :: target :: action :: _ =>
    let cmdid := atoi cmdidS
    let h := h.modifyDoor d (recordFeedback cmdid target action t)
    let fbline := (snprintf HUB_LINE_LEN
      (spaced ["FEEDBACK".toList, fmtInt cmdid, target, action])).str
    let (pending, client) := getAndClearClientCmd mod cmdid h.gPendingCmds
    ({ h with gHistory := addHistory mod fbline t h.gHistory, gPendingCmds := pending },
      match client with
      | some addr => [.relay addr (snprintf 256 (feedbackLine mod cmdid target action)).str]
      | none => [])
  | _ => (h, [])

/-- The COMMAND branch. -/
def commandBranch (mod : CStr) (args : List CStr) (raw : CStr) (src : SockAddr) (tReg : ℤ)
    (h : HubState) : HubState × List HubOut :=
  match args with
  | cmdidS :: _target :: _action :: _ =>
    let h := { h with
      gPendingCmds := registerClientCommand (atoi cmdidS) mod src tReg h.gPendingCmds }
    (h, hubForwardCommandToModule mod raw h)
  | _ => (h, [])

/-! ### `handle_line` -/

/-- The dispatch on the line type, once the line's module has the slot `d`. -/
def dispatchLine (mod type : CStr) (args : List CStr) (raw : CStr) (src : SockAddr) (t tReg : ℤ)
    (d : Fin HUB_MAX_DOORS) (histLine : CharBuf HUB_LINE_LEN) (h : HubState) :
    HubState × List HubOut :=
  if type = "HEARTBEAT".toList then (h.modifyDoor d (heartbeatBranch args histLine t), [])
  else if type = "EVENT".toList then
    (h.modifyDoor d (eventBranch args t), eventAlerts h.gWebhookUrl mod args)
  else if type = "FEEDBACK".toList then feedbackBranch mod args d t h
  else if type = "COMMAND".toList then commandBranch mod args raw src tReg h
  else (h.modifyDoor d (fun s => { s with lastEventMs := t }), [])

/-- The return route of a door: every line but a COMMAND comes from the module itself. -/
def updateLastAddr (type : CStr) (src : SockAddr) (s : HubDoorStatus) : HubDoorStatus :=
  if type = "COMMAND".toList then s else { s with lastAddr := src, hasLastAddr := true }

/-- `handle_line`. `raw` is the copy of the line that is forwarded. -/
def handleLine (line raw : CStr) (src : SockAddr) (t tReg : ℤ) (h : HubState) :
    HubState × List HubOut :=
  match lineTokens line with
  | mod :: type :: args =>
    let h := { h with
      gEndpoints :=
        if type = "COMMAND".toList then h.gEndpoints
        else hubUpdateEndpoint mod src h.gEndpoints }
    match findOrCreateDoor mod h.gDoors with
    -- the table is full: the line is only noted in the history
    | (doors, none) =>
      ({ h with
          gDoors := doors
          gHistory := addHistory mod "<NO-STATE> (untracked)".toList t h.gHistory }, [])
    | (doors, some d) =>
      let histLine := snprintf HUB_LINE_LEN (spaced [mod, type])
      let h := { h with gDoors := doors }.modifyDoor d (updateLastAddr type src)
      dispatchLine mod type args raw src t tReg d histLine
        { h with gHistory := addHistory mod histLine.str t h.gHistory }
  | _ => (h, [])

/-- `udp_thread` on one datagram: at most 255 bytes are received, and an empty datagram ends the
round. -/
def receiveDatagram (data : List Char) (src : SockAddr) (t tReg : ℤ) (h : HubState) :
    HubState × List HubOut :=
  if data = [] then (h, [])
  else
    let buf := cstr (data.take (HUB_LINE_LEN - 1))
    handleLine buf buf src t tReg h

/-! ### Offline check -/

/-- The body of the loop of `check_offline_modules`. -/
def checkOfflineDoor (now : ℤ) (i : Fin HUB_MAX_DOORS) (h : HubState) : HubState × List HubOut :=
  let s := h.gDoors i
  let mod := s.moduleId.str
  let shouldBeOffline : Bool := HUB_OFFLINE_TIMEOUT_MS < now - s.lastHeartbeatMs
  if !s.known then (h, [])
  else if shouldBeOffline && !s.offline then
    let event := (snprintf 256 (mod ++ " EVENT SYSTEM OFFLINE\n".toList)).str
    let h := h.modifyDoor i (fun s => { s with offline := true, lastOnlineMs := now })
    ({ h with gHistory := addHistory mod event now h.gHistory },
      triggerDiscordAlert h.gWebhookUrl mod "SYSTEM".toList "MODULE".toList "OFFLINE".toList)
  else if !shouldBeOffline && s.offline then
    let event := (snprintf 256 (mod ++ " EVENT SYSTEM ONLINE\n".toList)).str
    let h := h.modifyDoor i (fun s => { s with offline := false })
    ({ h with gHistory := addHistory mod event now h.gHistory },
      triggerDiscordAlert h.gWebhookUrl mod "SYSTEM".toList "MODULE".toList "ONLINE".toList)
  else (h, [])

/-- The loop of `check_offline_modules` over the slots `is`. -/
def checkOfflineLoop (now : ℤ) : List (Fin HUB_MAX_DOORS) → HubState → HubState × List HubOut
  | [], h => (h, [])
  | i :: is, h =>
    let (h, out) := checkOfflineDoor now i h
    let (h, outs) := checkOfflineLoop now is h
    (h, out ++ outs)

/-- `check_offline_modules` at the time `now`. -/
def checkOfflineModules (now : ℤ) (h : HubState) : HubState × List HubOut :=
  checkOfflineLoop now (List.finRange _) h

/-! ### Runs -/

/-- `g_next_cmdid++`, as `hub_udp_send_command` does for each call. -/
def allocCmdid (h : HubState) : HubState := { h with gNextCmdid := toInt32 (h.gNextCmdid + 1) }

/-- What happens to a running hub. -/
inductive HubEv
  /-- The receiver thread handles a datagram. -/
  | datagram (data : List Char) (src : SockAddr) (t tReg : ℤ)
  /-- The receiver thread checks for silent modules. -/
  | check (now : ℤ)
  /-- A local `hub_udp_send_command` takes a command number. -/
  | alloc

/-- One event: the state afterwards and what is sent. -/
def exec (h : HubState) : HubEv → HubState × List HubOut
  | .datagram data src t tReg => receiveDatagram data src t tReg h
  | .check now => checkOfflineModules now h
  | .alloc => (allocCmdid h, [])

/-- The state after one event. -/
def step (h : HubState) (e : HubEv) : HubState := (exec h e).1

/-- The hub after the events `es` since its first `hub_udp_init`. -/
def reached (url : CharBuf 512) (es : List HubEv) : HubState := run step (HubState.initial url) es

theorem reached_concat (url : CharBuf 512) (es : List HubEv) (e : HubEv) :
    reached url (es ++ [e]) = step (reached url es) e := run_append _ _ _ _

end Hub

end DoorSystem
