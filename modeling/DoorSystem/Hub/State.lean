import DoorSystem.Wire
import DoorSystem.Lib.Ring

/-!
# The state of the hub

The static variables of `hub_udp.c`: the door slots `g_doors`, the endpoint table, the table of
pending client commands, the history ring and the command counter. The tables are arrays of
fixed size with linear search; strings sit in bounded buffers (`CharBuf`).

`g_endpoints` is the list of its first `g_num_endpoints` entries, since the table only grows at
its end. The socket is present as the test `g_sock >= 0` that the forwarding path makes.
-/

namespace DoorSystem

open CLib

namespace Hub

abbrev HUB_OFFLINE_TIMEOUT_MS : ℤ := 10000
abbrev HUB_MAX_MODULES : ℕ := 16
abbrev HUB_MAX_DOORS : ℕ := 8
abbrev HUB_MAX_HISTORY : ℕ := 256
abbrev HUB_MODULE_ID_LEN : ℕ := 16
abbrev HUB_LINE_LEN : ℕ := 256
abbrev HUB_MAX_PENDING_CMDS : ℕ := 128

instance neZero_maxDoors : NeZero HUB_MAX_DOORS := ⟨by decide⟩

/-- One slot of `g_doors`. -/
structure HubDoorStatus where
  moduleId : CharBuf HUB_MODULE_ID_LEN
  known : Bool
  offline : Bool
  d0Open : Bool
  d0Locked : Bool
  d1Open : Bool
  d1Locked : Bool
  lastHeartbeatMs : ℤ
  lastEventMs : ℤ
  lastOnlineMs : ℤ
  lastHeartbeatLine : CharBuf HUB_LINE_LEN
  hasLastAddr : Bool
  lastAddr : SockAddr
  lastFeedbackMs : ℤ
  lastFeedbackTarget : CharBuf 32
  lastFeedbackAction : CharBuf 32
  lastFeedbackCmdid : ℤ
deriving DecidableEq

/-- A slot that `memset` has cleared. -/
def HubDoorStatus.zero : HubDoorStatus where
  moduleId := CharBuf.zero _
  known := false
  offline := false
  d0Open := false
  d0Locked := false
  d1Open := false
  d1Locked := false
  lastHeartbeatMs := 0
  lastEventMs := 0
  lastOnlineMs := 0
  lastHeartbeatLine := CharBuf.zero _
  hasLastAddr := false
  lastAddr := SockAddr.zero
  lastFeedbackMs := 0
  lastFeedbackTarget := CharBuf.zero _
  lastFeedbackAction := CharBuf.zero _
  lastFeedbackCmdid := 0

/-- One entry of the history ring. -/
structure HubEvent where
  timestampMs : ℤ
  moduleId : CharBuf HUB_MODULE_ID_LEN
  line : CharBuf HUB_LINE_LEN
deriving DecidableEq

/-- One entry of the endpoint table. -/
structure HubEndpoint where
  moduleId : CharBuf HUB_MODULE_ID_LEN
  addr : SockAddr
  hasAddr : Bool
deriving DecidableEq

/-- One slot of the table of client commands. A slot with `cmdid` 0 counts as free. -/
structure PendingClientCmd where
  cmdid : ℤ
  clientAddr : SockAddr
  moduleId : CharBuf HUB_MODULE_ID_LEN
  issuedMs : ℤ
deriving DecidableEq

abbrev DoorTable := Fin HUB_MAX_DOORS → HubDoorStatus
abbrev PendingTable := Fin HUB_MAX_PENDING_CMDS → PendingClientCmd
abbrev History := Ring HUB_MAX_HISTORY HubEvent

/-- The static variables of `hub_udp.c`. -/
structure HubState where
  gEndpoints : List HubEndpoint
  /-- `g_sock >= 0`. -/
  gSockOpen : Bool
  gWebhookUrl : CharBuf 512
  gNextCmdid : ℤ
  gDoors : DoorTable
  /-- `g_history`, `g_hist_head` and `g_hist_count`. -/
  gHistory : History
  gPendingCmds : PendingTable

/-- The hub of a process that has just completed its first `hub_udp_init`, with the webhook URL
`url`. -/
def HubState.initial (url : CharBuf 512) : HubState where
  gEndpoints := []
  gSockOpen := true
  gWebhookUrl := url
  gNextCmdid := 1
  gDoors := fun _ => HubDoorStatus.zero
  gHistory := ⟨fun _ => ⟨0, CharBuf.zero _, CharBuf.zero _⟩, 0, 0⟩
  gPendingCmds := fun _ => ⟨0, SockAddr.zero, CharBuf.zero _, 0⟩

/-- What the hub sends. -/
inductive HubOut
  /-- A FEEDBACK line relayed to a client. -/
  | relay (dst : SockAddr) (msg : CStr)
  /-- A client's COMMAND line forwarded to a door module. -/
  | forward (dst : SockAddr) (msg : CStr)
  /-- A text handed to `sendDiscordAlert`. -/
  | alert (msg : CStr)
deriving DecidableEq

end Hub

end DoorSystem
