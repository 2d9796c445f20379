import DoorSystem.Node.DoorServer
import DoorSystem.Lib.JsText
import DoorSystem.Lib.Run

/-!
# The web bridge with its timers

`door_server.js` as a machine: requests of browsers, the callbacks of `udpSocket.send`, datagrams
from the hub and timers that run out, in any order. The map `pending` is keyed by the command
number and its entries hold a handle of a timer; the timers are armed and cleared by their handles
and know the number their callback deletes. `get-door-info` enters its number at once, the other
requests when their datagram is sent.

A callback of a browser is named by the number of its request. Texts are those that
`toString('utf8')` gives; module ids, targets and actions in requests are texts.
-/

namespace DoorSystem

open CLib CLib.Js

namespace Node

/-! ### What is sent -/

/-- The events that are emitted to browsers. A command id that is no number is `none`. -/
inductive Emit
  | commandFeedback (module : CStr) (cmdid : Option ℤ) (target action raw : CStr)
  | commandError (module : CStr) (cmdid : ℕ) (error : CStr)
  | doorFeedback (module target action : CStr)
  | hubEvent (module target event raw : CStr)
  | hubHeartbeat (module raw : CStr)
  | hubHello (module raw : CStr)
  | hubRaw (raw : CStr)
deriving DecidableEq

/-- What a callback is called with. -/
inductive Reply
  /-- `{ success: true, action, module }`. -/
  | success (action moduleId : CStr)
  /-- `{ success: false, error }`. -/
  | failure (error : CStr)
  /-- The answer of `get-door-info`. -/
  | info (moduleId target status : CStr) (frontDoorOpen frontLockLocked : Bool)
  | null
deriving DecidableEq

/-- What the server sends. -/
inductive ServerOut
  /-- A datagram to the hub. -/
  | send (payload : CStr)
  /-- An event to one browser. -/
  | emit (ws : ℕ) (e : Emit)
  /-- The callback of the request with this command number. -/
  | callback (request : ℕ) (r : Reply)
  /-- An event to all browsers. -/
  | broadcast (e : Emit)
deriving DecidableEq

/-! ### Sockets, entries and timers -/

/-- The socket that `sendCommand` is called with. -/
inductive Client
  /-- The browser of `send-command`. -/
  | browser (ws : ℕ)
  /-- The object of `lock-door`. -/
  | lockDoor (request : ℕ) (moduleId : CStr)
  /-- The object of `unlock-door`. -/
  | unlockDoor (request : ℕ) (moduleId : CStr)
deriving DecidableEq

/-- `socket.emit`: the objects of `lock-door` and `unlock-door` take any feedback for success. -/
def Client.emit : Client → Emit → List ServerOut
  | .browser ws, e => [.emit ws e]
  | .lockDoor request moduleId, .commandFeedback .. =>
    [.callback request (.success "LOCK".toList moduleId)]
  | .lockDoor request _, .commandError _ _ error => [.callback request (.failure error)]
  | .lockDoor _ _, _ => []
  | .unlockDoor request moduleId, .commandFeedback .. =>
    [.callback request (.success "UNLOCK".toList moduleId)]
  | .unlockDoor request _, .commandError _ _ error => [.callback request (.failure error)]
  | .unlockDoor _ _, _ => []

/-- The socket of an entry. The object of `get-door-info` knows its number and its timer. -/
inductive EntrySocket
  | client (c : Client)
  | doorInfo (cmdid timer : ℕ)
deriving DecidableEq

/-- An entry of `pending`. -/
structure PendingEntry where
  socket : EntrySocket
  timer : ℕ
deriving DecidableEq

/-- An armed timer: what its callback reports, and to whom. -/
inductive Timer
  | command (cmdid : ℕ) (moduleId : CStr) (socket : Client)
  | doorInfo (cmdid : ℕ)
deriving DecidableEq

/-- The number that the callback deletes from the map. -/
def Timer.cmdid : Timer → ℕ
  | .command cmdid _ _ => cmdid
  | .doorInfo cmdid => cmdid

/-- A datagram on its way out, with what its callback knows. -/
inductive Outgoing
  | command (moduleId : CStr) (socket : Client)
  | doorInfo (timer : ℕ)
deriving DecidableEq

/-- The state of the server. -/
structure Server where
  cmdCounter : ℕ
  /-- The sends that are not completed, by command number. -/
  sending : ℕ → Option Outgoing
  pending : ℕ → Option PendingEntry
  /-- The armed timers, by handle. -/
  timers : ℕ → Option Timer
  nextTimer : ℕ

namespace Server

/-- The server at its start. -/
def initial : Server where
  cmdCounter := 1
  sending := fun _ => none
  pending := fun _ => none
  timers := fun _ => none
  nextTimer := 0

/-- `setTimeout`: the new handle. -/
def setTimeout (timer : Timer) (s : Server) : Server × ℕ :=
  ({ s with
      timers := Function.update s.timers s.nextTimer (some timer)
      nextTimer := s.nextTimer + 1 }, s.nextTimer)

/-- `clearTimeout(timer)`. -/
def clearTimeout (timer : ℕ) (s : Server) : Server :=
  { s with timers := Function.update s.timers timer none }

/-- `pending.set(cmdid, entry)`. -/
def pendingSet (cmdid : ℕ) (entry : PendingEntry) (s : Server) : Server :=
  { s with pending := Function.update s.pending cmdid (some entry) }

/-- `pending.delete(cmdid)`. -/
def pendingDelete (cmdid : ℕ) (s : Server) : Server :=
  { s with pending := Function.update s.pending cmdid none }

/-- `pending.get(cmdid)`, with the key. -/
def pendingGet (cmdid : Option ℤ) (s : Server) : Option (ℕ × PendingEntry) :=
  match cmdid with
  | some (.ofNat c) => (s.pending c).map (fun entry => (c, entry))
  | _ => none

/-- `cmdCounter++`, and the datagram with this number is handed to `udpSocket.send`. -/
def startSend (out : Outgoing) (s : Server) : Server :=
  { s with
    cmdCounter := s.cmdCounter + 1
    sending := Function.update s.sending s.cmdCounter (some out) }

/-- `a || b` on texts. -/
def orElse (a b : CStr) : CStr := if a = [] then b else a

/-! ### Requests -/

/-- `sendCommand`. -/
def sendCommand (moduleId target action : CStr) (socket : Client) (s : Server) :
    Server × List ServerOut :=
  let moduleId := orElse moduleId "D1".toList
  let target := orElse target "D0".toList
  (s.startSend (.command moduleId socket),
    [.send (commandLine moduleId s.cmdCounter target action)])

/-- The `send-command` handler. -/
def onSendCommand (ws : ℕ) (module target action : CStr) (s : Server) : Server × List ServerOut :=
  s.sendCommand (orElse module "D1".toList) (orElse target "D0".toList)
    (orElse action "STATUS".toList) (.browser ws)

/-- The `lock-door` handler. -/
def onLockDoor (moduleId : CStr) (s : Server) : Server × List ServerOut :=
  s.sendCommand moduleId "D0".toList "LOCK".toList (.lockDoor s.cmdCounter moduleId)

/-- The `unlock-door` handler. -/
def onUnlockDoor (moduleId : CStr) (s : Server) : Server × List ServerOut :=
  s.sendCommand moduleId "D0".toList "UNLOCK".toList (.unlockDoor s.cmdCounter moduleId)

/-- The `get-door-info` handler: timer and entry are there before the datagram is sent. -/
def onGetDoorInfo (moduleId : CStr) (s : Server) : Server × List ServerOut :=
  let mod := if "D".toList <+: moduleId then moduleId else "D".toList ++ moduleId
  let cmdid := s.cmdCounter
  let (s, timer) := s.setTimeout (.doorInfo cmdid)
  let s := s.pendingSet cmdid ⟨.doorInfo cmdid timer, timer⟩
  (s.startSend (.doorInfo timer), [.send (commandLine mod cmdid "D0".toList "STATUS".toList)])

/-! ### Completions and timers -/

/-- The callback of `udpSocket.send`. -/
def sendDone (cmdid : ℕ) (err : Option CStr) (s : Server) : Server × List ServerOut :=
  match s.sending cmdid with
  | none => (s, [])
  | some out =>
    let s := { s with sending := Function.update s.sending cmdid none }
    match out, err with
    | .command moduleId socket, some error =>
      (s, socket.emit (.commandError moduleId cmdid error))
    | .command moduleId socket, none =>
      let (s, timer) := s.setTimeout (.command cmdid moduleId socket)
      (s.pendingSet cmdid ⟨.client socket, timer⟩, [])
    -- whether or not the request has been answered
    | .doorInfo timer, some _ =>
      ((s.clearTimeout timer).pendingDelete cmdid, [.callback cmdid .null])
    | .doorInfo _, none => (s, [])

/-- The timer with this handle runs out. -/
def timeout (timer : ℕ) (s : Server) : Server × List ServerOut :=
  match s.timers timer with
  | none => (s, [])
  | some t =>
    let s := s.clearTimeout timer
    match t with
    | .command cmdid moduleId socket =>
      (s.pendingDelete cmdid,
        socket.emit (.commandError moduleId cmdid "No FEEDBACK from hub".toList))
    | .doorInfo cmdid => (s.pendingDelete cmdid, [.callback cmdid .null])

/-! ### Datagrams -/

variable (U : UpperCase)

/-- The loop over the tokens: the last door word and the last lock word. -/
def lastWords : List CStr → Option CStr × Option CStr → Option CStr × Option CStr
  | [], states => states
  | tok :: toks, (doorState, lockState) =>
    lastWords toks
      (if tok = "OPEN".toList ∨ tok = "CLOSED".toList then some tok else doorState,
        if tok = "LOCKED".toList ∨ tok = "UNLOCKED".toList then some tok else lockState)

/-- The action of the `door-feedback` event. -/
def formattedAction (rawAction : CStr) : CStr :=
  let upper := trim (U.toUpperCase rawAction)
  if "STATUS_".toList <+: upper then upper
  else if upper = "STATUS".toList then "STATUS_UNKNOWN".toList
  else if "OPEN".toList <:+: upper ∨ "CLOSED".toList <:+: upper then
    match lastWords (listWords upper) (none, none) with
    | (_, some lockState) => "STATUS_".toList ++ lockState
    | (some doorState, none) => "STATUS_".toList ++ doorState
    | (none, none) => "STATUS_UNKNOWN".toList
  else rawAction

/-- `if (t) x = true; if (f) x = false;`. -/
def lastOf (t f : Bool) : Option Bool :=
  if f then some false else if t then some true else none

/-- The answer of `get-door-info` to the feedback `rawAction`. -/
def doorInfo (module target rawAction : CStr) : Reply :=
  let upper := U.toUpperCase rawAction
  let (frontDoorOpen, frontLockLocked) :=
    if "STATUS_".toList <+: upper then
      let state := upper.drop 7
      (lastOf (state = "OPEN".toList) (state = "CLOSED".toList),
        lastOf (state = "LOCKED".toList) (state = "UNLOCKED".toList))
    else if "OPEN".toList <:+: upper ∨ "CLOSED".toList <:+: upper then
      let parts := listWords upper
      (lastOf (parts.contains "OPEN".toList) (parts.contains "CLOSED".toList),
        lastOf (parts.contains "LOCKED".toList) (parts.contains "UNLOCKED".toList))
    else (none, none)
  .info module target rawAction (frontDoorOpen.getD false) (frontLockLocked.getD false)

/-- `p.socket.emit('command-feedback', ...)`. The object of `get-door-info` clears its timer and
its entry itself. -/
def emitFeedback (socket : EntrySocket) (module : CStr) (cmdid : Option ℤ)
    (target action raw : CStr) (s : Server) : Server × List ServerOut :=
  match socket with
  | .client c => (s, c.emit (.commandFeedback module cmdid target action raw))
  | .doorInfo request timer =>
    ((s.clearTimeout timer).pendingDelete request,
      [.callback request (doorInfo U module target action)])

/-- The FEEDBACK branch of the message handler. -/
def feedback (module cmdidS target : CStr) (action : List CStr) (raw : CStr) (s : Server) :
    Server × List ServerOut :=
  let cmdid := parseInt cmdidS
  let rawAction := spaced action
  let (s, outs) :=
    match s.pendingGet cmdid with
    | some (key, p) =>
      let (s, outs) := s.emitFeedback U p.socket module cmdid target rawAction raw
      ((s.clearTimeout p.timer).pendingDelete key, outs)
    | none => (s, [])
  (s, outs ++ [.broadcast (.doorFeedback module target (formattedAction U rawAction)),
    .broadcast (.commandFeedback module cmdid target rawAction raw)])

/-- The messages that are only passed on. -/
def otherMessage (module type : CStr) (args : List CStr) (raw : CStr) : Emit :=
  match args with
  | target :: ev :: evs =>
    if type = "EVENT".toList then .hubEvent module target (spaced (ev :: evs)) raw
    else if type = "HEARTBEAT".toList then .hubHeartbeat module raw
    else if type = "HELLO".toList then .hubHello module raw
    else .hubRaw raw
  | _ =>
    if type = "HEARTBEAT".toList then .hubHeartbeat module raw
    else if type = "HELLO".toList then .hubHello module raw
    else .hubRaw raw

/-- A datagram from the hub. -/
def message (text : CStr) (s : Server) : Server × List ServerOut :=
  let msg := trim text
  match words msg with
  | module :: type :: args =>
    match args with
    | cmdidS :: target :: a :: as =>
      if type = "FEEDBACK".toList then s.feedback U module cmdidS target (a :: as) msg
      else (s, [.broadcast (otherMessage module type args msg)])
    | _ => (s, [.broadcast (otherMessage module type args msg)])
  | _ => (s, [.broadcast (.hubRaw msg)])

/-! ### Runs -/

end Server

/-- What happens to the server. -/
inductive ServerEv
  | sendCommand (ws : ℕ) (module target action : CStr)
  | lockDoor (moduleId : CStr)
  | unlockDoor (moduleId : CStr)
  | getDoorInfo (moduleId : CStr)
  /-- `udpSocket.send` calls back, with an error or not. -/
  | sent (cmdid : ℕ) (err : Option CStr)
  | message (text : CStr)
  | timeout (timer : ℕ)

namespace Server

variable (U : UpperCase)

/-- One event: the state afterwards and what is sent. -/
def exec (s : Server) : ServerEv → Server × List ServerOut
  | .sendCommand ws module target action => s.onSendCommand ws module target action
  | .lockDoor moduleId => s.onLockDoor moduleId
  | .unlockDoor moduleId => s.onUnlockDoor moduleId
  | .getDoorInfo moduleId => s.onGetDoorInfo moduleId
  | .sent cmdid err => s.sendDone cmdid err
  | .message text => s.message U text
  | .timeout timer => s.timeout timer

/-- The state after one event. -/
def step (s : Server) (e : ServerEv) : Server := (s.exec U e).1

/-- The server after the events `es` since its start. -/
def served (es : List ServerEv) : Server := run (step U) initial es

theorem served_concat (es : List ServerEv) (e : ServerEv) :
    served U (es ++ [e]) = (served U es).step U e := run_append _ _ _ _

end Server

end Node

end DoorSystem
