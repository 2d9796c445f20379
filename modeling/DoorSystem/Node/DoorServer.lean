import DoorSystem.Lib.JsText
import DoorSystem.Wire

/-!
# The web bridge

`door_server.js`: requests of browsers become numbered COMMAND datagrams to the hub, and a FEEDBACK
datagram answers the request that waits under its number. `sendCommand` is called with a socket,
which is entered into the `pending` map when the datagram has been sent, together with a timer; the
map and the timers are keyed by the command number. A socket may have any number of commands
waiting. The sockets of `lock-door` and `unlock-door` are objects of their own, one for each request
(`NodeRequest`).

`Bridge` is what the commands of browsers need of the server; `Node.Server` is all of it, and
`Node.Refinement` says that the one is the other with the rest left out. The text of a datagram is
what `toString('utf8')` gives.
-/

namespace DoorSystem

open CLib CLib.Js

namespace Node

/-! ### Text -/

/-- `msg.trim().split(/\s+/)`, for a message with at least one word. -/
def parts (msg : CStr) : List CStr := words (trim msg)

/-- The number at the front of a text. -/
def parseDigits (s : CStr) : Option ℤ :=
  if (s.takeWhile Char.isDigit).isEmpty then none else some (leadingDigits s)

/-- The integer that `parseInt(s, 10)` finds in a text, before it is made a `Number`. -/
def readInt (s : CStr) : Option ℤ :=
  match s.dropWhile isWhite with
  | '-' :: s => (parseDigits s).map (fun n => -n)
  | '+' :: s => parseDigits s
  | s => parseDigits s

/-- A natural number as a `Number`: 53 bits, rounded to the nearest, a tie to an even mantissa. What
is too large is `Infinity`, here `none`. -/
def roundNumber (n : ℕ) : Option ℕ :=
  let ulp := 2 ^ (n.log2 - 52)
  let mantissa := n / ulp
  let rest := n % ulp
  let up : Bool := ulp < 2 * rest || (2 * rest = ulp && mantissa % 2 = 1)
  let rounded := (if up then mantissa + 1 else mantissa) * ulp
  if rounded.log2 < 1024 then some rounded else none

/-- An integer as a `Number`. -/
def toNumber (x : ℤ) : Option ℤ := (roundNumber x.natAbs).map (fun n => x.sign * n)

/-- `parseInt(s, 10)`. Neither `NaN` nor `Infinity` is a key of `pending`, and both are sent as
`null`: they are `none`. -/
def parseInt (s : CStr) : Option ℤ := (readInt s).bind toNumber

/-- Below `2 ^ 53` every natural number is a `Number`. -/
theorem toNumber_of_lt {k : ℕ} (h : k < 2 ^ 53) : toNumber k = some (k : ℤ) := by
  have h_bits : k.log2 < 53 := by
    rcases Nat.eq_zero_or_pos k with rfl | h_pos
    · simp
    · exact (Nat.log2_lt h_pos.ne').mpr h
  have h_round : roundNumber k = some k := by
    -- below `2 ^ 53` the unit in the last place is at most 1
    have h_ulp : k.log2 - 52 = 0 := by omega
    have h_finite : k.log2 < 1024 := by omega
    unfold roundNumber
    simp [h_ulp, Nat.mod_one, h_finite]
  unfold toNumber
  rw [Int.natAbs_natCast, h_round]
  rcases Nat.eq_zero_or_pos k with rfl | h_pos
  · rfl
  · simp [Int.sign_natCast_of_ne_zero h_pos.ne']

/-! ### Events -/

/-- What is emitted to the socket of a request. -/
inductive NodeEvent
  | commandFeedback (module : CStr) (cmdid : ℤ) (target action : CStr)
  | commandError (error : CStr)
deriving DecidableEq

/-! ### The bridge -/

/-- The state of the bridge, with a socket for each command that is on its way out or waits. -/
structure Bridge (σ : Type*) where
  cmdCounter : ℕ
  sending : ℕ → Option σ
  pending : ℕ → Option σ
  timers : ℕ → Option σ

namespace Bridge

variable {σ : Type*}

/-- The bridge at its start. -/
def initial : Bridge σ where
  cmdCounter := 1
  sending := fun _ => none
  pending := fun _ => none
  timers := fun _ => none

/-- `sendCommand(moduleId, target, action, socket)`. -/
def sendCommand (moduleId target action : CStr) (socket : σ) (n : Bridge σ) : Bridge σ × CStr :=
  let moduleId := if moduleId = [] then "D1".toList else moduleId
  let target := if target = [] then "D0".toList else target
  ({ n with
      cmdCounter := n.cmdCounter + 1
      sending := Function.update n.sending n.cmdCounter (some socket) },
    commandLine moduleId n.cmdCounter target action)

/-- The callback of `udpSocket.send`. -/
def sendDone (cmdid : ℕ) (error : Option CStr) (n : Bridge σ) :
    Bridge σ × List (σ × NodeEvent) :=
  match n.sending cmdid with
  | none => (n, [])
  | some socket =>
    let n := { n with sending := Function.update n.sending cmdid none }
    match error with
    | some text => (n, [(socket, .commandError text)])
    -- only a datagram that went out has a timer and an entry
    | none =>
      ({ n with
          timers := Function.update n.timers cmdid (some socket)
          pending := Function.update n.pending cmdid (some socket) }, [])

/-- The timer of a command runs out. -/
def timeout (cmdid : ℕ) (n : Bridge σ) : Bridge σ × List (σ × NodeEvent) :=
  match n.timers cmdid with
  | none => (n, [])
  | some socket =>
    ({ n with
        timers := Function.update n.timers cmdid none
        pending := Function.update n.pending cmdid none },
      [(socket, .commandError "No FEEDBACK from hub".toList)])

/-- `pending.get(cmdid)`. -/
def pendingGet (cmdid : Option ℤ) (n : Bridge σ) : Option (ℕ × σ) :=
  match cmdid with
  | some (.ofNat k) => (n.pending k).map (fun socket => (k, socket))
  | _ => none

/-- The FEEDBACK part of the message handler. -/
def feedbackMessage (msg : CStr) (n : Bridge σ) : Bridge σ × List (σ × NodeEvent) :=
  match parts msg with
  | moduleId :: type :: cmdidS :: target :: action =>
    if type = "FEEDBACK".toList ∧ action ≠ [] then
      match n.pendingGet (parseInt cmdidS) with
      | some (cmdid, socket) =>
        ({ n with
            timers := Function.update n.timers cmdid none
            pending := Function.update n.pending cmdid none },
          [(socket, .commandFeedback moduleId cmdid target (spaced action))])
      | none => (n, [])
    else (n, [])
  | _ => (n, [])

end Bridge

/-! ### Requests as sockets -/

/-- What a browser asked for. -/
inductive RequestKind
  /-- `send-command`: the browser itself is told. -/
  | sendCommand
  /-- `lock-door`. -/
  | lockDoor
  /-- `unlock-door`. -/
  | unlockDoor
deriving DecidableEq

/-- A request with the module it names. -/
structure NodeRequest where
  kind : RequestKind
  moduleId : CStr
deriving DecidableEq

/-- What the browser gets. -/
inductive NodeReply
  /-- The event itself. -/
  | event (e : NodeEvent)
  /-- `callback({ success: true, action, module })`. -/
  | success (action moduleId : CStr)
  /-- `callback({ success: false, error })`. -/
  | failure (error : CStr)
deriving DecidableEq

/-- The `emit` functions of the requests: `lock-door` and `unlock-door` take any feedback for
success. -/
def NodeRequest.emit (r : NodeRequest) (e : NodeEvent) : NodeReply :=
  match r.kind, e with
  | .sendCommand, e => .event e
  | .lockDoor, .commandFeedback _ _ _ _ => .success "LOCK".toList r.moduleId
  | .unlockDoor, .commandFeedback _ _ _ _ => .success "UNLOCK".toList r.moduleId
  | .lockDoor, .commandError error => .failure error
  | .unlockDoor, .commandError error => .failure error

/-- What the browsers get. -/
def emitted (events : List (NodeRequest × NodeEvent)) : List NodeReply :=
  events.map (fun p => p.1.emit p.2)

/-- The action word of a request that chooses it itself. -/
def RequestKind.action : RequestKind → CStr
  | .sendCommand => "STATUS".toList
  | .lockDoor => "LOCK".toList
  | .unlockDoor => "UNLOCK".toList

/-- The `lock-door` and `unlock-door` handlers. -/
def requestDoor (r : NodeRequest) (n : Bridge NodeRequest) : Bridge NodeRequest × CStr :=
  n.sendCommand r.moduleId "D0".toList r.kind.action r

end Node

end DoorSystem
