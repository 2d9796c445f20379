import DoorSystem.Node.Server

/-!
# The page of the browser

`web_control.js` on the page `UI.html`: the cache `doorStates`, the table of doors with its
buttons, and the handlers of socket events, clicks and timers. A page is loaded anew with nothing
in the cache and every button enabled; its handlers are there from `DOMContentLoaded` on.

The three keys of `doorStates` are an enumeration, a module id of an event is looked up by its
text. Timers run out in any order.
-/

namespace DoorSystem

open CLib CLib.Js

namespace Web

/-! ### Modules -/

/-- The keys of `doorStates`. -/
inductive ModuleId
  | D1
  | D2
  | D3
deriving DecidableEq

namespace ModuleId

/-- The number in the ids of the elements of this module. -/
def num : ModuleId → CStr
  | D1 => "1".toList
  | D2 => "2".toList
  | D3 => "3".toList

def text (m : ModuleId) : CStr := 'D' :: m.num

/-- The modules in the order of the page. -/
def all : List ModuleId := [D1, D2, D3]

/-- `doorStates[module]`: the key with this text. -/
def lookup (module : CStr) : Option ModuleId := all.find? (fun m => m.text = module)

theorem lookup_eq_some {module : CStr} {m : ModuleId} :
    lookup module = some m ↔ module = m.text := by
  constructor
  · intro h
    unfold lookup at h
    have h_text := List.find?_some h
    exact (of_decide_eq_true h_text).symm
  · rintro rfl
    cases m <;> decide

end ModuleId

/-! ### The cache -/

/-- An entry of `doorStates`; `null` is `none`. -/
structure DoorState where
  doorOpen : Option Bool
  lockLocked : Option Bool
deriving DecidableEq

/-- `doorStates`. -/
abbrev DoorStates := ModuleId → DoorState

/-- `{ doorOpen: null, lockLocked: null }`. -/
def DoorState.unknown : DoorState := ⟨none, none⟩

variable (U : UpperCase)

/-- `applyStatusStateToDoor`. -/
def applyStatusStateToDoor (statusState : CStr) (state : DoorState) : DoorState :=
  let upper := U.toUpperCase statusState
  -- a locked or unlocked door is closed
  if upper = "LOCKED".toList then ⟨some false, some true⟩
  else if upper = "UNLOCKED".toList then ⟨some false, some false⟩
  else if upper = "OPEN".toList then { state with doorOpen := some true }
  else ⟨none, none⟩

/-- `if (parts.includes('OPEN')) ... else if (parts.includes('CLOSED')) ...`. -/
def applyDoorWord (parts : List CStr) (state : DoorState) : DoorState :=
  if parts.contains "OPEN".toList then { state with doorOpen := some true }
  else if parts.contains "CLOSED".toList then { state with doorOpen := some false }
  else state

/-- `if (parts.includes('LOCKED')) ... else if (parts.includes('UNLOCKED')) ...`. -/
def applyLockWord (parts : List CStr) (state : DoorState) : DoorState :=
  if parts.contains "LOCKED".toList then { state with lockLocked := some true }
  else if parts.contains "UNLOCKED".toList then { state with lockLocked := some false }
  else state

/-- The four tests that the `hub-event` handler and `applyLegacyStatusString` make. -/
def applyParts (parts : List CStr) (state : DoorState) : DoorState :=
  applyLockWord parts (applyDoorWord parts state)

/-- `updated` after the four tests. -/
def partsUpdate (parts : List CStr) : Bool :=
  parts.contains "OPEN".toList || parts.contains "CLOSED".toList ||
    parts.contains "LOCKED".toList || parts.contains "UNLOCKED".toList

/-- `applyLegacyStatusString`. -/
def applyLegacyStatusString (statusStr : CStr) (state : DoorState) : DoorState :=
  applyParts ((listWords statusStr).map U.toUpperCase) state

/-- What the `command-feedback` handler does to the entry. -/
def applyCommandFeedback (rawAction : CStr) (state : DoorState) : DoorState :=
  let action := U.toUpperCase rawAction
  if "STATUS_".toList <+: action then applyStatusStateToDoor U (action.drop 7) state
  else applyLegacyStatusString U action state

/-- What the `door-feedback` handler does to the entry. -/
def applyDoorFeedback (action : CStr) (state : DoorState) : DoorState :=
  let upper := U.toUpperCase action
  if "STATUS_".toList <+: upper then applyStatusStateToDoor U (upper.drop 7) state
  else state

/-! ### The page -/

/-- The row of a door in the table. -/
structure Row where
  /-- The text of the `span`. -/
  status : CStr
  /-- The text of the button. -/
  label : CStr
  disabled : Bool
  message : CStr
deriving DecidableEq

/-- What a `setTimeout` of the page waits for. -/
inductive PageTimer
  | clearMessage (m : ModuleId)
  /-- The check of `pollStatus`. -/
  | poll (m : ModuleId) (targetLocked : Bool) (pollCount : ℕ)
deriving DecidableEq

/-- The page. -/
structure Page where
  /-- The handlers are set up. -/
  ready : Bool
  connected : Bool
  /-- A `connect` event asks for the status. -/
  statusOnConnect : Bool
  connectionStatus : CStr
  doorStates : DoorStates
  rows : ModuleId → Row
  timers : List PageTimer

/-- A `send-command` event to the server. -/
structure Request where
  module : CStr
  target : CStr
  action : CStr
deriving DecidableEq

namespace Page

/-- The page as it is loaded. -/
def loaded : Page where
  ready := false
  connected := false
  statusOnConnect := false
  connectionStatus := "Connecting...".toList
  doorStates := fun _ => .unknown
  rows := fun _ => ⟨"unknown".toList, "--".toList, false, []⟩
  timers := []

/-- `setTimeout`. -/
def setTimeout (t : PageTimer) (p : Page) : Page := { p with timers := p.timers ++ [t] }

/-- The message line of the module. -/
def setMessage (m : ModuleId) (text : CStr) (p : Page) : Page :=
  { p with rows := Function.update p.rows m { p.rows m with message := text } }

/-- The entry of the module is written. -/
def applyTo (m : ModuleId) (f : DoorState → DoorState) (p : Page) : Page :=
  { p with doorStates := Function.update p.doorStates m (f (p.doorStates m)) }

/-- The status text, the label and the flag of the button for this entry. -/
def rowOf (state : DoorState) (message : CStr) : Row :=
  match state.doorOpen, state.lockLocked with
  | some true, some true =>
    ⟨"open / locked".toList, "Cannot lock open door".toList, true, message⟩
  | some true, some false =>
    ⟨"open / unlocked".toList, "Cannot lock open door".toList, true, message⟩
  | some false, some true => ⟨"closed / locked".toList, "Unlock Door".toList, false, message⟩
  | some false, some false => ⟨"closed / unlocked".toList, "Lock Door".toList, false, message⟩
  | none, _ => ⟨"unknown".toList, "Loading...".toList, true, message⟩
  | some _, none => ⟨"unknown".toList, "Loading...".toList, true, message⟩

/-- `updateUIForModule`. -/
def updateUIForModule (m : ModuleId) (p : Page) : Page :=
  { p with rows := Function.update p.rows m (rowOf (p.doorStates m) (p.rows m).message) }

/-- `requestModuleStatus`. -/
def requestModuleStatus (m : ModuleId) : Request := ⟨m.text, "D0".toList, "STATUS".toList⟩

/-- `maxPolls`. -/
def maxPolls : ℕ := 20

/-- `pollStatus`, at this value of `pollCount`. -/
def pollStatus (m : ModuleId) (targetLocked : Bool) (pollCount : ℕ) (p : Page) :
    Page × List Request :=
  (p.setTimeout (.poll m targetLocked (pollCount + 1)), [requestModuleStatus m])

/-! ### Handlers -/

/-- The `hub-event` handler. -/
def onHubEvent (module event : CStr) (p : Page) : Page × List Request :=
  match ModuleId.lookup module with
  | none => (p, [])
  | some m =>
    let parts := listWords (U.toUpperCase event)
    let p := p.applyTo m (applyParts parts)
    (if partsUpdate parts then p.updateUIForModule m else p, [])

/-- The `door-feedback` handler. -/
def onDoorFeedback (module action : CStr) (p : Page) : Page × List Request :=
  match ModuleId.lookup module with
  | none => (p, [])
  | some m =>
    let upper := U.toUpperCase action
    let p := p.applyTo m (applyDoorFeedback U action)
    if "STATUS_".toList <+: upper then (p.updateUIForModule m, [])
    else if upper = "LOCK".toList then p.pollStatus m true 0
    else if upper = "UNLOCK".toList then p.pollStatus m false 0
    else (p, [])

/-- The `command-feedback` handler. -/
def onCommandFeedback (module action : CStr) (p : Page) : Page × List Request :=
  match ModuleId.lookup module with
  | none => (p, [])
  | some m => ((p.applyTo m (applyCommandFeedback U action)).updateUIForModule m, [])

/-- The `command-error` handler. -/
def onCommandError (module error : CStr) (p : Page) : Page × List Request :=
  match ModuleId.all.find? (fun m => m.num = module.erase 'D') with
  | none => (p, [])
  | some m =>
    let text := "Error: ".toList ++ Node.Server.orElse error "Unknown error".toList
    ((p.setMessage m text).setTimeout (.clearMessage m), [])

/-- An event from the server. -/
def receive (e : Node.Emit) (p : Page) : Page × List Request :=
  match e with
  | .commandFeedback module _ _ action _ => p.onCommandFeedback U module action
  | .commandError module _ error => p.onCommandError module error
  | .doorFeedback module _ action => p.onDoorFeedback U module action
  | .hubEvent module _ event _ => p.onHubEvent U module event
  | .hubHeartbeat _ _ => (p, [])
  | .hubHello _ _ => (p, [])
  | .hubRaw _ => (p, [])

/-- `toggleDoor`. -/
def toggleDoor (m : ModuleId) (p : Page) : Page × List Request :=
  let state := p.doorStates m
  if state.doorOpen = some true then
    ((p.setMessage m "Door is open; cannot change lock".toList).setTimeout (.clearMessage m), [])
  else
    let action := if state.lockLocked = some true then "UNLOCK".toList else "LOCK".toList
    ((p.setMessage m "Sending command...".toList).setTimeout (.clearMessage m),
      [⟨m.text, "D0".toList, action⟩])

/-- The `DOMContentLoaded` handler. -/
def onLoaded (p : Page) : Page × List Request :=
  if p.connected then ({ p with ready := true }, ModuleId.all.map requestModuleStatus)
  else ({ p with ready := true, statusOnConnect := true }, [])

/-- The `connect` handlers. -/
def onConnect (p : Page) : Page × List Request :=
  let p := { p with connected := true }
  if p.ready then
    ({ p with connectionStatus := "Connected".toList },
      if p.statusOnConnect then ModuleId.all.map requestModuleStatus else [])
  else (p, [])

/-- The `disconnect` handler. -/
def onDisconnect (p : Page) : Page :=
  let p := { p with connected := false }
  if p.ready then { p with connectionStatus := "Disconnected".toList } else p

/-- The callback of a timer. -/
def onTimer (t : PageTimer) (p : Page) : Page × List Request :=
  match t with
  | .clearMessage m => (p.setMessage m [], [])
  | .poll m targetLocked pollCount =>
    if (p.doorStates m).lockLocked = some targetLocked ∨ maxPolls ≤ pollCount then (p, [])
    else p.pollStatus m targetLocked pollCount

end Page

/-! ### Runs -/

/-- What happens to the page. -/
inductive PageEv
  /-- The page is loaded anew. -/
  | load
  | domContentLoaded
  | connect
  | disconnect
  /-- An event of the server arrives. -/
  | receive (e : Node.Emit)
  /-- The interval of three seconds. -/
  | tick
  /-- The timer at this place runs out. -/
  | timer (i : ℕ)
  /-- A click on the button of the module. -/
  | click (m : ModuleId)

namespace Page

/-- One event: the page afterwards and what it emits. -/
def exec (p : Page) : PageEv → Page × List Request
  | .load => (loaded, [])
  | .domContentLoaded => if p.ready then (p, []) else p.onLoaded
  | .connect => p.onConnect
  | .disconnect => (p.onDisconnect, [])
  | .receive e => if p.ready then p.receive U e else (p, [])
  | .tick => (p, if p.ready then ModuleId.all.map requestModuleStatus else [])
  | .timer i =>
    match p.timers[i]? with
    | none => (p, [])
    | some t => onTimer t { p with timers := p.timers.eraseIdx i }
  -- a disabled button ignores clicks
  | .click m => if p.ready ∧ (p.rows m).disabled = false then p.toggleDoor m else (p, [])

def step (p : Page) (e : PageEv) : Page := (p.exec U e).1

/-- The page after the events `es`. -/
def visited (es : List PageEv) : Page := run (step U) loaded es

theorem visited_concat (es : List PageEv) (e : PageEv) :
    visited U (es ++ [e]) = (visited U es).step U e := run_append _ _ _ _

end Page

end Web

end DoorSystem
