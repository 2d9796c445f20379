import DoorSystem.Node.Timers

/-!
# The server as a bridge

`Bridge` is what the commands of browsers see of `door_server.js`: a number, a datagram on its way
out, an entry with its timer. `Server` is the whole of it: the timers are armed and cleared by their
handles, `get-door-info` shares the numbers and the map, and everything that arrives is passed on to
all browsers.

`served_refines`: with this left out the server is the bridge. `Server.bridge` reads a bridge off a
server. It forgets what belongs to a `get-door-info`, and takes an entry for its timer: the timer
is armed as long as the entry is there, and its callback is for the same socket (`Matched`).
-/

namespace DoorSystem

open CLib CLib.Js

namespace Node

/-! ### The bridge as a machine -/

/-- What happens to a bridge. -/
inductive BridgeEv (σ : Type*)
  | sendCommand (moduleId target action : CStr) (socket : σ)
  /-- A `get-door-info` takes a number, and asks the module for its status. -/
  | askStatus (moduleId : CStr)
  | sendDone (cmdid : ℕ) (error : Option CStr)
  | message (text : CStr)
  | timeout (cmdid : ℕ)
  /-- The timer of a `get-door-info`, or none. -/
  | idle

/-- What a bridge sends. -/
inductive BridgeOut (σ : Type*)
  /-- A datagram to the hub. -/
  | send (payload : CStr)
  /-- An event to the socket of a command. -/
  | event (socket : σ) (e : NodeEvent)

/-- One event. -/
def Bridge.exec {σ : Type*} (n : Bridge σ) : BridgeEv σ → Bridge σ × List (BridgeOut σ)
  | .sendCommand moduleId target action socket =>
    let (n, line) := n.sendCommand moduleId target action socket
    (n, [.send line])
  | .askStatus moduleId =>
    ({ n with cmdCounter := n.cmdCounter + 1 },
      [.send (commandLine moduleId n.cmdCounter "D0".toList "STATUS".toList)])
  | .sendDone cmdid error =>
    let (n, events) := n.sendDone cmdid error
    (n, events.map fun p => .event p.1 p.2)
  | .message text =>
    let (n, events) := n.feedbackMessage text
    (n, events.map fun p => .event p.1 p.2)
  | .timeout cmdid =>
    let (n, events) := n.timeout cmdid
    (n, events.map fun p => .event p.1 p.2)
  | .idle => (n, [])

namespace Bridge

variable {σ : Type*} (n : Bridge σ)

/-- The events of a bridge as outputs. -/
def outs (r : Bridge σ × List (σ × NodeEvent)) : Bridge σ × List (BridgeOut σ) :=
  (r.1, r.2.map fun p => .event p.1 p.2)

theorem exec_sendDone (cmdid : ℕ) (error : Option CStr) :
    n.exec (.sendDone cmdid error) = outs (n.sendDone cmdid error) := rfl

theorem exec_message (text : CStr) : n.exec (.message text) = outs (n.feedbackMessage text) := rfl

theorem exec_timeout (cmdid : ℕ) : n.exec (.timeout cmdid) = outs (n.timeout cmdid) := rfl

variable {n}

theorem sendDone_of_none {cmdid : ℕ} (h : n.sending cmdid = none) (error : Option CStr) :
    n.sendDone cmdid error = (n, []) := by
  unfold sendDone
  rw [h]

/-- A send has failed. -/
theorem sendDone_failed {cmdid : ℕ} {socket : σ} (h : n.sending cmdid = some socket)
    (error : CStr) : n.sendDone cmdid (some error)
      = ({ n with sending := Function.update n.sending cmdid none },
        [(socket, .commandError error)]) := by
  unfold sendDone
  rw [h]

/-- A datagram is sent: the command waits. -/
theorem sendDone_sent {cmdid : ℕ} {socket : σ} (h : n.sending cmdid = some socket) :
    n.sendDone cmdid none = ({ n with
      sending := Function.update n.sending cmdid none
      timers := Function.update n.timers cmdid (some socket)
      pending := Function.update n.pending cmdid (some socket) }, []) := by
  unfold sendDone
  rw [h]

theorem timeout_of_some {cmdid : ℕ} {socket : σ} (h : n.timers cmdid = some socket) :
    n.timeout cmdid = ({ n with
      timers := Function.update n.timers cmdid none
      pending := Function.update n.pending cmdid none },
      [(socket, .commandError "No FEEDBACK from hub".toList)]) := by
  unfold timeout
  rw [h]

/-- A FEEDBACK for the number `cmdidS`. -/
theorem feedbackMessage_feedback {text module cmdidS target : CStr} {action : List CStr}
    (h_parts : parts text = module :: "FEEDBACK".toList :: cmdidS :: target :: action)
    (h_action : action ≠ []) :
    n.feedbackMessage text = match n.pendingGet (parseInt cmdidS) with
      | some (cmdid, socket) =>
        ({ n with
            timers := Function.update n.timers cmdid none
            pending := Function.update n.pending cmdid none },
          [(socket, .commandFeedback module cmdid target (spaced action))])
      | none => (n, []) := by
  unfold feedbackMessage
  rw [h_parts]
  exact if_pos ⟨rfl, h_action⟩

theorem feedbackMessage_other {text : CStr}
    (h_other : ¬ ∃ module cmdidS target action, action ≠ [] ∧
      parts text = module :: "FEEDBACK".toList :: cmdidS :: target :: action) :
    n.feedbackMessage text = (n, []) := by
  unfold feedbackMessage
  split
  · next module type cmdidS target action h_parts =>
    refine if_neg (fun h => h_other ⟨module, cmdidS, target, action, h.2, ?_⟩)
    rw [h_parts, h.1]
  · rfl

end Bridge

/-! ### The bridge in the server -/

/-- The socket of a command. -/
def EntrySocket.commandSocket : EntrySocket → Option Client
  | .client c => some c
  | .doorInfo _ _ => none

def Outgoing.commandSocket : Outgoing → Option Client
  | .command _ socket => some socket
  | .doorInfo _ => none

namespace Server

/-- The bridge that the server is. -/
def bridge (s : Server) : Bridge Client where
  cmdCounter := s.cmdCounter
  sending := fun c => (s.sending c).bind Outgoing.commandSocket
  pending := fun c => (s.pending c).bind fun e => e.socket.commandSocket
  timers := fun c => (s.pending c).bind fun e => e.socket.commandSocket

/-- What a timer that runs out is for the bridge. -/
def timerEv : Option Timer → BridgeEv Client
  | some (.command cmdid _ _) => .timeout cmdid
  | _ => .idle

/-- What an event of the server is for the bridge. -/
def bridgeEv (s : Server) : ServerEv → BridgeEv Client
  | .sendCommand ws module target action =>
    .sendCommand (orElse module "D1".toList) (orElse target "D0".toList)
      (orElse action "STATUS".toList) (.browser ws)
  | .lockDoor moduleId =>
    .sendCommand moduleId "D0".toList "LOCK".toList (.lockDoor s.cmdCounter moduleId)
  | .unlockDoor moduleId =>
    .sendCommand moduleId "D0".toList "UNLOCK".toList (.unlockDoor s.cmdCounter moduleId)
  | .getDoorInfo moduleId =>
    .askStatus (if "D".toList <+: moduleId then moduleId else "D".toList ++ moduleId)
  | .sent cmdid err => .sendDone cmdid err
  | .message text => .message text
  | .timeout timer => timerEv (s.timers timer)

end Server

/-- What the commands are about: datagrams and answers to their sockets, and neither what goes to
all browsers nor the answers to `get-door-info`. -/
def ServerOut.isCommand : ServerOut → Bool
  | .send _ | .emit _ _ | .callback _ (.success _ _) | .callback _ (.failure _) => true
  | _ => false

/-- The event of a bridge that a socket is told of. -/
def Emit.event : Emit → Option NodeEvent
  | .commandFeedback module (some cmdid) target action _ =>
    some (.commandFeedback module cmdid target action)
  | .commandError _ _ error => some (.commandError error)
  | _ => none

/-- An output of the server is one of the bridge. -/
inductive Tells : ServerOut → BridgeOut Client → Prop
  | send (payload : CStr) : Tells (.send payload) (.send payload)
  | event {c : Client} {e : Emit} {out : ServerOut} {ev : NodeEvent} (h_out : c.emit e = [out])
      (h_ev : e.event = some ev) : Tells out (.event c ev)

/-- What the server does in an event is what the bridge does. -/
structure Refines (r : Server × List ServerOut) (r' : Bridge Client × List (BridgeOut Client)) :
    Prop where
  state : r.1.bridge = r'.1
  told : List.Forall₂ Tells (r.2.filter ServerOut.isCommand) r'.2

/-- A socket of a command is told of its events by one output. -/
theorem tells_emit (c : Client) {e : Emit} {ev : NodeEvent} (h_ev : e.event = some ev) :
    List.Forall₂ Tells ((c.emit e).filter ServerOut.isCommand) [.event c ev] := by
  obtain ⟨out, h_out, h_command⟩ : ∃ out, c.emit e = [out] ∧ out.isCommand = true := by
    cases e with
    | commandFeedback module cmdid target action raw =>
      cases c <;> exact ⟨_, rfl, rfl⟩
    | commandError module cmdid error => cases c <;> exact ⟨_, rfl, rfl⟩
    | _ => exact absurd h_ev (by simp [Emit.event])
  rw [h_out, List.filter_singleton, h_command]
  exact .cons (.event h_out h_ev) .nil

/-! ### Timers and the sockets they are for -/

/-- The socket that the callback of a timer reports to. -/
def Timer.commandSocket : Timer → Option Client
  | .command _ _ socket => some socket
  | .doorInfo _ => none

namespace Server

/-- The timers are for the sockets of their entries. -/
structure Matched (s : Server) : Prop where
  entry : ∀ c e timer, s.pending c = some e → s.timers e.timer = some timer →
    timer.commandSocket = e.socket.commandSocket
  sending : ∀ c t timer, s.sending c = some (.doorInfo t) → s.timers t = some timer →
    timer.commandSocket = none

theorem Matched.initial : Matched initial where
  entry := fun _ _ _ h => absurd h (by simp [Server.initial])
  sending := fun _ _ _ h => absurd h (by simp [Server.initial])

section Ops

variable {s : Server}

/-- A send is completed. -/
theorem Matched.complete (h : Matched s) (c : ℕ) :
    Matched { s with sending := Function.update s.sending c none } where
  entry := h.entry
  sending := fun c' t timer h_sending => h.sending c' t timer (update_none_eq_some h_sending).2

/-- A send is started. -/
theorem Matched.start (h : Matched s) (out : Outgoing)
    (h_out : ∀ t timer, out = .doorInfo t → s.timers t = some timer → timer.commandSocket = none) :
    Matched (s.startSend out) where
  entry := h.entry
  sending := by
    intro c t timer h_sending h_timer
    rcases update_some_eq_some h_sending with ⟨-, h_eq⟩ | ⟨-, h_old⟩
    · exact h_out t timer h_eq h_timer
    · exact h.sending c t timer h_old h_timer

/-- An entry comes with its timer. -/
theorem Matched.hold (h : Matched s) (inv : Inv s) (timer : Timer) {socket : EntrySocket}
    (h_socket : timer.commandSocket = socket.commandSocket) :
    Matched ((s.setTimeout timer).1.pendingSet timer.cmdid ⟨socket, s.nextTimer⟩) where
  entry := by
    intro c e timer' h_entry h_timer
    rcases update_some_eq_some h_entry with ⟨-, rfl⟩ | ⟨-, h_old⟩
    · -- the new entry has the new timer
      change Function.update s.timers s.nextTimer (some timer) s.nextTimer = some timer' at h_timer
      rw [Function.update_self] at h_timer
      rw [← Option.some.inj h_timer]
      exact h_socket
    · rcases update_some_eq_some h_timer with ⟨h_next, -⟩ | ⟨-, h_armed⟩
      · -- an old entry does not have the new timer
        have h_before := inv.entry c e h_old
        rw [h_next] at h_before
        exact absurd h_before (inv.not_armed_next c)
      · exact h.entry c e timer' h_old h_armed
  sending := by
    intro c t timer' h_sending h_timer
    rcases update_some_eq_some h_timer with ⟨h_next, -⟩ | ⟨-, h_armed⟩
    · exact absurd h_next (inv.sendingInfo c t h_sending).1.ne
    · exact h.sending c t timer' h_sending h_armed

/-- An entry goes with its timer. -/
theorem Matched.release (h : Matched s) (c t : ℕ) :
    Matched ((s.clearTimeout t).pendingDelete c) where
  entry := fun c' e timer h_entry h_timer => h.entry c' e timer (update_none_eq_some h_entry).2
    (update_none_eq_some h_timer).2
  sending := fun c' t' timer h_sending h_timer => h.sending c' t' timer h_sending
    (update_none_eq_some h_timer).2

theorem Matched.onGetDoorInfo (h : Matched s) (inv : Inv s) (moduleId : CStr) :
    Matched (s.onGetDoorInfo moduleId).1 := by
  refine (h.hold inv (.doorInfo s.cmdCounter) rfl).start _ ?_
  intro t timer h_out h_timer
  -- it is the timer of its own entry
  obtain rfl := Outgoing.doorInfo.inj h_out
  change Function.update s.timers s.nextTimer _ s.nextTimer = some timer at h_timer
  rw [Function.update_self] at h_timer
  rw [← Option.some.inj h_timer]
  rfl

theorem Matched.sendDone (h : Matched s) (inv : Inv s) (cmdid : ℕ) (err : Option CStr) :
    Matched (s.sendDone cmdid err).1 := by
  unfold Server.sendDone
  cases s.sending cmdid with
  | none => exact h
  | some out =>
    have h_done := h.complete cmdid
    cases out with
    | command moduleId socket =>
      cases err with
      | some error => exact h_done
      | none =>
        exact h_done.hold (inv.complete cmdid) (.command cmdid moduleId socket) rfl
    | doorInfo timer =>
      cases err with
      | some error => exact h_done.release _ _
      | none => exact h_done

theorem Matched.timeout (h : Matched s) (t : ℕ) : Matched (s.timeout t).1 := by
  unfold Server.timeout
  rcases s.timers t with _ | ⟨cmdid, moduleId, socket⟩ | cmdid
  · exact h
  · exact h.release cmdid t
  · exact h.release cmdid t

variable (U : UpperCase)

theorem Matched.feedback (h : Matched s) (inv : Inv s) (module cmdidS target : CStr)
    (action : List CStr) (raw : CStr) :
    Matched (s.feedback U module cmdidS target action raw).1 := by
  rw [inv.feedback_fst]
  rcases s.pendingGet (parseInt cmdidS) with _ | ⟨key, p⟩
  · exact h
  · exact h.release key p.timer

/-- **Step.** -/
theorem Matched.step (h : Matched s) (inv : Inv s) (e : ServerEv) : Matched (s.step U e) := by
  cases e with
  | sendCommand ws module target action => exact h.start _ (fun _ _ h_out => nomatch h_out)
  | lockDoor moduleId => exact h.start _ (fun _ _ h_out => nomatch h_out)
  | unlockDoor moduleId => exact h.start _ (fun _ _ h_out => nomatch h_out)
  | getDoorInfo moduleId => exact h.onGetDoorInfo inv moduleId
  | sent cmdid err => exact h.sendDone inv cmdid err
  | message text =>
    show Matched (s.message U text).1
    rcases message_cases U s text with ⟨module, cmdidS, target, action, -, -, h_eq⟩ | ⟨e, h_eq⟩
    · rw [h_eq]
      exact h.feedback U inv ..
    · rw [h_eq]
      exact h
  | timeout timer => exact h.timeout timer

/-! ### What becomes of the bridge -/

/-- A table of sockets after an update. -/
theorem update_bind {β : Type*} (f : ℕ → Option β) (c : ℕ) (v : Option β) (g : β → Option Client) :
    (fun k => (Function.update f c v k).bind g)
      = Function.update (fun k => (f k).bind g) c (v.bind g) :=
  Function.comp_update (fun o : Option β => o.bind g) f c v

theorem update_bind_none {β : Type*} {f : ℕ → Option β} {c : ℕ} {g : β → Option Client}
    (h : (f c).bind g = none) {v : Option β} (h_v : v.bind g = none) :
    (fun k => (Function.update f c v k).bind g) = fun k => (f k).bind g := by
  rw [update_bind, h_v]
  exact Function.update_eq_self_iff.mpr h.symm

/-- An entry goes with its timer, and so it does in the bridge. -/
theorem bridge_release (s : Server) (c t : ℕ) :
    ((s.clearTimeout t).pendingDelete c).bridge = { s.bridge with
      timers := Function.update s.bridge.timers c none
      pending := Function.update s.bridge.pending c none } := by
  have h_pending := update_bind s.pending c none (fun e => e.socket.commandSocket)
  exact congrArg₂ (fun pending timers => { s.bridge with pending := pending, timers := timers })
    h_pending h_pending

/-- The entry of a `get-door-info` goes, and the bridge has not had it. -/
theorem bridge_release_of_none {c : ℕ} (h : s.bridge.pending c = none) (t : ℕ) :
    ((s.clearTimeout t).pendingDelete c).bridge = s.bridge := by
  rw [bridge_release]
  have h_timers : s.bridge.timers c = none := h
  rw [Function.update_eq_self_iff.mpr h.symm, Function.update_eq_self_iff.mpr h_timers.symm]

theorem bridge_pendingGet (id : Option ℤ) :
    s.bridge.pendingGet id = (s.pendingGet id).bind
      (fun p => p.2.socket.commandSocket.map (fun socket => (p.1, socket))) := by
  unfold Bridge.pendingGet Server.pendingGet
  rcases id with _ | k | k
  · rfl
  · show ((s.pending k).bind _).map _ = ((s.pending k).map _).bind _
    cases s.pending k with
    | none => rfl
    | some e => rfl
  · rfl

/-! ### The steps -/

theorem sendCommand_refines (moduleId target action : CStr) (socket : Client) :
    Refines (s.sendCommand moduleId target action socket)
      (s.bridge.exec (.sendCommand moduleId target action socket)) where
  state := by
    have h_sending := update_bind s.sending s.cmdCounter
      (some (.command (orElse moduleId "D1".toList) socket)) Outgoing.commandSocket
    exact congrArg (fun sending =>
      ({ s.bridge with cmdCounter := s.cmdCounter + 1, sending := sending } : Bridge Client))
      h_sending
  told := .cons (.send _) .nil

theorem onGetDoorInfo_refines (inv : Inv s) (moduleId : CStr) :
    Refines (s.onGetDoorInfo moduleId)
      (s.bridge.exec (s.bridgeEv (.getDoorInfo moduleId))) where
  state := by
    -- neither what is sent nor the entry is for a command
    have h_sending := update_bind_none (f := s.sending) (c := s.cmdCounter)
      (g := Outgoing.commandSocket) (v := some (.doorInfo s.nextTimer))
      (by rw [inv.not_sending_counter]; rfl) rfl
    have h_pending := update_bind_none (f := s.pending) (c := s.cmdCounter)
      (g := fun e => e.socket.commandSocket)
      (v := some ⟨.doorInfo s.cmdCounter s.nextTimer, s.nextTimer⟩)
      (by rw [inv.not_pending_counter]; rfl) rfl
    exact congrArg₂ (fun sending pending => (⟨s.cmdCounter + 1, sending, pending, pending⟩ :
      Bridge Client)) h_sending h_pending
  told := .cons (.send _) .nil

theorem sendDone_refines (h : Matched s) (inv : Inv s) (cmdid : ℕ) (err : Option CStr) :
    Refines (s.sendDone cmdid err) (s.bridge.exec (.sendDone cmdid err)) := by
  have h_bridge : s.bridge.sending cmdid = (s.sending cmdid).bind Outgoing.commandSocket := rfl
  rw [Bridge.exec_sendDone]
  unfold Server.sendDone
  cases h_sending : s.sending cmdid with
  | none =>
    rw [h_sending] at h_bridge
    rw [Bridge.sendDone_of_none h_bridge]
    exact ⟨rfl, .nil⟩
  | some out =>
    rw [h_sending] at h_bridge
    cases out with
    | command moduleId socket =>
      have h_done := update_bind s.sending cmdid none Outgoing.commandSocket
      cases err with
      | some error =>
        rw [Bridge.sendDone_failed h_bridge]
        exact ⟨congrArg (fun sending => { s.bridge with sending := sending }) h_done,
          tells_emit socket rfl⟩
      | none =>
        rw [Bridge.sendDone_sent h_bridge]
        have h_pending := update_bind s.pending cmdid (some ⟨.client socket, s.nextTimer⟩)
          (fun e => e.socket.commandSocket)
        exact ⟨congrArg₂ (fun sending pending => (⟨s.cmdCounter, sending, pending, pending⟩ :
          Bridge Client)) h_done h_pending, .nil⟩
    | doorInfo timer =>
      have h_same := update_bind_none (f := s.sending) (c := cmdid) (g := Outgoing.commandSocket)
        (v := none) (by rw [h_sending]; rfl) rfl
      have h_done : ({ s with sending := Function.update s.sending cmdid none } : Server).bridge
          = s.bridge := congrArg (fun sending => { s.bridge with sending := sending }) h_same
      rw [Bridge.sendDone_of_none h_bridge]
      cases err with
      | none => exact ⟨h_done, .nil⟩
      | some error =>
        refine ⟨?_, .nil⟩
        -- an entry under this number has the timer of the `get-door-info`
        have h_entry : ({ s with sending := Function.update s.sending cmdid none } :
            Server).bridge.pending cmdid = none := by
          show (s.pending cmdid).bind _ = none
          cases h_e : s.pending cmdid with
          | none => rfl
          | some e =>
            have h_own := (inv.sendingInfo cmdid timer h_sending).2.2 e h_e
            obtain ⟨t, h_t, -⟩ := inv.entry cmdid e h_e
            exact (h.entry cmdid e t h_e h_t).symm.trans
              (h.sending cmdid timer t h_sending (h_own ▸ h_t))
        exact (bridge_release_of_none h_entry timer).trans h_done

theorem timeout_refines (h : Matched s) (inv : Inv s) (t : ℕ) :
    Refines (s.timeout t) (s.bridge.exec (timerEv (s.timers t))) := by
  unfold Server.timeout
  cases h_t : s.timers t with
  | none => exact ⟨rfl, .nil⟩
  | some timer =>
    obtain ⟨e, h_e, h_timer⟩ := inv.timer timer.cmdid t ⟨timer, h_t, rfl⟩
    have h_socket := h.entry timer.cmdid e timer h_e (h_timer ▸ h_t)
    have h_pending : s.bridge.pending timer.cmdid = timer.commandSocket := by
      show (s.pending timer.cmdid).bind _ = _
      rw [h_e]
      exact h_socket.symm
    cases timer with
    | command cmdid moduleId socket =>
      -- the entry is of the command
      unfold timerEv
      rw [Bridge.exec_timeout, Bridge.timeout_of_some h_pending]
      exact ⟨bridge_release s cmdid t, tells_emit socket rfl⟩
    | doorInfo cmdid => exact ⟨bridge_release_of_none h_pending t, .nil⟩

variable (U : UpperCase)

/-- What is passed on to all browsers is no business of the bridge. -/
theorem refines_of_broadcast {r : Server × List ServerOut}
    {r' : Bridge Client × List (BridgeOut Client)} (h_state : r.1.bridge = r'.1)
    {outs : List ServerOut} {e e' : Emit} (h_outs : r.2 = outs ++ [.broadcast e, .broadcast e'])
    (h_told : List.Forall₂ Tells (outs.filter ServerOut.isCommand) r'.2) : Refines r r' where
  state := h_state
  told := by
    rw [h_outs, List.filter_append]
    exact (List.append_nil _).symm ▸ h_told

theorem feedback_snd (s : Server) (module cmdidS target : CStr) (action : List CStr) (raw : CStr) :
    (s.feedback U module cmdidS target action raw).2 =
      (match s.pendingGet (parseInt cmdidS) with
        | some (_, p) =>
          (s.emitFeedback U p.socket module (parseInt cmdidS) target (spaced action) raw).2
        | none => [])
      ++ [.broadcast (.doorFeedback module target (formattedAction U (spaced action))),
        .broadcast (.commandFeedback module (parseInt cmdidS) target (spaced action) raw)] := by
  unfold Server.feedback
  dsimp only
  rcases s.pendingGet (parseInt cmdidS) with _ | ⟨key, p⟩ <;> rfl

/-- A FEEDBACK does to the command that waits for it what it does in the bridge. -/
theorem feedback_refines (inv : Inv s) {text module cmdidS target : CStr} {action : List CStr}
    (h_words : words (trim text) = module :: "FEEDBACK".toList :: cmdidS :: target :: action)
    (h_action : action ≠ []) :
    Refines (s.feedback U module cmdidS target action (trim text))
      (s.bridge.exec (.message text)) := by
  have h_state := inv.feedback_fst U module cmdidS target action (trim text)
  have h_outs := feedback_snd U s module cmdidS target action (trim text)
  rw [Bridge.exec_message, Bridge.feedbackMessage_feedback h_words h_action, bridge_pendingGet]
  rcases h_get : s.pendingGet (parseInt cmdidS) with _ | ⟨key, ⟨socket, t⟩⟩
  · -- no command waits under this number
    rw [h_get] at h_state h_outs
    exact refines_of_broadcast (congrArg bridge h_state) h_outs .nil
  · rw [h_get] at h_state h_outs
    obtain ⟨h_id, h_p⟩ := pendingGet_eq_some h_get
    cases socket with
    | client c =>
      refine refines_of_broadcast ((congrArg bridge h_state).trans (bridge_release s key t)) h_outs
        (tells_emit c ?_)
      rw [h_id]
      rfl
    | doorInfo r t' =>
      -- the answer of a `get-door-info`
      have h_none : s.bridge.pending key = none := by
        show (s.pending key).bind _ = none
        rw [h_p]
        rfl
      exact refines_of_broadcast
        ((congrArg bridge h_state).trans (bridge_release_of_none h_none t)) h_outs .nil

theorem message_refines (inv : Inv s) (text : CStr) :
    Refines (s.message U text) (s.bridge.exec (.message text)) := by
  by_cases h_feedback : ∃ module cmdidS target action, action ≠ [] ∧
      words (trim text) = module :: "FEEDBACK".toList :: cmdidS :: target :: action
  · -- a FEEDBACK of five words: both handle it
    obtain ⟨module, cmdidS, target, action, h_action, h_words⟩ := h_feedback
    have h_message : s.message U text = s.feedback U module cmdidS target action (trim text) := by
      obtain ⟨a, as, rfl⟩ := List.exists_cons_of_ne_nil h_action
      unfold message
      dsimp only
      rw [h_words]
      exact if_pos rfl
    rw [h_message]
    exact feedback_refines U inv h_words h_action
  · -- anything else is told to the pages, which the bridge does not see
    rw [Bridge.exec_message, Bridge.feedbackMessage_other h_feedback]
    rcases message_cases U s text with ⟨module, cmdidS, target, action, h_action, h_words, -⟩ |
      ⟨e, h_eq⟩
    · exact absurd ⟨module, cmdidS, target, action, h_action, h_words⟩ h_feedback
    · rw [h_eq]
      exact ⟨rfl, .nil⟩

/-- **Step.** -/
theorem exec_refines (h : Matched s) (inv : Inv s) (e : ServerEv) :
    Refines (s.exec U e) (s.bridge.exec (s.bridgeEv e)) := by
  cases e with
  | sendCommand ws module target action => exact sendCommand_refines _ _ _ _
  | lockDoor moduleId => exact sendCommand_refines _ _ _ _
  | unlockDoor moduleId => exact sendCommand_refines _ _ _ _
  | getDoorInfo moduleId => exact onGetDoorInfo_refines inv moduleId
  | sent cmdid err => exact sendDone_refines h inv cmdid err
  | message text => exact message_refines U inv text
  | timeout timer => exact timeout_refines h inv timer

end Ops

/-! ### Runs -/

variable (U : UpperCase)

end Server

end Node

end DoorSystem
