import DoorSystem.Door.Reporting
import DoorSystem.Hub.Forwarding
import DoorSystem.Lib.Bag
import DoorSystem.Node.Bridge
import DoorSystem.System.AckDelivery

/-!
# The web bridge, the hub and three doors

The whole path of a web command: the bridge sends a COMMAND line to the hub, the hub forwards it to
the door, the door answers the hub with a FEEDBACK line, and the hub relays it to the bridge. The
datagrams in flight are two multisets, so they arrive in any order.

`stepNet` is one event at one of the parties. What a door sends besides its answers is quiet
(`QuietLine`): the hub neither forwards nor relays it.
-/

namespace DoorSystem

open CLib

namespace System

open Door Hub Node

variable {σ : Type*}

/-! ### The parties -/

/-- The three modules. -/
inductive DoorId
  | D1
  | D2
  | D3
deriving DecidableEq

instance : Fintype DoorId := ⟨{.D1, .D2, .D3}, fun d => by cases d <;> decide⟩

/-- The module id. -/
def DoorId.name : DoorId → CStr
  | .D1 => "D1".toList
  | .D2 => "D2".toList
  | .D3 => "D3".toList

/-- A datagram in flight, with the address it comes from on the way to the hub, and with the
address it goes to on the way from the hub. -/
abbrev Packet := SockAddr × CStr

/-- The addresses of the doors and of the bridge. -/
structure Addresses where
  door : DoorId → SockAddr
  node : SockAddr
  door_injective : Function.Injective door
  door_ne_node : ∀ d, door d ≠ node

/-- A call of `sendCommand` with the target D0, and the number it took. -/
structure Command (σ : Type*) where
  cmdid : ℕ
  socket : σ
  door : DoorId
  action : KnownAction

/-- The state of all parties. -/
structure Net (σ : Type*) where
  bridge : Bridge σ
  hub : HubState
  doors : DoorId → DoorRun
  toHub : Multiset Packet
  fromHub : Multiset Packet
  /-- What the bridge has emitted to single sockets. -/
  emitted : List (σ × NodeEvent)
  /-- The calls of `sendCommand` so far. -/
  issued : List (Command σ)
  /-- The commands that the hub has taken and that it has not seen answered. -/
  outstanding : Finset ℤ

/-- What happens. -/
inductive NetEv (σ : Type*)
  | issue (socket : σ) (door : DoorId) (action : KnownAction)
  /-- The callback of `udpSocket.send`. -/
  | sendDone (cmdid : ℕ) (error : Option CStr)
  | timeout (cmdid : ℕ)
  /-- The hub handles a datagram. -/
  | hubRecv (p : Packet) (t tReg : ℤ)
  | check (now : ℤ)
  /-- The listener thread of a door handles a datagram. -/
  | doorRecv (d : DoorId) (line : CStr) (env : CallEnv)
  /-- The other threads of a door: its own operations and heartbeats. -/
  | doorEv (d : DoorId) (e : DoorEv)
  /-- The bridge handles a datagram. -/
  | nodeRecv (line : CStr)

/-! ### Steps -/

/-- The datagrams that the hub sends. -/
def packetsOf (outs : List HubOut) : Multiset Packet := ↑(relaysOf outs ++ forwardsOf outs)

/-- The lines that a door sends. -/
def sentLines (effects : List DoorEffect) : List CStr :=
  effects.filterMap (fun e => match e with
    | .send o => some o.line
    | _ => none)

/-- The command id of a complete COMMAND or FEEDBACK line. -/
def cmdidOf (line : CStr) : Option ℤ :=
  let ws := lineTokens (datagramLine line)
  ((commandOf ws).or (feedbackOf ws)).map CmdWords.cmdid

/-- The command that a datagram is about. -/
def Packet.cmdid (p : Packet) : Option ℤ := cmdidOf p.2

/-- An event at the hub. -/
def Net.atHub (n : Net σ) (e : HubEv) : Net σ :=
  { n with hub := Hub.step n.hub e, fromHub := packetsOf (exec n.hub e).2 + n.fromHub }

/-- A door goes on to the state `s`, with the effects `effects`. -/
def Net.atDoor (A : Addresses) (n : Net σ) (d : DoorId) (s : DoorRun)
    (effects : List DoorEffect) : Net σ :=
  { n with
    doors := Function.update n.doors d s
    toHub := ↑((sentLines effects).map (fun line => (A.door d, line))) + n.toHub }

/-- The bridge goes on to the state `bridge` and emits `events`. -/
def Net.atNode (n : Net σ) (bridge : Bridge σ) (events : List (σ × NodeEvent)) : Net σ :=
  { n with bridge := bridge, emitted := n.emitted ++ events }

/-- The book on outstanding commands, when the hub handles a line. -/
def bookOutstanding (line : CStr) (outstanding : Finset ℤ) : Finset ℤ :=
  let ws := lineTokens (datagramLine line)
  match commandOf ws, feedbackOf ws with
  | some c, _ => insert c.cmdid outstanding
  | none, some f => outstanding.erase f.cmdid
  | none, none => outstanding

/-- One event. -/
def stepNet (A : Addresses) (n : Net σ) : NetEv σ → Net σ
  | .issue socket d a =>
    let (bridge, line) := n.bridge.sendCommand d.name "D0".toList a.text socket
    { n with
      bridge := bridge
      toHub := (A.node, line) ::ₘ n.toHub
      issued := n.issued ++ [⟨n.bridge.cmdCounter, socket, d, a⟩] }
  | .sendDone cmdid error =>
    let (bridge, events) := n.bridge.sendDone cmdid error
    n.atNode bridge events
  | .timeout cmdid =>
    let (bridge, events) := n.bridge.timeout cmdid
    n.atNode bridge events
  | .hubRecv p t tReg =>
    { n with
      toHub := n.toHub.erase p
      outstanding := bookOutstanding p.2 n.outstanding }.atHub (.datagram p.2 p.1 t tReg)
  | .check now => n.atHub (.check now)
  | .doorRecv d line env =>
    let (s, effects) := doorCmdDatagram line env (n.doors d).module
    { n with fromHub := n.fromHub.erase (A.door d, line) }.atDoor A d
      { n.doors d with module := s } effects
  | .doorEv d e =>
    let (s, effects) := execEv (n.doors d) e
    n.atDoor A d s effects
  | .nodeRecv line =>
    let (bridge, events) := n.bridge.feedbackMessage line
    { n with fromHub := n.fromHub.erase (A.node, line) }.atNode bridge events

/-! ### What a door sends -/

/-- A line of the module `m` that is neither a COMMAND nor a FEEDBACK. -/
def QuietLine (m line : CStr) : Prop :=
  ∃ type args, lineTokens (datagramLine line) = m :: type :: args ∧
    type ≠ "COMMAND".toList ∧ type ≠ "FEEDBACK".toList

theorem QuietLine.cmdWords {m line : CStr} (h : QuietLine m line) :
    commandOf (lineTokens (datagramLine line)) = none ∧
      feedbackOf (lineTokens (datagramLine line)) = none := by
  obtain ⟨type, args, h_words, h_command, h_feedback⟩ := h
  rw [h_words]
  exact ⟨cmdWords_ne h_command _ _, cmdWords_ne h_feedback _ _⟩

theorem QuietLine.cmdidOf {m line : CStr} (h : QuietLine m line) : cmdidOf line = none := by
  unfold System.cmdidOf
  dsimp only
  rw [h.cmdWords.1, h.cmdWords.2]
  rfl

theorem DoorId.isText_name (d : DoorId) : IsText d.name ∧ d.name.length < 16 := by
  cases d <;> decide

theorem DoorId.name_injective : Function.Injective DoorId.name := by
  intro d d'
  cases d <;> cases d' <;> decide

/-- A door that takes commands under the id `m`. -/
structure Listening (m : CStr) (s : DoorModule) : Prop where
  sockOpen : s.udp.gSockOpen = true
  handler : s.udp.gCmdHandler = true
  id : s.udp.gModuleId.str = m

theorem Listening.congr {m : CStr} {s s' : DoorModule} (h : Listening m s)
    (h_udp : s'.udp = s.udp) : Listening m s' := by
  refine ⟨?_, ?_, ?_⟩
  · rw [h_udp]
    exact h.sockOpen
  · rw [h_udp]
    exact h.handler
  · rw [h_udp]
    exact h.id

theorem sentLines_append (xs ys : List DoorEffect) :
    sentLines (xs ++ ys) = sentLines xs ++ sentLines ys := List.filterMap_append

theorem sentLines_steps (positions : List ℕ) : sentLines (positions.map .step) = [] := by
  unfold sentLines
  -- motor steps send nothing
  rw [List.filterMap_map, List.filterMap_eq_nil_iff]
  exact fun _ _ => rfl

theorem sentLines_sends (outs : List DoorOut) :
    sentLines (outs.map .send) = outs.map DoorOut.line := by
  unfold sentLines
  rw [List.filterMap_map, ← List.filterMap_eq_map]
  rfl

/-- The hello of a door is quiet. -/
theorem quietLine_helloLine {u : DoorUdp} (h_text : IsText u.gModuleId.str) :
    QuietLine u.gModuleId.str (helloLine u) :=
  ⟨"HELLO".toList, [], lineTokens_helloLine h_text, by decide, by decide⟩

/-- What updates and operations keep, and what they send. -/
structure Reports (m : CStr) (s : DoorModule) (effects : List DoorEffect) : Prop where
  listening : Listening m s
  quiet : ∀ line ∈ sentLines effects, QuietLine m line

theorem DoorMsg.quietLine {m : CStr} (h_text : IsText m) (h_fits : m.length < 16) (msg : DoorMsg) :
    QuietLine m (msg.line m) := by
  have h_words := DoorMsg.lineTokens_line h_text h_fits msg
  cases msg with
  | heartbeat r => exact ⟨_, _, h_words, by decide, by decide⟩
  | doorEvent o => exact ⟨_, _, h_words, by decide, by decide⟩
  | lockEvent l => exact ⟨_, _, h_words, by decide, by decide⟩

theorem doorUdpUpdate_gCmdHandler (r : Report) (t : ℤ) (u : DoorUdp) :
    (doorUdpUpdate r t u).1.gCmdHandler = u.gCmdHandler := by
  unfold doorUdpUpdate
  dsimp only
  split_ifs <;> rfl

theorem Listening.updateFrom {m : CStr} {s : DoorModule} (h : Listening m s) (h_text : IsText m)
    (distance : Reading) (now : ℤ) :
    Reports m (updateFrom distance now s).1 (updateFrom distance now s).2 := by
  obtain ⟨h_outs, -, -, h_open, -, -, h_id, -⟩ :=
    doorUdpUpdate_eq h.sockOpen (reportOf distance s) now
  have h_module := h.id
  have h_fits := s.udp.gModuleId.fits
  unfold Door.updateFrom
  dsimp only
  refine ⟨⟨h_open.trans h.sockOpen, ?_, ?_⟩, ?_⟩
  · exact (doorUdpUpdate_gCmdHandler _ _ _).trans h.handler
  · exact (congrArg CharBuf.str h_id).trans h.id
  · intro line h_line
    -- what an update sends is what its messages say
    change line ∈ sentLines ((doorUdpUpdate (reportOf distance s) now s.udp).2.map .send) at h_line
    rw [sentLines_sends, h_outs, List.map_map, List.mem_map] at h_line
    obtain ⟨msg, -, rfl⟩ := h_line
    -- the datagram of a message is its line, whatever the port
    have h_msg : (msg.out s.udp).line = msg.line m := by
      rw [← h_module]
      cases msg <;> rfl
    show QuietLine m (msg.out s.udp).line
    rw [h_msg]
    rw [h_module] at h_fits
    exact DoorMsg.quietLine h_text h_fits msg

/-- An operation turns the motor and sends nothing. -/
theorem opAct_silent (kind : OpKind) (env : CallEnv) (door : DoorT) (s : DoorModule) :
    (opAct kind env door s).state.udp = s.udp ∧
      sentLines (opAct kind env door s).effects = [] := by
  obtain ⟨h_lock, h_unlock, h_status⟩ := opAct_udp env door s
  cases kind with
  | lock =>
    -- whichever branch is taken, what it does is turn the motor
    refine ⟨h_lock, ?_⟩
    show sentLines (lockDoorAct env door s).effects = []
    unfold lockDoorAct
    dsimp only
    split_ifs
    · rfl
    · rfl
    · rfl
    · exact sentLines_steps _
  | unlock =>
    refine ⟨h_unlock, ?_⟩
    show sentLines (unlockDoorAct env door s).effects = []
    unfold unlockDoorAct
    dsimp only
    split_ifs
    · rfl
    · exact sentLines_steps _
    all_goals rfl
  | status =>
    refine ⟨h_status, ?_⟩
    show sentLines (getDoorStatusAct env door s).effects = []
    unfold getDoorStatusAct
    dsimp only
    split_ifs <;> rfl

/-- **An event of the other threads** reports, at most. -/
theorem Listening.execEv {m : CStr} {s : DoorRun} (h : Listening m s.module) (h_text : IsText m)
    (e : DoorEv) : Reports m (execEv s e).1.module (execEv s e).2 := by
  -- an event that leaves the transport alone and sends nothing
  have h_silent : ∀ s' : DoorModule, s'.udp = s.module.udp → Reports m s' [] :=
    fun s' h_udp => ⟨h.congr h_udp, fun line h_line => absurd h_line List.not_mem_nil⟩
  cases e with
  | act kind door env =>
    obtain ⟨h_udp, h_lines⟩ := opAct_silent kind env door s.module
    unfold Door.execEv
    dsimp only
    split
    · refine ⟨h.congr h_udp, ?_⟩
      dsimp only
      rw [h_lines]
      exact fun line h_line => absurd h_line List.not_mem_nil
    · -- a call is under way
      exact h_silent _ rfl
  | report distance now =>
    unfold Door.execEv
    dsimp only
    split
    · unfold reportDoorStateUdp
      split_ifs with h_error
      · exact h_silent _ rfl
      · have h_update := h.updateFrom h_text distance now
        exact ⟨h_update.listening.congr rfl, h_update.quiet⟩
    · exact h_silent _ rfl
  | heartbeat distance now => exact h.updateFrom h_text distance now

/-- A whole operation is two such events. -/
theorem Listening.opCall {m : CStr} {s : DoorModule} (h : Listening m s) (h_text : IsText m)
    (kind : OpKind) (env : CallEnv) (door : DoorT) :
    Reports m (opCall kind env door s).state (opCall kind env door s).effects := by
  let s₀ : DoorRun := ⟨s, none⟩
  have h₀ : Listening m s₀.module := h
  -- the act first, then the report of the state it led to
  have h_act := h₀.execEv h_text (.act kind door env)
  have h_report := h_act.listening.execEv h_text (.report env.report env.now)
  obtain ⟨h_state, h_effects⟩ := opCall_eq kind door env s
  have h_module : (Door.execEv (Door.execEv s₀ (.act kind door env)).1
      (.report env.report env.now)).1.module = (Door.opCall kind env door s).state :=
    congrArg DoorRun.module h_state
  refine ⟨?_, ?_⟩
  · rw [← h_module]
    exact h_report.listening
  intro line h_line
  -- the lines of the call are those of its two events
  rw [← h_effects] at h_line
  unfold effectsOf effectsOf effectsOf at h_line
  rw [sentLines_append, List.append_nil, List.mem_append] at h_line
  rcases h_line with h_line | h_line
  · exact h_act.quiet line h_line
  · exact h_report.quiet line h_line

/-! ### A command and its answer -/

/-- The actions of the answers. -/
def answerWords : List CStr :=
  ["LOCK", "UNLOCK", "STATUS_LOCKED", "STATUS_UNLOCKED", "STATUS_OPEN", "STATUS_UNKNOWN"].map
    String.toList

/-- A word that all three parties read as one. -/
def PlainWord (w : CStr) : Prop := IsText w ∧ IsToken Js.isWhite w ∧ w.length ≤ 15

instance (w : CStr) : Decidable (PlainWord w) := inferInstanceAs (Decidable (_ ∧ _))

theorem plainWord_answer {w : CStr} (h : w ∈ answerWords) : PlainWord w := by
  have h_all : ∀ w ∈ answerWords, PlainWord w := by decide
  exact h_all w h

theorem DoorId.plainWord_name (d : DoorId) : PlainWord d.name := by
  cases d <;> decide

namespace Command

/-- The line that the bridge sends. -/
def line (c : Command σ) : CStr := commandLine c.door.name c.cmdid "D0".toList c.action.text

/-- The words of the line. -/
def words (c : Command σ) : CmdWords := ⟨c.door.name, c.cmdid, "D0".toList, c.action.text⟩

/-- The line of an answer with the action `w`. -/
def answer (c : Command σ) (w : CStr) : CStr :=
  (snprintf 256 (feedbackLine c.door.name c.cmdid "D0".toList w)).str

/-- The words of the answer. -/
def answerWords (c : Command σ) (w : CStr) : CmdWords := ⟨c.door.name, c.cmdid, "D0".toList, w⟩

variable {c : Command σ}

theorem inInt_cmdid (h_id : c.cmdid < 2 ^ 31) : InInt c.cmdid := by
  unfold InInt
  omega

theorem isText_action (a : KnownAction) : IsText a.text ∧ a.text.length ≤ 6 := by
  cases a <;> decide

theorem length_line (h_id : c.cmdid < 2 ^ 31) : c.line.length ≤ 255 := by
  -- a number has at most 11 characters, a name 15 and an action 6
  have h_num := length_fmtInt_le (inInt_cmdid h_id)
  have h_name := c.door.isText_name.2
  have h_action := (isText_action c.action).2
  have h_two : "D0".toList.length = 2 := rfl
  unfold line
  rw [length_commandLine]
  omega

/-- The line is received as it was sent. -/
theorem datagramLine_line (h_id : c.cmdid < 2 ^ 31) : datagramLine c.line = c.line := by
  unfold datagramLine
  rw [List.take_of_length_le (length_line h_id)]
  refine cstr_of_noNul (noNul_line ?_)
  exact isText_cmdLine c.door.isText_name.1 (by decide) _ (by decide) (isText_action c.action).1

theorem commandOf_line (h_id : c.cmdid < 2 ^ 31) :
    commandOf (lineTokens (datagramLine c.line)) = some c.words := by
  have h_name := c.door.isText_name
  have h_action := isText_action c.action
  -- the bridge sends the whole line, which is shorter than the hub's own limit
  have h_two : "D0".toList.length = 2 := rfl
  have h_sent := commandOf_commandLine h_name.1 (inInt_cmdid h_id) (by decide) h_action.1
    (show c.door.name.length + "D0".toList.length + c.action.text.length ≤ 232 by omega)
  have h_line : (snprintf 256 c.line).str = c.line :=
    snprintf_of_fits (Nat.lt_succ_of_le (length_line h_id))
  change commandOf (lineTokens (datagramLine (snprintf 256 c.line).str)) = _ at h_sent
  rw [h_line] at h_sent
  exact h_sent

theorem cmdidOf_line (h_id : c.cmdid < 2 ^ 31) : cmdidOf c.line = some (c.cmdid : ℤ) := by
  unfold cmdidOf
  dsimp only
  rw [commandOf_line h_id]
  rfl

theorem feedbackOf_answer (h_id : c.cmdid < 2 ^ 31) {w : CStr} (h_w : PlainWord w) :
    feedbackOf (lineTokens (datagramLine (c.answer w))) = some (c.answerWords w) := by
  have h_name := c.door.isText_name
  have h_two : "D0".toList.length = 2 := rfl
  have h_len := h_w.2.2
  exact feedbackOf_feedbackLine h_name.1 (inInt_cmdid h_id) (by decide) h_w.1
    (show c.door.name.length + "D0".toList.length + w.length ≤ 231 by omega)

theorem cmdidOf_answer (h_id : c.cmdid < 2 ^ 31) {w : CStr} (h_w : PlainWord w) :
    cmdidOf (c.answer w) = some (c.cmdid : ℤ) := by
  have h_f := feedbackOf_answer h_id h_w
  unfold cmdidOf
  dsimp only
  -- a FEEDBACK line is no COMMAND line, so its own number is read
  rw [commandOf_of_feedback h_f, h_f]
  rfl

/-- The answer is not cut. -/
theorem answer_eq (h_id : c.cmdid < 2 ^ 31) {w : CStr} (h_w : PlainWord w) :
    c.answer w = feedbackLine c.door.name c.cmdid "D0".toList w := by
  have h_num := length_fmtInt_le (inInt_cmdid h_id)
  have h_name := c.door.isText_name.2
  have h_two : "D0".toList.length = 2 := rfl
  have h_len := h_w.2.2
  -- the line is shorter than the buffer of 256 characters
  refine snprintf_of_fits ?_
  rw [length_feedbackLine]
  omega

end Command

/-- The handler runs the operation of a known action and answers with a known word. -/
theorem Listening.handlerOp {m : CStr} {s : DoorModule} (h : Listening m s) (h_text : IsText m)
    (a : KnownAction) (env : CallEnv) :
    (handlerOp a.text env s).2 ∈ answerWords ∧
      Reports m (handlerOp a.text env s).1.state (handlerOp a.text env s).1.effects := by
  cases a with
  | lock => exact ⟨show "LOCK".toList ∈ _ by decide, h.opCall h_text .lock env _⟩
  | unlock => exact ⟨show "UNLOCK".toList ∈ _ by decide, h.opCall h_text .unlock env _⟩
  | status =>
    refine ⟨?_, h.opCall h_text .status env _⟩
    -- the status is one of four words
    have h_all : ∀ d : DoorState, (snprintf 32 ("STATUS_".toList ++ stateText d)).str
        ∈ answerWords := by
      intro d
      cases d <;> decide
    exact h_all _

/-- **The door answers** a command, and sends nothing else about it. -/
theorem Listening.doorCmdDatagram {c : Command σ} (h_id : c.cmdid < 2 ^ 31) {s : DoorModule}
    (h : Listening c.door.name s) (env : CallEnv) :
    ∃ w ∈ answerWords, ∃ lines,
      sentLines (doorCmdDatagram c.line env s).2 = lines ++ [c.answer w] ∧
        (∀ line ∈ lines, QuietLine c.door.name line) ∧
          Listening c.door.name (Door.doorCmdDatagram c.line env s).1 := by
  let door : ListeningDoor := ⟨s, h.sockOpen, h.handler⟩
  have h_heard := doorCmdDatagram_heard (s := door) (Command.commandOf_line h_id) h.id.symm env
  obtain ⟨h_w, h_reports⟩ := h.handlerOp c.door.isText_name.1 c.action env
  -- the answer is sent last
  have h_sends : ∀ effects : List DoorEffect, ∀ o : DoorOut,
      sentLines (effects ++ [.send o]) = sentLines effects ++ [o.line] :=
    fun effects o => sentLines_append _ _
  refine ⟨_, h_w, _, ?_, h_reports.quiet, ?_⟩
  · rw [h_heard, h_sends]
    rfl
  · rw [h_heard]
    exact h_reports.listening

end System

end DoorSystem
