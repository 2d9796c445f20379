import DoorSystem.Door.Bolt
import DoorSystem.Door.Handler
import DoorSystem.Hub.Relay
import DoorSystem.Hub.SendCommand
import DoorSystem.Node.DoorServer

/-!
# What a positive acknowledgement of LOCK or UNLOCK says

The door answers every command with the word it was sent, so the FEEDBACK for a LOCK reads LOCK
however the operation went. Both consumers, the call `hub_udp_send_command` and the web bridge's
`lock-door`, take it for success. `ackTruthful_iff`: the acknowledgement is true of the bolt exactly
when the operation completes, or when the hub cannot match the answer because its target does not
fit the buffer of the door slot.
-/

namespace DoorSystem

open CLib

namespace System

open Door Hub Node

/-! ### Commands that move the bolt -/

/-- The actions that move the bolt. -/
inductive BoltAction
  | lock
  | unlock
deriving DecidableEq

/-- The action word. -/
def BoltAction.text : BoltAction → CStr
  | .lock => "LOCK".toList
  | .unlock => "UNLOCK".toList

/-- The reading of `StepperMotor_GetPosition` that the action is meant to reach. -/
def BoltAction.position : BoltAction → ℕ
  | .lock => 180
  | .unlock => 0

/-- The kind of web request that sends the action. -/
def BoltAction.request : BoltAction → RequestKind
  | .lock => .lockDoor
  | .unlock => .unlockDoor

/-- The operation brings the bolt to its position. -/
def BoltAction.Completes : BoltAction → CallEnv → DoorModule → Prop
  | .lock => LockCompletes
  | .unlock => UnlockCompletes

/-- A datagram that reaches a door and is a COMMAND for it to move the bolt. -/
structure BoltCommand (s : ListeningDoor) where
  data : List Char
  action : BoltAction
  words : CmdWords
  isCommand : commandOf (lineTokens (datagramLine data)) = some words
  forDoor : words.mod = s.module.udp.gModuleId.str
  isAction : words.action = action.text

/-- The FEEDBACK datagram that answers the command. -/
def BoltCommand.feedback {s : ListeningDoor} (c : BoltCommand s) : CStr :=
  (snprintf 256 (feedbackLine c.words.mod c.words.cmdid c.words.target c.action.text)).str

/-- The door after the operation, which is when the FEEDBACK is sent. -/
def BoltCommand.after {s : ListeningDoor} (c : BoltCommand s) (env : CallEnv) : DoorModule :=
  (doorCmdDatagram c.data env s.module).1

/-- Only the operation of the command changes the door. -/
theorem after_eq {s : ListeningDoor} (c : BoltCommand s) (env : CallEnv) :
    c.after env = (handlerOp c.action.text env s.module).1.state := by
  unfold BoltCommand.after
  rw [doorCmdDatagram_heard c.isCommand c.forDoor, c.isAction]

/-- The last thing the door sends is the FEEDBACK. -/
theorem feedback_sent {s : ListeningDoor} (c : BoltCommand s) (env : CallEnv) :
    (doorCmdDatagram c.data env s.module).2.getLast?
      = some (.send ⟨s.module.udp.gDestNotif, c.feedback⟩) := by
  -- the handler echoes LOCK and UNLOCK, whatever became of the operation
  have h_word : (handlerOp c.action.text env s.module).2 = c.action.text := by
    cases c.action with
    | lock => rfl
    | unlock => rfl
  rw [doorCmdDatagram_heard c.isCommand c.forDoor, List.getLast?_concat]
  unfold handlerFeedback BoltCommand.feedback
  rw [c.isAction, h_word]

theorem after_position_iff {s : ListeningDoor} (c : BoltCommand s) (env : CallEnv) :
    (c.after env).motor.getPosition = c.action.position ↔ c.action.Completes env s.module := by
  rw [after_eq]
  cases c.action with
  | lock => exact lockDoor_reaches_iff env _ s.module
  | unlock => exact unlockDoor_reaches_iff env _ s.module

/-! ### Acknowledgements -/

/-- `hub_udp_send_command` for the command returns true because of the FEEDBACK: at some time in
some run of the hub the datagram is handled, and the next look of the call ends it with true. -/
def HubAcks (c : CmdWords) (feedback : CStr) : Prop :=
  ∃ url past l attempt src t tReg, findDoor c.mod (reached url past).gDoors = some l.door ∧
    l.cmdid = c.cmdid ∧ (feedbackOf (lineTokens (datagramLine feedback))).isSome ∧
    (stepSend ⟨c.mod, c.target, c.action⟩
      (step (reached url past) (.datagram feedback src t tReg), .locking l attempt) .lock).2
      = .returned true

/-- The callback of the web request that sent the command gets `success: true` because of the
FEEDBACK, as the hub relays it. -/
def NodeAcks (a : BoltAction) (c : CmdWords) (feedback : CStr) : Prop :=
  ∃ n : Bridge NodeRequest, ∃ k : ℕ, ∃ f, n.pending k = some ⟨a.request, c.mod⟩ ∧
    c.cmdid = (k : ℤ) ∧ c.target = "D0".toList ∧
    feedbackOf (lineTokens (datagramLine feedback)) = some f ∧
    .success a.text c.mod ∈ emitted (n.feedbackMessage
      (snprintf 256 (feedbackLine f.mod f.cmdid f.target f.action)).str).2

/-- **Truth of the acknowledgements** of one command: the bolt was where the command wants it when
the acknowledged FEEDBACK was sent, which is the last thing the door sends for the command. -/
def AckTruthful {s : ListeningDoor} (c : BoltCommand s) (env : CallEnv) : Prop :=
  ∀ out, (doorCmdDatagram c.data env s.module).2.getLast? = some (.send out) →
    HubAcks c.words out.line ∨ NodeAcks c.action c.words out.line →
      (c.after env).motor.getPosition = c.action.position

/-- The FEEDBACK of a command with a short target arrives as it was sent. -/
theorem feedbackOf_feedback {s : ListeningDoor} (c : BoltCommand s)
    (h_target : c.words.target.length ≤ 31) :
    feedbackOf (lineTokens (datagramLine c.feedback)) = some c.words := by
  obtain ⟨h_mod, h_text, -, h_id⟩ := isText_of_cmdWords c.isCommand
  have h_fits := s.module.udp.gModuleId.fits
  rw [← c.forDoor] at h_fits
  have h_action : IsText c.action.text ∧ c.action.text.length ≤ 6 := by
    cases c.action with
    | lock => decide
    | unlock => decide
  unfold BoltCommand.feedback
  rw [feedbackOf_feedbackLine h_mod h_id h_text h_action.1 (by omega), ← c.isAction]

/-- Right after a line of a module that was unknown, the module is found. -/
theorem findDoor_reached_single (url : CharBuf 512) {m type : CStr} {args : List CStr} {e : HubEv}
    (h_words : e.words = m :: type :: args) (h_m : m.length < HUB_MODULE_ID_LEN) :
    ∃ d, findDoor m (reached url [e]).gDoors = some d := by
  obtain ⟨d, h_d⟩ := Option.ne_none_iff_exists'.mp (hasSlot_initial url m)
  refine ⟨d, ?_⟩
  show findDoor m (step (HubState.initial url) e).gDoors = some d
  rw [findDoor_congr (step_tag_of_words (HubState.initial url) h_words)]
  exact findDoor_findOrCreateDoor h_m h_d

/-- The hub acknowledges on a FEEDBACK with a short target. -/
theorem hubAcks_of_short {s : ListeningDoor} (c : BoltCommand s)
    (h_target : c.words.target.length ≤ 31) : HubAcks c.words c.feedback := by
  have h_f := feedbackOf_feedback c h_target
  -- one FEEDBACK makes the module known, and the call waits on its slot for the next one
  let e : HubEv := .datagram c.feedback SockAddr.zero 0 0
  have h_e : feedbackOf e.words = some c.words := h_f
  obtain ⟨cmdidS, rest, h_words, -⟩ := cmdWords_eq_some h_e
  have h_fits := s.module.udp.gModuleId.fits
  rw [← c.forDoor] at h_fits
  obtain ⟨d, h_d⟩ := findDoor_reached_single (CharBuf.zero _) h_words h_fits
  refine ⟨CharBuf.zero _, [e], ⟨d, SockAddr.zero, c.words.cmdid⟩, 0, SockAddr.zero, 0, 0, h_d, rfl,
    by rw [h_f]; rfl, ?_⟩
  refine stepSend_lock_iff.mpr ?_
  show Passes _ _ ((step (reached (CharBuf.zero _) [e]) e).gDoors d).feedback
  rw [step_feedback_of_findDoor h_e h_d]
  have h_action : c.words.action.length ≤ 31 := by
    rw [c.isAction]
    cases c.action with
    | lock => decide
    | unlock => decide
  exact ⟨le_rfl, List.take_of_length_le h_target, List.take_of_length_le h_action⟩

/-- Nobody acknowledges a command whose target is too long. -/
theorem not_acks_of_long {s : ListeningDoor} (c : BoltCommand s)
    (h_target : 31 < c.words.target.length) :
    ¬ (HubAcks c.words c.feedback ∨ NodeAcks c.action c.words c.feedback) := by
  rintro (⟨url, past, l, attempt, src, t, tReg, -, -, -, h_true⟩ | ⟨n, k, f, -, -, h_d0, -, -⟩)
  · -- the recorded target is in a buffer of 32 bytes, so it differs from the one of the call
    obtain ⟨-, h_eq, -⟩ := stepSend_lock_iff.mp h_true
    have h_fits := ((step (reached url past) (.datagram c.feedback src t tReg)).gDoors
      l.door).lastFeedbackTarget.fits
    change ((step _ _).gDoors l.door).lastFeedbackTarget.str = c.words.target at h_eq
    rw [h_eq] at h_fits
    omega
  · -- the bridge only asks for `D0`
    rw [h_d0] at h_target
    exact absurd h_target (by decide)

/-- **When a positive acknowledgement is true.** For every door state, every command to lock or
unlock and every answer of the hardware, the acknowledgements of the command are true of the bolt
if and only if the operation completes, or the target is longer than 31 characters, when there is
no acknowledgement. -/
theorem ackTruthful_iff (s : ListeningDoor) (c : BoltCommand s) (env : CallEnv) :
    AckTruthful c env ↔
      (c.words.target.length ≤ 31 → c.action.Completes env s.module) := by
  unfold AckTruthful
  rw [after_position_iff]
  constructor
  · intro h_truth h_short
    exact h_truth _ (feedback_sent c env) (Or.inl (hubAcks_of_short c h_short))
  · intro h_completes out h_out h_acks
    have h_line : out.line = c.feedback := by
      rw [feedback_sent] at h_out
      rw [← DoorEffect.send.inj (Option.some.inj h_out)]
    rw [h_line] at h_acks
    rcases Nat.lt_or_ge 31 c.words.target.length with h_long | h_short
    · exact absurd h_acks (not_acks_of_long c h_long)
    · exact h_completes h_short

/-! ### Two doors, one of them open -/

/-- The module `D1`, just started. -/
def startedD1 : ListeningDoor := .started "D1".toList

/-- A first command to lock it. -/
def lockD1 : BoltCommand startedD1 where
  data := "D1 COMMAND 1 D0 LOCK\n".toList
  action := .lock
  words := ⟨"D1".toList, 1, "D0".toList, "LOCK".toList⟩
  isCommand := by decide +kernel
  forDoor := by decide +kernel
  isAction := rfl

/-- With the door closed and no failing write the acknowledgement is true. -/
theorem ackTruthful_lockable : AckTruthful lockD1 (closedEnv goodGpio) :=
  (ackTruthful_iff startedD1 lockD1 (closedEnv goodGpio)).mpr
    (fun _ => Or.inr ⟨by unfold MeasuredClosed; decide, fun _ _ _ => rfl⟩)

/-- Every measurement finds the door open, at 50 cm. -/
def openDoorEnv : CallEnv where
  samples := [⟨50, Or.inr (by norm_num)⟩]
  distance := ⟨50, Or.inr (by norm_num)⟩
  report := ⟨50, Or.inr (by norm_num)⟩
  gpio := fun _ _ => true
  now := 0

/-- The door is open and the bolt stays at 0; the hub's call and the web request both succeed. -/
theorem not_ackTruthful :
    ¬ (HubAcks lockD1.words lockD1.feedback → (lockD1.after openDoorEnv).motor.getPosition = 180) ∧
      ¬ (NodeAcks .lock lockD1.words lockD1.feedback →
        (lockD1.after openDoorEnv).motor.getPosition = 180) ∧
      ¬ AckTruthful lockD1 openDoorEnv := by
  have h_position : (lockD1.after openDoorEnv).motor.getPosition ≠ 180 := by decide +kernel
  have h_hub : HubAcks lockD1.words lockD1.feedback := hubAcks_of_short lockD1 (by decide)
  have h_node : NodeAcks .lock lockD1.words lockD1.feedback := by
    -- the first request of the bridge waits under its number 1
    let request : NodeRequest := ⟨.lockDoor, "D1".toList⟩
    refine ⟨((requestDoor request .initial).1.sendDone 1 none).1, 1, lockD1.words,
      by decide +kernel, rfl, rfl, by decide +kernel, ?_⟩
    decide +kernel
  exact ⟨fun h => h_position (h h_hub), fun h => h_position (h h_node),
    fun h => h_position (h _ (feedback_sent lockD1 openDoorEnv) (Or.inl h_hub))⟩

end System

end DoorSystem
