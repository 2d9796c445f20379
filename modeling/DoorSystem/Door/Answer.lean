import DoorSystem.Door.Handler

/-!
# One answer for each command

The listener thread reads a datagram, the handler runs an operation, and one FEEDBACK line goes
back. Nothing else is answered. The reply repeats the words of the command, but it is longer than
the command and its buffer is not: `FEEDBACK` has a letter more than `COMMAND`, and `STATUS` comes
back as `STATUS_<state>`.

`answeredOnce_iff`: a datagram is treated as it should be exactly when the reply to it keeps all its
words and the number of the command is a numeral that `atoi` can return. The listener does not look
at the word: it takes 0 for one that is no number.
-/

namespace DoorSystem

open CLib

namespace Door

/-! ### FEEDBACK lines among the effects -/

/-- The hub reads the line as FEEDBACK. -/
def IsFeedbackLine (line : CStr) : Prop :=
  (lineTokens (datagramLine line))[1]? = some "FEEDBACK".toList

instance (line : CStr) : Decidable (IsFeedbackLine line) :=
  inferInstanceAs (Decidable (_ = _))

/-- The FEEDBACK line of an effect. -/
def DoorEffect.feedbackLine? : DoorEffect → Option CStr
  | .send o => if IsFeedbackLine o.line then some o.line else none
  | _ => none

/-- The FEEDBACK lines that are sent. -/
def feedbackLines (effects : List DoorEffect) : List CStr :=
  effects.filterMap DoorEffect.feedbackLine?

theorem feedbackLines_append (xs ys : List DoorEffect) :
    feedbackLines (xs ++ ys) = feedbackLines xs ++ feedbackLines ys := List.filterMap_append

@[simp] theorem feedbackLines_nil : feedbackLines [] = [] := rfl

theorem feedbackLines_eq_nil {effects : List DoorEffect}
    (h : ∀ o, .send o ∈ effects → ¬ IsFeedbackLine o.line) : feedbackLines effects = [] := by
  unfold feedbackLines
  rw [List.filterMap_eq_nil_iff]
  intro e h_e
  cases e with
  | step position => rfl
  | update reading report => rfl
  | send o => exact if_neg (h o h_e)

/-- A report of the door is no FEEDBACK. -/
theorem DoorMsg.not_isFeedbackLine {module : CStr} (h_text : IsText module)
    (h_fits : module.length < 16) (msg : DoorMsg) : ¬ IsFeedbackLine (msg.line module) := by
  unfold IsFeedbackLine
  rw [DoorMsg.lineTokens_line h_text h_fits]
  cases msg <;> simp [DoorMsg.words]

/-- What the report at the end of an operation sends is no FEEDBACK. -/
theorem feedbackLines_reported {env : CallEnv} {r : OpResult}
    (h_open : r.state.udp.gSockOpen = true) (h_text : IsText r.state.udp.gModuleId.str) :
    feedbackLines (r.reported env).effects = feedbackLines r.effects := by
  unfold OpResult.reported reportDoorStateUdp updateFrom
  dsimp only
  rw [feedbackLines_append]
  split_ifs with h_error
  · rw [feedbackLines_nil, List.append_nil]
  · -- an update sends reports only
    have h_update := (doorUdpUpdate_eq h_open (reportOf env.report r.state) env.now).1
    rw [h_update]
    refine (congrArg _ (feedbackLines_eq_nil ?_)).trans (List.append_nil _)
    intro o h_o
    obtain h_o | h_o := List.mem_cons.mp h_o
    · exact absurd h_o (by simp)
    · rw [List.mem_map] at h_o
      obtain ⟨o', h_mem, h_eq⟩ := h_o
      obtain rfl := DoorEffect.send.inj h_eq
      obtain ⟨msg, -, rfl⟩ := List.mem_map.mp h_mem
      have h_line : (msg.out r.state.udp).line = msg.line r.state.udp.gModuleId.str := by
        cases msg <;> rfl
      rw [h_line]
      exact DoorMsg.not_isFeedbackLine h_text r.state.udp.gModuleId.fits msg

theorem feedbackLines_steps (positions : List ℕ) :
    feedbackLines (positions.map .step) = [] := by
  refine feedbackLines_eq_nil (fun o h_o => ?_)
  obtain ⟨p, -, h_eq⟩ := List.mem_map.mp h_o
  exact absurd h_eq (by simp)

/-- An operation only turns the motor before its report. -/
theorem feedbackLines_act (env : CallEnv) (door : DoorT) (s : DoorModule) :
    feedbackLines (lockDoorAct env door s).effects = [] ∧
      feedbackLines (unlockDoorAct env door s).effects = [] ∧
      feedbackLines (getDoorStatusAct env door s).effects = [] := by
  refine ⟨?_, ?_, ?_⟩
  · -- only a rotation has effects, and these are steps of the motor
    unfold lockDoorAct
    dsimp only
    split_ifs
    · rfl
    · rfl
    · rfl
    · exact feedbackLines_steps _
  · unfold unlockDoorAct
    dsimp only
    split_ifs
    · rfl
    · exact feedbackLines_steps _
    all_goals rfl
  · unfold getDoorStatusAct
    dsimp only
    split_ifs <;> rfl

/-- The operation of a command sends no FEEDBACK by itself. -/
theorem feedbackLines_handlerOp {s : DoorModule} (h_open : s.udp.gSockOpen = true)
    (h_text : IsText s.udp.gModuleId.str) (action : CStr) (env : CallEnv) :
    feedbackLines (handlerOp action env s).1.effects = [] := by
  obtain ⟨h_lock, h_unlock, h_status⟩ := feedbackLines_act env ⟨.UNKNOWN, 0⟩ s
  obtain ⟨h_lock_udp, h_unlock_udp, h_status_udp⟩ := opAct_udp env ⟨.UNKNOWN, 0⟩ s
  unfold handlerOp
  dsimp only
  split_ifs
  · -- the report after the operation is an event or a heartbeat
    show feedbackLines ((lockDoorAct _ _ _).reported env).effects = []
    rw [feedbackLines_reported (by rw [h_lock_udp]; exact h_open)
      (by rw [h_lock_udp]; exact h_text)]
    exact h_lock
  · show feedbackLines ((unlockDoorAct _ _ _).reported env).effects = []
    rw [feedbackLines_reported (by rw [h_unlock_udp]; exact h_open)
      (by rw [h_unlock_udp]; exact h_text)]
    exact h_unlock
  · show feedbackLines ((getDoorStatusAct _ _ _).reported env).effects = []
    rw [feedbackLines_reported (by rw [h_status_udp]; exact h_open)
      (by rw [h_status_udp]; exact h_text)]
    exact h_status
  · rfl

/-! ### The word of the answer -/

/-- The state that `get_door_status` finds for the handler, whose object says UNKNOWN. -/
def statusFound (env : CallEnv) (s : DoorModule) : DoorState :=
  if s.motor.getPosition = STEPPER_LOCKED_POSITION then .LOCKED
  else if env.distance.cm = -1 then .UNKNOWN
  else if DOOR_CLOSED_THRESHOLD_CM ≤ env.distance.cm then .OPEN
  else .UNLOCKED

/-- The outcome that a command is answered with: its own action, or the state of the door. -/
def outcomeWord (action : CStr) (env : CallEnv) (s : DoorModule) : CStr :=
  if action = "STATUS".toList then "STATUS_".toList ++ stateText (statusFound env s) else action

theorem getDoorStatus_state (env : CallEnv) (s : DoorModule) :
    (getDoorStatus env ⟨.UNKNOWN, 0⟩ s).door.state = statusFound env s := by
  unfold getDoorStatus
  show (getDoorStatusAct env ⟨.UNKNOWN, 0⟩ s).door.state = _
  unfold getDoorStatusAct statusFound
  dsimp only
  by_cases h_there : s.motor.getPosition = STEPPER_LOCKED_POSITION
  · rw [if_pos h_there, if_pos h_there]
  · rw [if_neg h_there, if_neg h_there]
    by_cases h_error : env.distance.cm = -1
    · -- the object of the handler says UNKNOWN
      rw [if_pos h_error, if_neg (fun h => h.2 h_error), if_pos h_error]
    · rw [if_neg h_error, if_neg h_error]
      by_cases h_open : DOOR_CLOSED_THRESHOLD_CM ≤ env.distance.cm
      · rw [if_pos h_open, if_neg (fun h => absurd h_open (not_le.mpr h.1)), if_pos h_open]
      · rw [if_pos ⟨not_le.mp h_open, h_error⟩, if_neg h_open]

theorem handlerOp_outcome (action : CStr) (env : CallEnv) (s : DoorModule) :
    (handlerOp action env s).2 = outcomeWord action env s := by
  unfold handlerOp outcomeWord
  dsimp only
  -- LOCK, UNLOCK and STATUS are three words
  split_ifs with h_lock h_unlock h_lock_status h_status
  · exact absurd (h_lock.symm.trans h_unlock) (by decide)
  · rfl
  · exact absurd (h_lock_status.symm.trans h_status) (by decide)
  · rfl
  · -- every `STATUS_<state>` fits into the handler's buffer
    rw [getDoorStatus_state]
    cases statusFound env s <;> rfl
  · rfl

/-! ### The property and its condition -/

/-- The id of the module. -/
def ListeningDoor.id (s : ListeningDoor) : CStr := s.module.udp.gModuleId.str

/-- The word is a number of the range of `int`. -/
def IsCmdId (idS : CStr) : Prop := IsNumeral idS ∧ InInt (strtol10 idS)

instance (idS : CStr) : Decidable (IsCmdId idS) := inferInstanceAs (Decidable (_ ∧ _))

/-- The tokens of the datagram are the module's id, COMMAND, a number of the range of `int`, a
target and an action. -/
def IsCommandFor (m : CStr) (data : List Char) (idS target action : CStr) : Prop :=
  ∃ rest, lineTokens (datagramLine data)
      = m :: "COMMAND".toList :: idS :: target :: action :: rest ∧ IsCmdId idS

/-- A command for the module gets one FEEDBACK, in which the hub reads the command's own words, its
number in decimal, and the outcome; any other datagram is ignored. -/
structure AnsweredOnce (s : ListeningDoor) (data : List Char) (env : CallEnv) : Prop where
  answered : ∀ idS target action, IsCommandFor s.id data idS target action →
    ∃ line, feedbackLines (doorCmdDatagram data env s.module).2 = [line] ∧
      lineTokens (datagramLine line) = [s.id, "FEEDBACK".toList, fmtInt (strtol10 idS), target,
        outcomeWord action env s.module]
  silent : (∀ idS target action, ¬ IsCommandFor s.id data idS target action) →
    doorCmdDatagram data env s.module = (s.module, [])

/-- If the datagram is a complete COMMAND line for the module, its number is a numeral of the range
of `int`, and the buffer of the reply has room for everything but the newline. -/
def AnswerFits (s : ListeningDoor) (data : List Char) (env : CallEnv) : Prop :=
  ∀ idS target action rest, lineTokens (datagramLine data)
      = s.id :: "COMMAND".toList :: idS :: target :: action :: rest →
    IsCmdId idS ∧
      (feedbackLine s.id (strtol10 idS) target (outcomeWord action env s.module)).length ≤ 256

/-! ### What the door does with a datagram -/

/-- A datagram that is no complete COMMAND for the module is ignored. -/
theorem doorCmdDatagram_other {s : ListeningDoor} {data : List Char}
    (h_other : ∀ idS target action rest, lineTokens (datagramLine data)
      ≠ s.id :: "COMMAND".toList :: idS :: target :: action :: rest) (env : CallEnv) :
    doorCmdDatagram data env s.module = (s.module, []) := by
  unfold doorCmdDatagram
  split
    -- a complete COMMAND, so it is for another module
  · next c h_c =>
    refine if_neg ?_
    intro h_mod
    obtain ⟨idS, rest, h_words, -⟩ := cmdWords_eq_some h_c
    rw [h_mod] at h_words
    exact h_other idS _ _ rest h_words
  · rfl

/-- The start of a FEEDBACK line is received, whatever is cut off behind it. -/
theorem feedbackLine_start {mod target action : CStr} {cmdid : ℤ} (h_mod : IsText mod)
    (h_fits : mod.length ≤ 15) (h_id : InInt cmdid) (h_target : IsText target)
    (h_action : IsText action) :
    ∃ rest, lineTokens (datagramLine (snprintf 256 (feedbackLine mod cmdid target action)).str)
      = mod :: "FEEDBACK".toList :: fmtInt cmdid :: rest := by
  have h_len : (cmdHead mod "FEEDBACK".toList cmdid).length
      = mod.length + 8 + (fmtInt cmdid).length + 2 := length_cmdHead _ _ _
  -- the number ends before the buffer does
  have h_num := length_fmtInt_le h_id
  rw [feedbackLine_eq,
    lineTokens_sent_head (n := 254 - (cmdHead mod "FEEDBACK".toList cmdid).length) h_mod (by decide)
      ?_ (by omega)]
  · exact ⟨_, rfl⟩
  · rw [List.mem_append, List.mem_cons, List.mem_append, List.mem_singleton]
    rintro (h_mem | h_mem | h_mem | h_mem)
    · exact h_target.2 h_mem
    · exact absurd h_mem (by decide)
    · exact h_action.2 h_mem
    · exact absurd h_mem (by decide)

/-- **The answer.** A complete COMMAND for the module is answered by the one FEEDBACK line that
repeats its words. -/
theorem feedbackLines_command {s : ListeningDoor} {data : List Char} {idS target action : CStr}
    {rest : List CStr} (h_words : lineTokens (datagramLine data)
      = s.id :: "COMMAND".toList :: idS :: target :: action :: rest) (env : CallEnv) :
    feedbackLines (doorCmdDatagram data env s.module).2
      = [(snprintf 256 (feedbackLine s.id (atoi idS) target
          (outcomeWord action env s.module))).str] := by
  have h_c : commandOf (lineTokens (datagramLine data))
      = some ⟨s.id, atoi idS, target, action⟩ := by
    rw [h_words]
    exact cmdWords_self _ _ _ _ _ _
  obtain ⟨h_mod, h_target, h_action, h_id⟩ := isText_of_cmdWords h_c
  rw [doorCmdDatagram_heard h_c rfl env]
  show feedbackLines (_ ++ [_]) = _
  rw [feedbackLines_append, feedbackLines_handlerOp s.sockOpen h_mod]
  unfold handlerFeedback
  rw [handlerOp_outcome]
  -- the reply itself is FEEDBACK
  have h_outcome := (isText_handlerOp h_action env s.module).1
  rw [handlerOp_outcome] at h_outcome
  have h_fits := s.module.udp.gModuleId.fits
  obtain ⟨rest', h_start⟩ := feedbackLine_start h_mod (Nat.le_of_lt_succ h_fits) h_id h_target
    h_outcome
  have h_reply : IsFeedbackLine (snprintf 256 (feedbackLine s.id (atoi idS) target
      (outcomeWord action env s.module))).str := by
    unfold IsFeedbackLine
    rw [h_start]
    rfl
  rw [List.nil_append]
  exact List.filterMap_cons_some (if_pos h_reply)

/-- **The words of the answer.** The hub reads the words of the command and the outcome exactly
when the reply is not cut before its newline. -/
theorem answer_words_iff {s : ListeningDoor} {data : List Char} {idS target action : CStr}
    {rest : List CStr} (h_words : lineTokens (datagramLine data)
      = s.id :: "COMMAND".toList :: idS :: target :: action :: rest)
    (h_id : InInt (strtol10 idS)) (env : CallEnv) :
    (∃ line, feedbackLines (doorCmdDatagram data env s.module).2 = [line] ∧
      lineTokens (datagramLine line) = [s.id, "FEEDBACK".toList, fmtInt (strtol10 idS), target,
        outcomeWord action env s.module]) ↔
      (feedbackLine s.id (strtol10 idS) target (outcomeWord action env s.module)).length ≤ 256 := by
  have h_all : ∀ w ∈ lineTokens (datagramLine data), IsText w := fun w h_w => isText_of_mem h_w
  rw [h_words] at h_all
  have h_mod : IsText s.id := h_all _ (by simp)
  have h_target : IsText target := h_all _ (by simp)
  have h_outcome := (isText_handlerOp (h_all action (by simp)) env s.module).1
  rw [handlerOp_outcome] at h_outcome
  have h_atoi : atoi idS = strtol10 idS := toInt32_of_inInt h_id
  have h_line := feedbackLines_command h_words env
  rw [h_atoi] at h_line
  -- the reply is received whole when everything but its newline fits
  have h_type : IsText "FEEDBACK".toList := by decide
  have h_limit := lineTokens_sent_iff
    (isText_cmdLine h_mod h_type (strtol10 idS) h_target h_outcome)
  have h_len : (feedbackLine s.id (strtol10 idS) target (outcomeWord action env s.module)).length
      ≤ 256 ↔ (spaced [s.id, "FEEDBACK".toList, fmtInt (strtol10 idS), target,
        outcomeWord action env s.module]).length ≤ 255 := by
    unfold feedbackLine
    rw [List.length_append, List.length_singleton, Nat.add_le_add_iff_right]
  rw [h_len, ← h_limit]
  constructor
  · rintro ⟨line, h_one, h_read⟩
    obtain rfl := List.singleton_inj.mp (h_line.symm.trans h_one)
    exact h_read
  · intro h_read
    exact ⟨_, h_line, h_read⟩

/-- A command whose number is none, or out of range, should be ignored, but is answered. -/
theorem not_answeredOnce_of_cmdId {s : ListeningDoor} {data : List Char} {idS target action : CStr}
    {rest : List CStr} (h_words : lineTokens (datagramLine data)
      = s.id :: "COMMAND".toList :: idS :: target :: action :: rest) (h_id : ¬ IsCmdId idS)
    (env : CallEnv) : ¬ AnsweredOnce s data env := by
  intro h_once
  have h_silent := h_once.silent (by
    rintro idS' target' action' ⟨rest', h_words', h_id'⟩
    rw [h_words] at h_words'
    simp only [List.cons.injEq, true_and] at h_words'
    rw [← h_words'.1] at h_id'
    exact h_id h_id')
  have h_line := feedbackLines_command h_words env
  rw [h_silent] at h_line
  exact absurd h_line (by simp)

/-- **When a datagram is treated as it should be.** A listening door answers a command for it once
and with the command's words, and ignores everything else, if and only if a complete COMMAND line
for it has a number of the range of `int` and a reply that is not cut. -/
theorem answeredOnce_iff (s : ListeningDoor) (data : List Char) (env : CallEnv) :
    AnsweredOnce s data env ↔ AnswerFits s data env := by
  by_cases h_cmd : ∃ idS target action rest, lineTokens (datagramLine data)
      = s.id :: "COMMAND".toList :: idS :: target :: action :: rest
  · obtain ⟨idS, target, action, rest, h_words⟩ := h_cmd
    -- the words of the datagram are these and no others
    have h_unique : ∀ idS' target' action' rest', lineTokens (datagramLine data)
        = s.id :: "COMMAND".toList :: idS' :: target' :: action' :: rest' →
        idS' = idS ∧ target' = target ∧ action' = action := by
      intro idS' target' action' rest' h_words'
      rw [h_words] at h_words'
      simp only [List.cons.injEq, true_and] at h_words'
      exact ⟨h_words'.1.symm, h_words'.2.1.symm, h_words'.2.2.1.symm⟩
    constructor
    · intro h_once idS' target' action' rest' h_words'
      obtain ⟨rfl, rfl, rfl⟩ := h_unique idS' target' action' rest' h_words'
      by_cases h_id : IsCmdId idS'
      · have h_answer := h_once.answered _ _ _ ⟨rest, h_words, h_id⟩
        exact ⟨h_id, (answer_words_iff h_words h_id.2 env).mp h_answer⟩
      · -- no number, or one that `atoi` cannot return: the door answers all the same
        exact absurd h_once (not_answeredOnce_of_cmdId h_words h_id env)
    · intro h_fits
      obtain ⟨h_id, h_len⟩ := h_fits idS target action rest h_words
      constructor
      · rintro idS' target' action' ⟨rest', h_words', -⟩
        obtain ⟨rfl, rfl, rfl⟩ := h_unique idS' target' action' rest' h_words'
        exact (answer_words_iff h_words h_id.2 env).mpr h_len
      · intro h_none
        exact absurd ⟨rest, h_words, h_id⟩ (h_none idS target action)
  · -- no command for the module
    push Not at h_cmd
    have h_none := doorCmdDatagram_other h_cmd env
    refine iff_of_true ⟨?_, fun _ => h_none⟩ ?_
    · rintro idS target action ⟨rest, h_words, -⟩
      exact absurd h_words (h_cmd idS target action rest)
    · intro idS target action rest h_words
      exact absurd h_words (h_cmd idS target action rest)

/-- An action that fills the datagram comes back without its last letter and its newline; the
number 4294967297 is answered as some other one, and the word `x` as 0. -/
theorem not_answeredOnce :
    ¬ AnsweredOnce (.started "D1".toList) ("D1 COMMAND 1 D0 ".toList ++ List.replicate 239 'A')
        deadEnv ∧
      ¬ AnsweredOnce (.started "D1".toList) "D1 COMMAND 4294967297 D0 LOCK\n".toList deadEnv ∧
      ¬ AnsweredOnce (.started "D1".toList) "D1 COMMAND x D0 LOCK\n".toList deadEnv := by
  refine ⟨?_, ?_, ?_⟩
  · intro h_once
    have h_words : lineTokens (datagramLine ("D1 COMMAND 1 D0 ".toList ++ List.replicate 239 'A'))
        = (ListeningDoor.started "D1".toList).id :: "COMMAND".toList :: ['1'] :: "D0".toList ::
          List.replicate 239 'A' :: [] := by decide +kernel
    -- the number is in range, so the reply would have to fit
    have h_id : IsCmdId ['1'] := by decide +kernel
    have h_answer := h_once.answered _ _ _ ⟨[], h_words, h_id⟩
    have h_len := (answer_words_iff h_words h_id.2 deadEnv).mp h_answer
    exact absurd h_len (by decide +kernel)
  · have h_words : lineTokens (datagramLine "D1 COMMAND 4294967297 D0 LOCK\n".toList)
        = (ListeningDoor.started "D1".toList).id :: "COMMAND".toList :: "4294967297".toList ::
          "D0".toList :: "LOCK".toList :: [] := by decide +kernel
    exact not_answeredOnce_of_cmdId h_words (by decide +kernel) deadEnv
  · have h_words : lineTokens (datagramLine "D1 COMMAND x D0 LOCK\n".toList)
        = (ListeningDoor.started "D1".toList).id :: "COMMAND".toList :: ['x'] ::
          "D0".toList :: "LOCK".toList :: [] := by decide +kernel
    exact not_answeredOnce_of_cmdId h_words (by decide +kernel) deadEnv

end Door

end DoorSystem
