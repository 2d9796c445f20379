import DoorSystem.Door.DoorMod

/-!
# Commands at the door

`door_udp_handler.c` and the listener thread of `door_udp.c`: a COMMAND datagram for the module runs
an operation and is answered by one FEEDBACK line, whatever the operation did.
`lockDoor_reaches_iff` and `unlockDoor_reaches_iff` say when the bolt is where the command wants it
by then.
-/

namespace DoorSystem

open CLib

namespace Door

/-! ### The handler -/

/-- The word of a door state. -/
def stateText : DoorState → CStr
  | .LOCKED => "LOCKED".toList
  | .UNLOCKED => "UNLOCKED".toList
  | .OPEN => "OPEN".toList
  | .UNKNOWN => "UNKNOWN".toList

/-- The operation that `app_command_handler` runs for an action, and `out_action`. -/
def handlerOp (action : CStr) (env : CallEnv) (s : DoorModule) : OpResult × CStr :=
  let d : DoorT := ⟨.UNKNOWN, 0⟩
  if action = "LOCK".toList then (lockDoor env d s, action)
  else if action = "UNLOCK".toList then (unlockDoor env d s, action)
  else if action = "STATUS".toList then
    let r := getDoorStatus env d s
    (r, (snprintf 32 ("STATUS_".toList ++ stateText r.door.state)).str)
  else (⟨d, s, []⟩, action)

/-- `app_command_handler`. -/
def appCommandHandler (module : CStr) (cmdid : ℤ) (target action : CStr) (env : CallEnv)
    (s : DoorModule) : DoorModule × List DoorEffect :=
  let (r, outAction) := handlerOp action env s
  (r.state, r.effects ++ (doorUdpSendFeedback module cmdid target outAction r.state.udp).map .send)

/-- `door_cmd_thread` on one datagram. Without a handler it answers by itself. -/
def doorCmdDatagram (data : List Char) (env : CallEnv) (s : DoorModule) :
    DoorModule × List DoorEffect :=
  match commandOf (lineTokens (datagramLine data)) with
  | some c =>
    if c.mod = s.udp.gModuleId.str then
      if s.udp.gCmdHandler then appCommandHandler c.mod c.cmdid c.target c.action env s
      else
        (s, (sendLineNotif (snprintf 256 (feedbackLine s.udp.gModuleId.str c.cmdid c.target
          c.action)).str s.udp).map .send)
    else (s, [])
  | none => (s, [])

/-! ### Where the bolt is when the answer is sent -/

/-- `lockDoor` brings the bolt to 180: it is there already, or a closed door is measured and every
write of the rotation succeeds. -/
def LockCompletes (env : CallEnv) (s : DoorModule) : Prop :=
  s.motor.getPosition = 180 ∨
    MeasuredClosed env ∧ WritesOk env.gpio (stepsNeeded 180 s.motor)

/-- `unlockDoor` brings the bolt to 0: it is there already, or it is taken for locked and every
write of the rotation succeeds. -/
def UnlockCompletes (env : CallEnv) (s : DoorModule) : Prop :=
  s.motor.getPosition = 0 ∨
    (s.lastKnownDoor.state = .LOCKED ∨ s.motor.getPosition = 180) ∧
    WritesOk env.gpio (stepsNeeded 0 s.motor)

/-- **Lock.** -/
theorem lockDoor_reaches_iff (env : CallEnv) (door : DoorT) (s : DoorModule) :
    (lockDoor env door s).state.motor.getPosition = 180 ↔ LockCompletes env s := by
  unfold lockDoor LockCompletes
  rw [reported_motor]
  unfold lockDoorAct
  dsimp only
  split_ifs with h_there h_open h_error
  · exact iff_of_true h_there (Or.inl h_there)
  · -- the door is open
    refine iff_of_false h_there ?_
    rintro (h | ⟨⟨-, h_closed⟩, -⟩)
    · exact h_there h
    · exact absurd h_open (not_le.mpr h_closed)
  · -- the sensor failed
    refine iff_of_false h_there ?_
    rintro (h | ⟨⟨h_valid, -⟩, -⟩)
    · exact h_there h
    · exact h_valid h_error
  · -- the door is closed, and the rotation decides
    show (s.motor.rotate 180 env.gpio).motor.getPosition = 180 ↔ _
    rw [rotate_locked_iff h_there]
    constructor
    · exact fun h => Or.inr ⟨⟨h_error, not_le.mp h_open⟩, h⟩
    · rintro (h | ⟨-, h⟩)
      · exact absurd h h_there
      · exact h

/-- **Unlock.** -/
theorem unlockDoor_reaches_iff (env : CallEnv) (door : DoorT) (s : DoorModule) :
    (unlockDoor env door s).state.motor.getPosition = 0 ↔ UnlockCompletes env s := by
  unfold unlockDoor UnlockCompletes
  rw [reported_motor]
  unfold unlockDoorAct
  dsimp only
  split_ifs with h_there h_trust
  · exact iff_of_true h_there (Or.inl h_there)
  · -- the bolt is taken for locked, and the rotation decides
    rw [Bool.or_eq_true, decide_eq_true_eq, decide_eq_true_eq] at h_trust
    show (s.motor.rotate 0 env.gpio).motor.getPosition = 0 ↔ _
    rw [rotate_unlocked_iff h_there]
    constructor
    · exact fun h => Or.inr ⟨h_trust, h⟩
    · rintro (h | ⟨-, h⟩)
      · exact absurd h h_there
      · exact h
  -- in all other branches the bolt stays where it is
  all_goals
    rw [Bool.or_eq_true, decide_eq_true_eq, decide_eq_true_eq] at h_trust
    refine iff_of_false h_there ?_
    rintro (h | ⟨h, -⟩)
    · exact h_there h
    · exact h_trust h

/-! ### The answer -/

/-- Reporting leaves the identity and the socket of the transport alone. -/
theorem doorUdpUpdate_frame (r : Report) (t : ℤ) (u : DoorUdp) :
    (doorUdpUpdate r t u).1.gSockOpen = u.gSockOpen ∧
      (doorUdpUpdate r t u).1.gDestNotif = u.gDestNotif := by
  unfold doorUdpUpdate
  dsimp only
  split_ifs <;> exact ⟨rfl, rfl⟩

theorem reported_udp (env : CallEnv) (r : OpResult) :
    (r.reported env).state.udp.gSockOpen = r.state.udp.gSockOpen ∧
      (r.reported env).state.udp.gDestNotif = r.state.udp.gDestNotif := by
  unfold OpResult.reported reportDoorStateUdp updateFrom
  dsimp only
  split_ifs
  · exact ⟨rfl, rfl⟩
  · exact doorUdpUpdate_frame _ _ _

theorem opAct_udp (env : CallEnv) (door : DoorT) (s : DoorModule) :
    (lockDoorAct env door s).state.udp = s.udp ∧ (unlockDoorAct env door s).state.udp = s.udp ∧
      (getDoorStatusAct env door s).state.udp = s.udp := by
  refine ⟨?_, ?_, ?_⟩
  · unfold lockDoorAct
    dsimp only
    split_ifs <;> rfl
  · unfold unlockDoorAct
    dsimp only
    split_ifs <;> rfl
  · unfold getDoorStatusAct
    dsimp only
    split_ifs <;> rfl

/-- The socket stays as it is through the operation of a command. -/
theorem handlerOp_udp (action : CStr) (env : CallEnv) (s : DoorModule) :
    (handlerOp action env s).1.state.udp.gSockOpen = s.udp.gSockOpen ∧
      (handlerOp action env s).1.state.udp.gDestNotif = s.udp.gDestNotif := by
  obtain ⟨h_lock, h_unlock, h_status⟩ := opAct_udp env ⟨.UNKNOWN, 0⟩ s
  unfold handlerOp
  dsimp only
  split_ifs
  · rw [← h_lock]
    exact reported_udp env _
  · rw [← h_unlock]
    exact reported_udp env _
  · rw [← h_status]
    exact reported_udp env _
  · exact ⟨rfl, rfl⟩

/-- The last effect of a command on an open socket is its FEEDBACK line. -/
theorem appCommandHandler_eq {s : DoorModule} (h_open : s.udp.gSockOpen = true) (module : CStr)
    (cmdid : ℤ) (target action : CStr) (env : CallEnv) :
    appCommandHandler module cmdid target action env s =
      ((handlerOp action env s).1.state, (handlerOp action env s).1.effects ++
        [.send ⟨s.udp.gDestNotif, (snprintf 256 (feedbackLine module cmdid target
          (handlerOp action env s).2)).str⟩]) := by
  obtain ⟨h_sock, h_dest⟩ := handlerOp_udp action env s
  unfold appCommandHandler doorUdpSendFeedback sendLineNotif
  -- what the operation does to the motor does not matter here
  generalize handlerOp action env s = op at h_sock h_dest ⊢
  obtain ⟨r, outAction⟩ := op
  dsimp only at h_sock h_dest ⊢
  rw [h_sock, h_open, h_dest]
  rfl

/-- A door module that takes commands: its socket is open and `app_command_handler` is
registered. -/
structure ListeningDoor where
  module : DoorModule
  sockOpen : module.udp.gSockOpen = true
  handler : module.udp.gCmdHandler = true

/-- A door that has just been started with the id `m`. -/
def ListeningDoor.started (m : CStr) : ListeningDoor where
  module := DoorModule.initial zeroPattern
    { DoorUdp.initial with
      gSockOpen := true
      gCmdHandler := true
      gModuleId := snprintf 16 m }
  sockOpen := rfl
  handler := rfl

/-- The FEEDBACK datagram that answers a command with the words `c`. -/
def handlerFeedback (c : CmdWords) (env : CallEnv) (s : DoorModule) : CStr :=
  (snprintf 256 (feedbackLine c.mod c.cmdid c.target (handlerOp c.action env s).2)).str

/-- **The door** runs the operation of a command for it and then sends its FEEDBACK. -/
theorem doorCmdDatagram_heard {s : ListeningDoor} {data : List Char} {c : CmdWords}
    (h_c : commandOf (lineTokens (datagramLine data)) = some c)
    (h_mod : c.mod = s.module.udp.gModuleId.str) (env : CallEnv) :
    doorCmdDatagram data env s.module =
      ((handlerOp c.action env s.module).1.state, (handlerOp c.action env s.module).1.effects
        ++ [.send ⟨s.module.udp.gDestNotif, handlerFeedback c env s.module⟩]) := by
  unfold doorCmdDatagram
  rw [h_c]
  dsimp only
  rw [if_pos h_mod, if_pos s.handler, appCommandHandler_eq s.sockOpen]
  rfl

/-- `data` is the last datagram that a door with the id `m` sends when it gets the datagram
`line`. -/
def IsFeedbackTo (m line data : CStr) : Prop :=
  ∃ (s : ListeningDoor) (env : CallEnv) (port : ℕ), s.module.udp.gModuleId.str = m ∧
    (doorCmdDatagram line env s.module).2.getLast? = some (.send ⟨port, data⟩)

/-- Only commands for the door are answered, by its handler. -/
theorem IsFeedbackTo.words {m line data : CStr} (h : IsFeedbackTo m line data) :
    ∃ c env s, commandOf (lineTokens (datagramLine line)) = some c ∧ c.mod = m ∧ m.length < 16 ∧
      data = handlerFeedback c env s := by
  obtain ⟨s, env, port, h_id, h_last⟩ := h
  have h_fits := s.module.udp.gModuleId.fits
  rw [h_id] at h_fits
  cases h_c : commandOf (lineTokens (datagramLine line)) with
  | none =>
    -- no complete COMMAND line
    unfold doorCmdDatagram at h_last
    rw [h_c] at h_last
    exact absurd h_last (by simp)
  | some c =>
    by_cases h_mod : c.mod = s.module.udp.gModuleId.str
    · -- the handler answers, and its answer comes last
      rw [doorCmdDatagram_heard h_c h_mod, List.getLast?_concat, Option.some.injEq,
        DoorEffect.send.injEq, DoorOut.mk.injEq] at h_last
      exact ⟨c, env, s.module, rfl, h_mod.trans h_id, h_fits, h_last.2.symm⟩
    · -- a command for another module
      unfold doorCmdDatagram at h_last
      rw [h_c] at h_last
      dsimp only at h_last
      rw [if_neg h_mod] at h_last
      exact absurd h_last (by simp)

/-- A door whose measurements all fail, and whose motor does not move. -/
def deadEnv : CallEnv where
  samples := []
  distance := .error
  report := .error
  gpio := fun _ _ => false
  now := 0

/-- A command for a module is answered. -/
theorem exists_isFeedbackTo {line : CStr} {c : CmdWords}
    (h_c : commandOf (lineTokens (datagramLine line)) = some c) (h_fits : c.mod.length < 16) :
    ∃ data, IsFeedbackTo c.mod line data := by
  have h_id : (ListeningDoor.started c.mod).module.udp.gModuleId.str = c.mod :=
    snprintf_of_fits h_fits
  refine ⟨handlerFeedback c deadEnv (ListeningDoor.started c.mod).module, .started c.mod, deadEnv,
    (ListeningDoor.started c.mod).module.udp.gDestNotif, h_id, ?_⟩
  rw [doorCmdDatagram_heard h_c h_id.symm, List.getLast?_concat]

/-- The word of the answer to a command. -/
theorem isText_handlerOp {action : CStr} (h_action : IsText action) (env : CallEnv)
    (s : DoorModule) :
    IsText (handlerOp action env s).2 ∧
      (handlerOp action env s).2.length ≤ max action.length 15 := by
  unfold handlerOp
  dsimp only
  split_ifs
  · exact ⟨h_action, le_max_left _ _⟩
  · exact ⟨h_action, le_max_left _ _⟩
  · -- `STATUS_UNLOCKED` is the longest of the status words
    have h_status : ∀ d : DoorState,
        IsText (snprintf 32 ("STATUS_".toList ++ stateText d)).str ∧
          (snprintf 32 ("STATUS_".toList ++ stateText d)).str.length ≤ 15 := by
      intro d
      cases d <;> decide
    exact ⟨(h_status _).1, le_max_of_le_right (h_status _).2⟩
  · exact ⟨h_action, le_max_left _ _⟩

end Door

end DoorSystem
