import DoorSystem.Door.Handler
import DoorSystem.Hub.SendCommand

/-!
# Whether the answer reaches the call

`hub_udp_send_command` waits for the FEEDBACK of the door, but it only ever reads what the last
FEEDBACK of the module left in the door slot. An answer that comes in during the wait is therefore
seen when it passes the test of the call and so does everything that may overwrite it. A STATUS
command is answered with another action word and a long target is cut in the slot, so these answers
never pass. `ackDelivered_iff` collects these conditions.
-/

namespace DoorSystem

open CLib

namespace System

open Door Hub

/-! ### The answer of the door -/

/-- The actions that `app_command_handler` knows. -/
inductive KnownAction
  | lock
  | unlock
  | status
deriving DecidableEq

/-- The action word. -/
def KnownAction.text : KnownAction → CStr
  | .lock => "LOCK".toList
  | .unlock => "UNLOCK".toList
  | .status => "STATUS".toList

/-- A LOCK or UNLOCK is answered with the same word, a STATUS is not. -/
theorem handlerOp_word (a : KnownAction) (env : CallEnv) (s : DoorModule) :
    (handlerOp a.text env s).2.length ≤ 15 ∧
      ((handlerOp a.text env s).2 = a.text ↔ a ≠ .status) := by
  have h_status : ∀ d : DoorState,
      (snprintf 32 ("STATUS_".toList ++ stateText d)).str.length ≤ 15 ∧
      (snprintf 32 ("STATUS_".toList ++ stateText d)).str ≠ "STATUS".toList := by
    intro d
    cases d <;> decide
  cases a with
  | lock => exact ⟨show "LOCK".toList.length ≤ 15 by decide, iff_of_true rfl (by decide)⟩
  | unlock => exact ⟨show "UNLOCK".toList.length ≤ 15 by decide, iff_of_true rfl (by decide)⟩
  | status =>
    obtain ⟨h_len, h_ne⟩ := h_status (getDoorStatus env ⟨.UNKNOWN, 0⟩ s).door.state
    exact ⟨h_len, iff_of_false h_ne (by simp)⟩

/-- A call of `hub_udp_send_command` with such an action. -/
structure DoorCall where
  moduleId : CStr
  target : CStr
  action : KnownAction

/-- The arguments of `hub_udp_send_command`. -/
def DoorCall.toSendCall (c : DoorCall) : SendCall := ⟨c.moduleId, c.target, c.action.text⟩

/-- The words of the call's command line, as a door receives them. -/
def commandWords (c : DoorCall) (cmdid : ℤ) : Option CmdWords :=
  commandOf (lineTokens (datagramLine (sendLine c.toSendCall cmdid)))

/-- The event is the handling of the FEEDBACK datagram that a door of the module sends for the
call's command line. -/
def IsAnswer (c : DoorCall) (cmdid : ℤ) (e : HubEv) : Prop :=
  ∃ data src t tReg, IsFeedbackTo c.moduleId (sendLine c.toSendCall cmdid) data ∧
    e = .datagram data src t tReg

/-- The command line reaches a door of the module as a command for it. -/
def Gets (c : DoorCall) (cmdid : ℤ) : Prop :=
  ∃ w, commandWords c cmdid = some w ∧ w.mod = c.moduleId

theorem IsAnswer.words {c : DoorCall} {cmdid : ℤ} {e : HubEv} (h : IsAnswer c cmdid e) :
    ∃ w env s, commandWords c cmdid = some w ∧ w.mod = c.moduleId ∧
      e.words = lineTokens (datagramLine (handlerFeedback w env s)) := by
  obtain ⟨data, src, t, tReg, h_data, rfl⟩ := h
  obtain ⟨w, env, s, h_w, h_mod, -, rfl⟩ := h_data.words
  exact ⟨w, env, s, h_w, h_mod, rfl⟩

theorem IsAnswer.gets {c : DoorCall} {cmdid : ℤ} {e : HubEv} (h : IsAnswer c cmdid e) :
    Gets c cmdid := by
  obtain ⟨w, -, -, h_w, h_mod, -⟩ := h.words
  exact ⟨w, h_w, h_mod⟩

/-- A command that the module gets is answered. -/
theorem exists_isAnswer {c : DoorCall} {cmdid : ℤ} (h_gets : Gets c cmdid)
    (h_fits : c.moduleId.length < HUB_MODULE_ID_LEN) : ∃ e, IsAnswer c cmdid e := by
  obtain ⟨w, h_w, h_mod⟩ := h_gets
  obtain ⟨data, h_data⟩ := exists_isFeedbackTo h_w (by rw [h_mod]; exact h_fits)
  rw [h_mod] at h_data
  exact ⟨.datagram data SockAddr.zero 0 0, data, SockAddr.zero, 0, 0, h_data, rfl⟩

/-- A call with a short target that is one word is heard as it was made. -/
theorem commandWords_eq {c : DoorCall} (h_mod : IsText c.moduleId)
    (h_fits : c.moduleId.length < HUB_MODULE_ID_LEN) (h_text : IsText c.target)
    (h_target : c.target.length ≤ 31) {cmdid : ℤ} (h_id : InInt cmdid) :
    commandWords c cmdid = some ⟨c.moduleId, cmdid, c.target, c.action.text⟩ := by
  have h_sixteen : c.moduleId.length < 16 := h_fits
  have h_action : IsText c.action.text ∧ c.action.text.length ≤ 6 := by
    cases c.action <;> decide
  refine commandOf_commandLine h_mod h_id h_text h_action.1 ?_
  dsimp only [DoorCall.toSendCall]
  omega

/-- The answer to a call with a short target comes back word by word. -/
theorem feedbackOf_answer {c : DoorCall} (h_fits : c.moduleId.length < HUB_MODULE_ID_LEN)
    (h_target : c.target.length ≤ 31) {cmdid : ℤ} (h_id : InInt cmdid) {w : CmdWords}
    (h_w : commandWords c cmdid = some w) (h_mod : w.mod = c.moduleId) (env : CallEnv)
    (s : DoorModule) :
    feedbackOf (lineTokens (datagramLine (handlerFeedback w env s)))
      = some ⟨w.mod, w.cmdid, w.target, (handlerOp w.action env s).2⟩ := by
  obtain ⟨cmdidS, rest, h_words, h_num⟩ := cmdWords_eq_some h_w
  have h_sixteen : c.moduleId.length < 16 := h_fits
  -- the command line is short, and so are its words
  have h_line : (datagramLine (sendLine c.toSendCall cmdid)).length ≤ 80 := by
    have h_len := length_commandLine c.moduleId cmdid c.target c.action.text
    have h_digits := length_fmtInt_le h_id
    have h_action : c.action.text.length ≤ 6 := by
      cases c.action <;> decide
    unfold datagramLine sendLine
    rw [snprintf_str]
    refine (List.takeWhile_prefix _).length_le.trans ?_
    rw [List.length_take, List.length_take]
    dsimp only [DoorCall.toSendCall]
    omega
  have h_text : ∀ v ∈ w.mod :: "COMMAND".toList :: cmdidS :: w.target :: w.action :: rest,
      IsText v ∧ v.length ≤ 80 := by
    rw [← h_words]
    exact fun v h_v => ⟨isText_of_mem h_v, (length_le_of_mem_tokens h_v).trans h_line⟩
  obtain ⟨h_out, h_out_len⟩ := isText_handlerOp (h_text w.action (by simp)).1 env s
  refine feedbackOf_feedbackLine (h_text _ (by simp)).1 ?_ (h_text w.target (by simp)).1 h_out ?_
  · rw [h_num]
    exact inInt_atoi cmdidS
  · have h_one := (h_text w.target (by simp)).2
    have h_two := (h_text w.action (by simp)).2
    rw [h_mod]
    omega

/-! ### Delivery -/

/-- The call is in the wait of an attempt. -/
def InWait : SendPhase → Prop
  | .sending _ _ => False
  | .locking _ _ => True
  | .waiting _ _ => True
  | .returned _ => False

/-- **Delivery** in one schedule: when an answer is handled during the wait of an attempt, the
call returns true as soon as it has the mutex again, and has not returned anything else by then. -/
def AckDelivered (c : DoorCall) (h : HubState) (es : List SendEv) : Prop :=
  ∀ es₁ e es₂, es = es₁ ++ .env e :: es₂ → IsAnswer c h.gNextCmdid e →
    InWait (runSend c.toSendCall h es₁).2 →
      (runSend c.toSendCall h (es ++ [.lock, .wake false])).2 = .returned true

/-- The complete FEEDBACK lines of the module that are handled are answers to the call, or have
words in `F`. -/
def OthersIn (c : DoorCall) (cmdid : ℤ) (F : Set CmdWords) (es : List SendEv) : Prop :=
  ∀ e, .env e ∈ es → ∀ f, feedbackOf e.words = some f → f.mod = c.moduleId →
    IsAnswer c cmdid e ∨ f ∈ F

/-- When answers are seen: the door answers with the words of the call, they fit into the slot,
and whatever else comes in passes the test as well. -/
structure Deliverable (c : DoorCall) (h : HubState) (F : Set CmdWords) : Prop where
  action : c.action ≠ .status
  target : IsText c.target ∧ c.target.length ≤ 31
  others : ∀ f ∈ F, f.mod = c.moduleId → Passes c.toSendCall h.gNextCmdid (recordOf f)

/-! ### The call beside the hub -/

/-- Only the rest of the system moves the hub. -/
theorem stepSend_fst (call : SendCall) (s : HubState × SendPhase) (e : SendEv) :
    (stepSend call s e).1 = match e with
      | .env e => step s.1 e
      | _ => s.1 := by
  obtain ⟨h, p⟩ := s
  cases e <;> cases p <;> rfl

theorem slotFound_stepSend {m : CStr} {d : Fin HUB_MAX_DOORS} {s : HubState × SendPhase}
    (h_slot : SlotFound m d s.1) (call : SendCall) (e : SendEv) :
    SlotFound m d (stepSend call s e).1 := by
  rw [stepSend_fst]
  cases e with
  | env e => exact h_slot.step e
  | sendto ok => exact h_slot
  | lock => exact h_slot
  | wake timedOut => exact h_slot

/-- A call on a route keeps its slot and its local variables. -/
theorem runSend_route {call : SendCall} {url : CharBuf 512} {past : List HubEv}
    {d : Fin HUB_MAX_DOORS} (h_route : Route call.moduleId (reached url past) d)
    (es : List SendEv) :
    SlotFound call.moduleId d (runSend call (reached url past) es).1 ∧
      SendInv call (routeLocals (reached url past) d) True
        (runSend call (reached url past) es) := by
  have h_start : SlotFound call.moduleId d (beginSend call (reached url past)).1 ∧
      SendInv call (routeLocals (reached url past) d) True (beginSend call (reached url past)) := by
    rw [beginSend_route h_route]
    exact ⟨⟨slotsPacked_reached url past, h_route.1⟩, holds_of_findDoor h_route.1,
      fun _ => trivial, rfl⟩
  refine run_invariant (fun s => SlotFound call.moduleId d s.1 ∧
    SendInv call (routeLocals (reached url past) d) True s) ?_ h_start es
  rintro s e ⟨h_slot, inv⟩
  exact ⟨slotFound_stepSend h_slot call e, inv.step (fun _ _ _ _ _ _ => trivial)⟩

/-- A call that waits is in `locking` or `waiting` with its own local variables. -/
theorem phase_of_inWait {call : SendCall} {l : SendLocals} {H : Prop} {s : HubState × SendPhase}
    (inv : SendInv call l H s) (h_wait : InWait s.2) :
    (∃ a, s.2 = .locking l a) ∨ ∃ a, s.2 = .waiting l a := by
  obtain ⟨h, p⟩ := s
  cases p with
  | sending l' a => exact absurd h_wait id
  | locking l' a =>
    obtain rfl : l' = l := inv.phase
    exact Or.inl ⟨a, rfl⟩
  | waiting l' a =>
    obtain rfl : l' = l := inv.phase
    exact Or.inr ⟨a, rfl⟩
  | returned r => exact absurd h_wait id

/-- A call that waits has found a route. -/
theorem route_of_inWait {call : SendCall} {h : HubState} {es : List SendEv}
    (h_wait : InWait (runSend call h es).2) : ∃ d, Route call.moduleId h d := by
  by_contra h_none
  rw [runSend_noRoute (not_exists.mp h_none) es] at h_wait
  exact h_wait

/-! ### Answers that are seen -/

/-- A waiter that wakes to a record that passes returns true. -/
theorem stepSend_wake_of_passes {call : SendCall} {l : SendLocals} {attempt : ℕ} {h : HubState}
    (h_pass : Passes call l.cmdid (h.gDoors l.door).feedback) (timedOut : Bool) :
    (stepSend call (h, .waiting l attempt) (.wake timedOut)).2 = .returned true := by
  unfold stepSend
  dsimp only
  -- the condition of the wait loop is false, also when the wait has timed out
  rw [if_neg (fun h_lt => absurd h_pass.1 (not_le.mpr h_lt.1))]
  exact checkAck_iff.mpr h_pass

/-- The state from the answer on: what is in the slot passes, and the call has not looked at
anything else. -/
structure Delivering (call : SendCall) (l : SendLocals) (s : HubState × SendPhase) : Prop where
  slot : SlotFound call.moduleId l.door s.1
  record : Passes call l.cmdid (s.1.gDoors l.door).feedback
  phase : (∃ a, s.2 = .locking l a) ∨ (∃ a, s.2 = .waiting l a) ∨ s.2 = .returned true

/-- **Step.** -/
theorem Delivering.step {call : SendCall} {l : SendLocals} {s : HubState × SendPhase}
    (inv : Delivering call l s) {e : SendEv}
    (h_e : ∀ e', e = .env e' → ∀ f, feedbackOf e'.words = some f → f.mod = call.moduleId →
      Passes call l.cmdid (recordOf f)) :
    Delivering call l (stepSend call s e) := by
  refine ⟨slotFound_stepSend inv.slot call e, ?_, ?_⟩
  · -- the record changes by lines that pass as well
    rw [stepSend_fst]
    cases e with
    | env e =>
      dsimp only
      rcases step_feedback (holds_of_findDoor inv.slot.2) e with ⟨f, h_f, h_mod, h_rec⟩ | h_same
      · rw [h_rec]
        exact h_e e rfl f h_f h_mod
      · rw [h_same]
        exact inv.record
    | sendto ok => exact inv.record
    | lock => exact inv.record
    | wake timedOut => exact inv.record
  · -- and a look at it ends the call
    obtain ⟨h, p⟩ := s
    have h_record := inv.record
    dsimp only at h_record
    rcases inv.phase with ⟨a, h_p⟩ | ⟨a, h_p⟩ | h_p
    · obtain rfl : p = .locking l a := h_p
      cases e with
      | env e => exact Or.inl ⟨a, rfl⟩
      | sendto ok => exact Or.inl ⟨a, rfl⟩
      | lock => exact Or.inr (Or.inr (stepSend_lock_iff.mpr h_record))
      | wake timedOut => exact Or.inl ⟨a, rfl⟩
    · obtain rfl : p = .waiting l a := h_p
      cases e with
      | env e => exact Or.inr (Or.inl ⟨a, rfl⟩)
      | sendto ok => exact Or.inr (Or.inl ⟨a, rfl⟩)
      | lock => exact Or.inr (Or.inl ⟨a, rfl⟩)
      | wake timedOut => exact Or.inr (Or.inr (stepSend_wake_of_passes h_record timedOut))
    · obtain rfl : p = .returned true := h_p
      refine Or.inr (Or.inr ?_)
      cases e <;> rfl

/-- From the answer on, the next look returns true. -/
theorem Delivering.look {call : SendCall} {l : SendLocals} {s : HubState × SendPhase}
    (inv : Delivering call l s) :
    (run (stepSend call) s [.lock, .wake false]).2 = .returned true := by
  obtain ⟨h, p⟩ := s
  have h_record := inv.record
  dsimp only at h_record
  rw [run_cons, run_cons, run_nil]
  rcases inv.phase with ⟨a, h_p⟩ | ⟨a, h_p⟩ | h_p
  · obtain rfl : p = .locking l a := h_p
    have h_lock : stepSend call (h, .locking l a) .lock = (h, .returned true) :=
      Prod.ext rfl (stepSend_lock_iff.mpr h_record)
    rw [h_lock]
    rfl
  · obtain rfl : p = .waiting l a := h_p
    exact stepSend_wake_of_passes h_record false
  · obtain rfl : p = .returned true := h_p
    rfl

/-- The module of a call with a route is a word that fits. -/
theorem isText_of_route {m : CStr} {url : CharBuf 512} {past : List HubEv} {d : Fin HUB_MAX_DOORS}
    (h_route : Route m (reached url past) d) : IsText m ∧ m.length < HUB_MODULE_ID_LEN :=
  isText_of_holds (holds_of_findDoor h_route.1)

/-- **Deliverable answers are delivered.** -/
theorem ackDelivered_of_deliverable {url : CharBuf 512} {past : List HubEv} {c : DoorCall}
    {F : Set CmdWords}
    (h_del : ∀ d, Route c.moduleId (reached url past) d →
      Gets c (reached url past).gNextCmdid → Deliverable c (reached url past) F)
    {es : List SendEv} (h_es : OthersIn c (reached url past).gNextCmdid F es) :
    AckDelivered c (reached url past) es := by
  intro es₁ e es₂ h_split h_answer h_wait
  obtain ⟨d, h_d⟩ := route_of_inWait h_wait
  obtain ⟨h_action, ⟨h_text, h_target⟩, h_others⟩ := h_del d h_d h_answer.gets
  obtain ⟨h_mod, h_fits⟩ := isText_of_route h_d
  let l := routeLocals (reached url past) d
  have h_id := inInt_gNextCmdid url past
  -- an answer carries the words of the call
  have h_answers : ∀ e', IsAnswer c (reached url past).gNextCmdid e' →
      ∃ f, feedbackOf e'.words = some f ∧ f.mod = c.moduleId ∧
        Passes c.toSendCall l.cmdid (recordOf f) := by
    intro e' h_ans
    obtain ⟨w, env, s, h_w, h_w_mod, h_words⟩ := h_ans.words
    have h_f := feedbackOf_answer h_fits h_target h_id h_w h_w_mod env s
    rw [commandWords_eq h_mod h_fits h_text h_target h_id, Option.some.injEq] at h_w
    rw [← h_w] at h_f h_words
    dsimp only at h_f
    obtain ⟨h_len, h_same⟩ := handlerOp_word c.action env s
    rw [← h_words] at h_f
    refine ⟨_, h_f, rfl, le_rfl, List.take_of_length_le h_target, ?_⟩
    show ((handlerOp c.action.text env s).2).take 31 = c.action.text
    rw [List.take_of_length_le (by omega)]
    exact h_same.mpr h_action
  -- so nothing that is recorded for the module during the call fails its test
  have h_pass : ∀ e', .env e' ∈ es → ∀ f, feedbackOf e'.words = some f → f.mod = c.moduleId →
      Passes c.toSendCall l.cmdid (recordOf f) := by
    intro e' h_mem f h_f h_f_mod
    rcases h_es e' h_mem f h_f h_f_mod with h_ans | h_F
    · obtain ⟨f', h_f', -, h_ok⟩ := h_answers e' h_ans
      rw [Option.some.inj (h_f.symm.trans h_f')]
      exact h_ok
    · exact h_others f h_F h_f_mod
  -- the answer is recorded while the call waits
  have h_route : Route c.toSendCall.moduleId (reached url past) d := h_d
  obtain ⟨h_slot, h_inv⟩ := runSend_route h_route es₁
  have h_start : Delivering c.toSendCall l
      (stepSend c.toSendCall (runSend c.toSendCall (reached url past) es₁) (.env e)) := by
    refine ⟨slotFound_stepSend h_slot _ _, ?_, ?_⟩
    · obtain ⟨f, h_f, h_f_mod, h_ok⟩ := h_answers e h_answer
      show Passes _ _ ((step _ e).gDoors d).feedback
      rw [step_feedback_of_findDoor h_f (by rw [h_f_mod]; exact h_slot.2)]
      exact h_ok
    · rcases phase_of_inWait h_inv h_wait with ⟨a, h_p⟩ | ⟨a, h_p⟩
      · exact Or.inl ⟨a, h_p⟩
      · exact Or.inr (Or.inl ⟨a, h_p⟩)
  -- and it is still there, or already taken, after the rest of the schedule
  have h_rest : Delivering c.toSendCall l (runSend c.toSendCall (reached url past) es) := by
    unfold runSend at h_start ⊢
    rw [h_split, run_append, run_cons]
    refine run_invariant_of_forall (C := fun e' => e' ∈ es) _ ?_ h_start ?_
    · rintro s e' h_mem inv
      refine inv.step ?_
      rintro e'' rfl f h_f h_f_mod
      exact h_pass e'' h_mem f h_f h_f_mod
    · intro e' h_e'
      rw [h_split]
      exact List.mem_append_right _ (List.mem_cons_of_mem _ h_e')
  unfold runSend at h_rest ⊢
  rw [run_append]
  exact h_rest.look

/-! ### Answers that are lost -/

/-- A record that does not pass is tested once in each attempt, and the call gives up. -/
theorem run_giveUp {call : SendCall} {l : SendLocals} {h : HubState}
    (h_record : ¬ Passes call l.cmdid (h.gDoors l.door).feedback) :
    run (stepSend call) (h, .locking l 0) [.lock, .wake true, .sendto false, .sendto false]
      = (h, .returned false) := by
  have h_check : checkAck call l 0 h = .sending l 1 := by
    unfold checkAck
    rw [if_neg (fun h_test => h_record ((ackTest_iff _ _ _).mp h_test))]
    rfl
  rw [run_cons, run_cons]
  by_cases h_lt : (h.gDoors l.door).lastFeedbackCmdid < l.cmdid
  · -- the loop waits for its timeout, and then makes the test
    have h_lock : stepSend call (h, .locking l 0) .lock = (h, .waiting l 0) :=
      congrArg (Prod.mk h) (if_pos h_lt)
    have h_wake : stepSend call (h, .waiting l 0) (.wake true) = (h, .sending l 1) := by
      refine (congrArg (Prod.mk h) (if_neg ?_)).trans (congrArg (Prod.mk h) h_check)
      exact fun h_wait => absurd h_wait.2 (by simp)
    rw [h_lock, h_wake]
    rfl
  · -- the number is high enough, so the test is made at once
    have h_lock : stepSend call (h, .locking l 0) .lock = (h, .sending l 1) :=
      (congrArg (Prod.mk h) (if_neg h_lt)).trans (congrArg (Prod.mk h) h_check)
    rw [h_lock]
    rfl

/-- The rest of the system moves the hub and leaves the call where it is. -/
theorem run_env (call : SendCall) (h : HubState) (p : SendPhase) (later : List HubEv) :
    run (stepSend call) (h, p) (later.map .env) = (run step h later, p) := by
  induction later generalizing h with
  | nil => rfl
  | cons e later ih =>
    rw [List.map_cons, run_cons, run_cons]
    exact ih (step h e)

/-- When answers are always delivered, whatever the slot holds after an answer and other lines
passes the test. -/
theorem passes_of_ackDelivered {h : HubState} {c : DoorCall} {F : Set CmdWords}
    (h_all : ∀ es, OthersIn c h.gNextCmdid F es → AckDelivered c h es) {d : Fin HUB_MAX_DOORS}
    (h_route : Route c.moduleId h d) {e : HubEv} (h_e : IsAnswer c h.gNextCmdid e)
    {later : List HubEv}
    (h_later : ∀ e' ∈ later, ∀ f, feedbackOf e'.words = some f → f.mod = c.moduleId → f ∈ F) :
    Passes c.toSendCall h.gNextCmdid
      ((run step (step (allocCmdid h) e) later).gDoors d).feedback := by
  -- otherwise the schedule that handles these lines before the first look loses the answer
  by_contra h_record
  let l := routeLocals h d
  let lost : List SendEv := [.lock, .wake true, .sendto false, .sendto false]
  let es : List SendEv := [.sendto true] ++ .env e :: (later.map .env ++ lost)
  have h_es : OthersIn c h.gNextCmdid F es := by
    intro e' h_mem f h_f h_mod
    have h_cases : e' = e ∨ e' ∈ later := by simpa [es, lost] using h_mem
    rcases h_cases with rfl | h_mem
    · exact Or.inl h_e
    · exact Or.inr (h_later e' h_mem f h_f h_mod)
  have h_start : runSend c.toSendCall h [.sendto true] = (allocCmdid h, .locking l 0) := by
    have h_call : Route c.toSendCall.moduleId h d := h_route
    unfold runSend
    rw [beginSend_route h_call]
    rfl
  have h_env : stepSend c.toSendCall (allocCmdid h, .locking l 0) (.env e)
      = (step (allocCmdid h) e, .locking l 0) := rfl
  have h_lost : run (stepSend c.toSendCall) (run step (step (allocCmdid h) e) later,
      .locking l 0) lost = _ := run_giveUp h_record
  have h_end : runSend c.toSendCall h es
      = (run step (step (allocCmdid h) e) later, .returned false) := by
    unfold runSend at h_start ⊢
    rw [run_append, h_start, run_cons, h_env, run_append, run_env, h_lost]
  have h_stays : (runSend c.toSendCall h (es ++ [.lock, .wake false])).2 = .returned false := by
    unfold runSend at h_end ⊢
    rw [run_append, h_end]
    exact run_returned _ _ _ _
  have h_true := h_all es h_es [.sendto true] e _ rfl h_e (by rw [h_start]; exact trivial)
  rw [h_stays] at h_true
  exact absurd h_true (by simp)

/-- **When answers are delivered.** Called in any reachable state, while the other complete
FEEDBACK lines of its module have words in `F`, a call gets every answer that comes in during the
wait of an attempt, in every schedule, if and only if it finds no route, or its command is not
heard by the door, or answers are deliverable. -/
theorem ackDelivered_iff (url : CharBuf 512) (past : List HubEv) (c : DoorCall)
    (F : Set FeedbackWords) :
    (∀ es, OthersIn c (reached url past).gNextCmdid (Subtype.val '' F) es →
      AckDelivered c (reached url past) es) ↔
      ∀ d, Route c.moduleId (reached url past) d → Gets c (reached url past).gNextCmdid →
        Deliverable c (reached url past) (Subtype.val '' F) := by
  refine ⟨?_, fun h_del es h_es => ackDelivered_of_deliverable h_del h_es⟩
  intro h_all d h_route h_gets
  obtain ⟨h_mod, h_fits⟩ := isText_of_route h_route
  have h_id := inInt_gNextCmdid url past
  obtain ⟨e, h_e⟩ := exists_isAnswer h_gets h_fits
  have h_empty : ∀ e' ∈ ([] : List HubEv), ∀ f, feedbackOf e'.words = some f →
      f.mod = c.moduleId → f ∈ Subtype.val '' F := by simp
  -- the answer itself passes
  have h_pass : Passes c.toSendCall (reached url past).gNextCmdid
      ((step (allocCmdid (reached url past)) e).gDoors d).feedback :=
    passes_of_ackDelivered h_all h_route h_e h_empty
  -- and comes out of the buffers of the record as it was
  have h_target : c.target.length ≤ 31 := by
    have h_buf := ((step (allocCmdid (reached url past)) e).gDoors d).lastFeedbackTarget.fits
    have h_eq : ((step (allocCmdid (reached url past)) e).gDoors d).lastFeedbackTarget.str
        = c.target := h_pass.2.1
    rw [h_eq] at h_buf
    exact Nat.le_of_lt_succ h_buf
  obtain ⟨w, env, s, h_w, h_w_mod, h_words⟩ := h_e.words
  have h_f := feedbackOf_answer h_fits h_target h_id h_w h_w_mod env s
  rw [← h_words] at h_f
  have h_first : findDoor w.mod (allocCmdid (reached url past)).gDoors = some d := by
    rw [h_w_mod]
    exact h_route.1
  rw [step_feedback_of_findDoor h_f h_first] at h_pass
  obtain ⟨-, h_pass_target, h_pass_action⟩ := h_pass
  change w.target.take 31 = c.target at h_pass_target
  change (handlerOp w.action env s).2.take 31 = c.action.text at h_pass_action
  have h_text : IsText c.target := by
    have h_w_text : IsText w.target := (isText_of_cmdWords h_w).2.1
    rw [← h_pass_target]
    exact h_w_text.take (by norm_num)
  rw [commandWords_eq h_mod h_fits h_text h_target h_id, Option.some.injEq] at h_w
  obtain ⟨h_len, h_same⟩ := handlerOp_word c.action env s
  rw [← h_w, List.take_of_length_le (by dsimp only; omega)] at h_pass_action
  refine ⟨h_same.mp h_pass_action, ⟨h_text, h_target⟩, ?_⟩
  -- and so does every other line, right after the answer
  rintro _ ⟨⟨f, data, h_data⟩, h_F, rfl⟩ h_f_mod
  have h_later : ∀ e' ∈ [bareDatagram data], ∀ f', feedbackOf e'.words = some f' →
      f'.mod = c.moduleId → f' ∈ Subtype.val '' F := by
    intro e' h_mem f' h_f' _
    rw [List.mem_singleton.mp h_mem] at h_f'
    exact ⟨⟨f, data, h_data⟩, h_F, Option.some.inj (h_data.symm.trans h_f')⟩
  have h_pass := passes_of_ackDelivered h_all h_route h_e h_later
  have h_found : findDoor f.mod (step (allocCmdid (reached url past)) e).gDoors = some d := by
    change f.mod = c.moduleId at h_f_mod
    rw [h_f_mod]
    have h_pack : SlotsPacked (allocCmdid (reached url past)).gDoors := slotsPacked_reached url past
    have h_here : findDoor c.moduleId (allocCmdid (reached url past)).gDoors = some d := h_route.1
    exact h_pack.findDoor_step h_here e
  have h_line : feedbackOf (bareDatagram data).words = some f := h_data
  rw [run_cons, run_nil, step_feedback_of_findDoor h_line h_found] at h_pass
  exact h_pass

/-- A call for the STATUS of `D1`. -/
def statusD1 : DoorCall := ⟨"D1".toList, "D0".toList, .status⟩

/-- The hub has heard of `D1`, and of no command so far. -/
def helloD1 : HubState := reached (CharBuf.zero _) [bareDatagram "D1 HELLO\n".toList]

/-- The door answers the STATUS command at once, the call looks at the answer and returns false. -/
theorem not_ackDelivered :
    ∃ e, IsAnswer statusD1 helloD1.gNextCmdid e ∧
      (runSend statusD1.toSendCall helloD1
        [.sendto true, .env e, .lock, .wake true, .sendto false, .sendto false]).2
          = .returned false ∧
      ¬ AckDelivered statusD1 helloD1
        [.sendto true, .env e, .lock, .wake true, .sendto false, .sendto false] := by
  -- the door answers a STATUS with what it has read
  let data := "D1 FEEDBACK 1 D0 STATUS_UNKNOWN\n".toList
  have h_sent : (doorCmdDatagram (sendLine statusD1.toSendCall helloD1.gNextCmdid) deadEnv
      (ListeningDoor.started "D1".toList).module).2.getLast? = some (.send ⟨0, data⟩) := by
    decide +kernel
  have h_answer : IsAnswer statusD1 helloD1.gNextCmdid (bareDatagram data) :=
    ⟨data, SockAddr.zero, 0, 0, ⟨.started "D1".toList, deadEnv, 0, by decide +kernel, h_sent⟩, rfl⟩
  refine ⟨bareDatagram data, h_answer, by decide +kernel, fun h_delivered => ?_⟩
  have h_true := h_delivered [.sendto true] (bareDatagram data) _ rfl h_answer
    (by
      have h_phase : (runSend statusD1.toSendCall helloD1 [.sendto true]).2
        = .locking ⟨0, SockAddr.zero, 1⟩ 0 := by decide +kernel
      rw [h_phase]
      exact trivial)
  -- the call gives up all the same
  exact absurd h_true (by decide +kernel)

end System

end DoorSystem
