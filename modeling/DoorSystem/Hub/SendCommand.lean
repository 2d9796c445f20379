import DoorSystem.Hub.SlotIdentity

/-!
# `hub_udp_send_command`

A local call that sends a command to a door and waits for its FEEDBACK, as a machine that runs
beside the receiver thread. Between two of its critical sections anything may happen to the hub
(`SendEv.env`); the other events are the outcomes of the call's own system calls.

The waiter does not see the FEEDBACK lines themselves, only what the last of them left in the
slot of the door. So the call returns true exactly when it looks at a record that passes its test
(`Passes`), whoever that record answered. `sendCommand_ackSound_iff` says for which records and
which FEEDBACK lines this is sound.
-/

namespace DoorSystem

open CLib

namespace Hub

/-! ### The call -/

abbrev ACK_RETRIES : ℕ := 2

/-- The arguments of a call. -/
structure SendCall where
  moduleId : CStr
  target : CStr
  action : CStr

/-- The local variables of a call that found a route. -/
structure SendLocals where
  door : Fin HUB_MAX_DOORS
  dest : SockAddr
  cmdid : ℤ
deriving DecidableEq

/-- Where a call stands. -/
inductive SendPhase
  /-- Before `sendto`. -/
  | sending (l : SendLocals) (attempt : ℕ)
  /-- The command is sent, the mutex is not yet taken. -/
  | locking (l : SendLocals) (attempt : ℕ)
  /-- In `pthread_cond_timedwait`. -/
  | waiting (l : SendLocals) (attempt : ℕ)
  | returned (result : Bool)
deriving DecidableEq

/-- The command line that every attempt sends. -/
def sendLine (call : SendCall) (cmdid : ℤ) : CStr :=
  (snprintf 256 (commandLine call.moduleId cmdid call.target call.action)).str

/-- The first critical section: the slot of the module, its return route and a number. -/
def beginSend (call : SendCall) (h : HubState) : HubState × SendPhase :=
  match findDoor call.moduleId h.gDoors with
  | some d =>
    if (h.gDoors d).hasLastAddr then
      (allocCmdid h, .sending ⟨d, (h.gDoors d).lastAddr, h.gNextCmdid⟩ 0)
    else (h, .returned false)
  | none => (h, .returned false)

/-- `attempt++`, and the test of the attempt loop. -/
def nextAttempt (l : SendLocals) (attempt : ℕ) : SendPhase :=
  if attempt + 1 ≤ ACK_RETRIES then .sending l (attempt + 1) else .returned false

/-- The value of `got`. -/
def ackTest (call : SendCall) (cmdid : ℤ) (s : HubDoorStatus) : Bool :=
  decide (cmdid ≤ s.lastFeedbackCmdid) && strncmpEq 32 s.lastFeedbackTarget.str call.target &&
    strncmpEq 32 s.lastFeedbackAction.str call.action

/-- The end of an attempt, when the wait loop is left. -/
def checkAck (call : SendCall) (l : SendLocals) (attempt : ℕ) (h : HubState) : SendPhase :=
  if ackTest call l.cmdid (h.gDoors l.door) then .returned true else nextAttempt l attempt

/-- What happens while a call runs. -/
inductive SendEv
  /-- Something else happens to the hub. -/
  | env (e : HubEv)
  /-- `socket` and `sendto` succeed with the whole line, or one of them fails. -/
  | sendto (ok : Bool)
  /-- The call takes the mutex. -/
  | lock
  /-- `pthread_cond_timedwait` returns. -/
  | wake (timedOut : Bool)

/-- One step of a call beside the hub. -/
def stepSend (call : SendCall) : HubState × SendPhase → SendEv → HubState × SendPhase
  | (h, p), .env e => (step h e, p)
  | (h, .sending l attempt), .sendto ok =>
    (h, if ok then .locking l attempt else nextAttempt l attempt)
  | (h, .locking l attempt), .lock =>
    (h, if (h.gDoors l.door).lastFeedbackCmdid < l.cmdid then .waiting l attempt
      else checkAck call l attempt h)
  | (h, .waiting l attempt), .wake timedOut =>
    (h, if (h.gDoors l.door).lastFeedbackCmdid < l.cmdid ∧ timedOut = false then .waiting l attempt
      else checkAck call l attempt h)
  | s, _ => s

/-- The hub and the call, called in the state `h`, after the events `es`. -/
def runSend (call : SendCall) (h : HubState) (es : List SendEv) : HubState × SendPhase :=
  run (stepSend call) (beginSend call h) es

/-! ### The test -/

/-- A record passes the test of a call that waits for the number `cmdid`. -/
def Passes (call : SendCall) (cmdid : ℤ) (r : ℤ × CharBuf 32 × CharBuf 32) : Prop :=
  cmdid ≤ r.1 ∧ r.2.1.str = call.target ∧ r.2.2.str = call.action

theorem ackTest_iff (call : SendCall) (cmdid : ℤ) (s : HubDoorStatus) :
    ackTest call cmdid s = true ↔ Passes call cmdid s.feedback := by
  unfold ackTest Passes HubDoorStatus.feedback
  rw [Bool.and_eq_true, Bool.and_eq_true, CharBuf.strncmpEq_iff, CharBuf.strncmpEq_iff,
    decide_eq_true_eq, and_assoc]

/-- A call finds the slot `d` and a return route. -/
def Route (m : CStr) (h : HubState) (d : Fin HUB_MAX_DOORS) : Prop :=
  findDoor m h.gDoors = some d ∧ (h.gDoors d).hasLastAddr = true

/-- In a packed table a route is never lost. -/
theorem Route.run {m : CStr} {h : HubState} {d : Fin HUB_MAX_DOORS} (h_route : Route m h d)
    (h_pack : SlotsPacked h.gDoors) (es : List HubEv) : Route m (CLib.run Hub.step h es) d := by
  -- packing is kept beside the route, since it keeps the slot that is found
  have h_all : SlotsPacked (CLib.run Hub.step h es).gDoors ∧
      Route m (CLib.run Hub.step h es) d := by
    refine run_invariant (fun h : HubState => SlotsPacked h.gDoors ∧ Route m h d) ?_
      ⟨h_pack, h_route⟩ es
    rintro h e ⟨h_pack, h_find, h_addr⟩
    exact ⟨h_pack.step e, h_pack.findDoor_step h_find e,
      step_hasLastAddr (holds_of_findDoor h_find) h_addr e⟩
  exact h_all.2

/-- The local variables of a call on the route `d`. -/
def routeLocals (h : HubState) (d : Fin HUB_MAX_DOORS) : SendLocals :=
  ⟨d, (h.gDoors d).lastAddr, h.gNextCmdid⟩

theorem beginSend_route {call : SendCall} {h : HubState} {d : Fin HUB_MAX_DOORS}
    (h_route : Route call.moduleId h d) :
    beginSend call h = (allocCmdid h, .sending (routeLocals h d) 0) := by
  unfold beginSend
  rw [h_route.1]
  exact if_pos h_route.2

theorem beginSend_noRoute {call : SendCall} {h : HubState}
    (h_route : ∀ d, ¬ Route call.moduleId h d) : beginSend call h = (h, .returned false) := by
  unfold beginSend
  split
  · next d h_find =>
    -- a slot without a return address
    split_ifs with h_addr
    · exact absurd ⟨h_find, h_addr⟩ (h_route d)
    · rfl
  · rfl

/-- A call that has returned stays so. -/
theorem run_returned (call : SendCall) (h : HubState) (r : Bool) (es : List SendEv) :
    (run (stepSend call) (h, .returned r) es).2 = .returned r := by
  induction es generalizing h with
  | nil => rfl
  | cons e es ih =>
    rw [run_cons]
    cases e with
    | env e => exact ih (step h e)
    | sendto ok => exact ih h
    | lock => exact ih h
    | wake timedOut => exact ih h

/-- Without a route a call has returned at once. -/
theorem runSend_noRoute {call : SendCall} {h : HubState}
    (h_route : ∀ d, ¬ Route call.moduleId h d) (es : List SendEv) :
    (runSend call h es).2 = .returned false := by
  unfold runSend
  rw [beginSend_noRoute h_route]
  exact run_returned call h false es

/-- The event of the hub, if it is one. -/
def SendEv.hub? : SendEv → Option HubEv
  | .env e => some e
  | .sendto _ | .lock | .wake _ => none

theorem stepSend_fst (call : SendCall) (s : HubState × SendPhase) (e : SendEv) :
    (stepSend call s e).1 = run step s.1 e.hub?.toList := by
  obtain ⟨h, p⟩ := s
  cases e with
  | env e => rfl
  | sendto ok => cases p <;> rfl
  | lock => cases p <;> rfl
  | wake timedOut => cases p <;> rfl

/-- A call with a route takes a number. The rest of what happens to the hub is not its doing. -/
theorem runSend_fst {call : SendCall} {h : HubState} {d : Fin HUB_MAX_DOORS}
    (h_route : Route call.moduleId h d) (es : List SendEv) :
    (runSend call h es).1 = run step h (.alloc :: es.filterMap SendEv.hub?) := by
  unfold runSend
  rw [beginSend_route h_route, run_cons]
  show (run (stepSend call) (step h .alloc, _) es).1 = _
  generalize step h .alloc = h
  induction es using List.reverseRecOn with
  | nil => rfl
  | append_singleton es e ih =>
    rw [run_append, run_cons, run_nil, stepSend_fst, ih, List.filterMap_append, run_append]
    cases e <;> rfl

/-! ### Soundness -/

/-- The FEEDBACK that a call waits for. -/
def awaited (call : SendCall) (h : HubState) : CmdWords :=
  ⟨call.moduleId, h.gNextCmdid, call.target, call.action⟩

/-- The awaited line is handled during the call. -/
def Heard (f : CmdWords) (es : List SendEv) : Prop :=
  ∃ e, .env e ∈ es ∧ feedbackOf e.words = some f

/-- **Soundness** of one call: it returns true only if it heard the awaited line. -/
def AckSound (call : SendCall) (h : HubState) (es : List SendEv) : Prop :=
  (runSend call h es).2 = .returned true → Heard (awaited call h) es

/-- The words of a complete FEEDBACK line that a datagram can carry. -/
abbrev FeedbackWords :=
  {f : CmdWords // ∃ data, feedbackOf (lineTokens (datagramLine data)) = some f}

/-- The complete FEEDBACK lines of the module `m` that are handled have words in `F`. -/
def FeedbackIn (m : CStr) (F : Set CmdWords) (es : List SendEv) : Prop :=
  ∀ e, .env e ∈ es → ∀ f, feedbackOf e.words = some f → f.mod = m → f ∈ F

/-- What a call may rely on: the record it finds and every line of its module pass the test only
when they are the awaited line. -/
def OnlyAwaited (call : SendCall) (h : HubState) (F : Set CmdWords) : Prop :=
  ∀ d, Route call.moduleId h d →
    ¬ Passes call h.gNextCmdid (h.gDoors d).feedback ∧
      ∀ f ∈ F, f.mod = call.moduleId → Passes call h.gNextCmdid (recordOf f) → f = awaited call h

/-- The invariant of a call on the route `d`, where `H` is what makes it sound. -/
structure SendInv (call : SendCall) (l : SendLocals) (H : Prop) (s : HubState × SendPhase) :
    Prop where
  holds : Holds s.1.gDoors call.moduleId l.door
  record : Passes call l.cmdid (s.1.gDoors l.door).feedback → H
  phase : match s.2 with
    | .sending l' _ => l' = l
    | .locking l' _ => l' = l
    | .waiting l' _ => l' = l
    | .returned r => r = true → H

theorem SendInv.nextAttempt {call : SendCall} {l : SendLocals} {H : Prop} {h : HubState}
    (h_holds : Holds h.gDoors call.moduleId l.door)
    (h_record : Passes call l.cmdid (h.gDoors l.door).feedback → H) (attempt : ℕ) :
    SendInv call l H (h, nextAttempt l attempt) := by
  unfold Hub.nextAttempt
  split_ifs
  · exact ⟨h_holds, h_record, rfl⟩
  · exact ⟨h_holds, h_record, fun h_true => absurd h_true (by simp)⟩

theorem SendInv.checkAck {call : SendCall} {l : SendLocals} {H : Prop} {h : HubState}
    (h_holds : Holds h.gDoors call.moduleId l.door)
    (h_record : Passes call l.cmdid (h.gDoors l.door).feedback → H) (attempt : ℕ) :
    SendInv call l H (h, checkAck call l attempt h) := by
  unfold Hub.checkAck
  -- a test that passes is a record that passes, and then `H` holds
  split_ifs with h_test
  · exact ⟨h_holds, h_record, fun _ => h_record ((ackTest_iff _ _ _).mp h_test)⟩
  · exact SendInv.nextAttempt h_holds h_record attempt

/-- **Step.** -/
theorem SendInv.step {call : SendCall} {l : SendLocals} {H : Prop} {s : HubState × SendPhase}
    (inv : SendInv call l H s) {e : SendEv}
    (h_e : ∀ e', e = .env e' → ∀ f, feedbackOf e'.words = some f → f.mod = call.moduleId →
      Passes call l.cmdid (recordOf f) → H) :
    SendInv call l H (stepSend call s e) := by
  obtain ⟨h, p⟩ := s
  obtain ⟨h_holds, h_record, h_phase⟩ := inv
  cases e with
  | env e =>
    -- the record is as before, or it is a line of the module that `h_e` speaks about
    refine ⟨h_holds.step e, ?_, h_phase⟩
    intro h_pass
    change Passes call l.cmdid ((Hub.step h e).gDoors l.door).feedback at h_pass
    rcases step_feedback h_holds e with ⟨f, h_f, h_mod, h_rec⟩ | h_same
    · rw [h_rec] at h_pass
      exact h_e e rfl f h_f h_mod h_pass
    · rw [h_same] at h_pass
      exact h_record h_pass
  | sendto ok =>
    cases p with
    | sending l' attempt =>
      obtain rfl : l' = l := h_phase
      unfold stepSend
      dsimp only
      split_ifs
      · exact ⟨h_holds, h_record, rfl⟩
      · exact SendInv.nextAttempt h_holds h_record attempt
    | locking l' attempt => exact ⟨h_holds, h_record, h_phase⟩
    | waiting l' attempt => exact ⟨h_holds, h_record, h_phase⟩
    | returned r => exact ⟨h_holds, h_record, h_phase⟩
  | lock =>
    cases p with
    | sending l' attempt => exact ⟨h_holds, h_record, h_phase⟩
    | locking l' attempt =>
      obtain rfl : l' = l := h_phase
      unfold stepSend
      dsimp only
      split_ifs
      · exact ⟨h_holds, h_record, rfl⟩
      · exact SendInv.checkAck h_holds h_record attempt
    | waiting l' attempt => exact ⟨h_holds, h_record, h_phase⟩
    | returned r => exact ⟨h_holds, h_record, h_phase⟩
  | wake timedOut =>
    cases p with
    | sending l' attempt => exact ⟨h_holds, h_record, h_phase⟩
    | locking l' attempt => exact ⟨h_holds, h_record, h_phase⟩
    | waiting l' attempt =>
      obtain rfl : l' = l := h_phase
      unfold stepSend
      dsimp only
      split_ifs
      · exact ⟨h_holds, h_record, rfl⟩
      · exact SendInv.checkAck h_holds h_record attempt
    | returned r => exact ⟨h_holds, h_record, h_phase⟩

/-- **Run.** Where only the awaited line passes, a call is sound. -/
theorem ackSound_of_onlyAwaited {call : SendCall} {h : HubState} {F : Set CmdWords}
    (h_only : OnlyAwaited call h F) {es : List SendEv} (h_es : FeedbackIn call.moduleId F es) :
    AckSound call h es := by
  intro h_true
  by_cases h_route : ∃ d, Route call.moduleId h d
  · obtain ⟨d, h_d⟩ := h_route
    obtain ⟨h_old, h_new⟩ := h_only d h_d
    -- no record passes before the awaited line is heard
    have h_start : SendInv call (routeLocals h d) (Heard (awaited call h) es)
        (beginSend call h) := by
      rw [beginSend_route h_d]
      exact ⟨holds_of_findDoor h_d.1, fun h_pass => absurd h_pass h_old, rfl⟩
    have h_inv : SendInv call (routeLocals h d) (Heard (awaited call h) es)
        (runSend call h es) := by
      refine run_invariant_of_forall (C := fun e => e ∈ es) _ ?_ h_start (fun e h_e => h_e)
      rintro s e h_mem inv
      refine inv.step ?_
      rintro e' rfl f h_f h_mod h_pass
      rw [h_new f (h_es e' h_mem f h_f h_mod) h_mod h_pass] at h_f
      exact ⟨e', h_mem, h_f⟩
    have h_phase := h_inv.phase
    rw [h_true] at h_phase
    exact h_phase rfl
  · -- a call without a route returns false
    rw [runSend_noRoute (fun d h_d => h_route ⟨d, h_d⟩)] at h_true
    exact absurd h_true (by simp)

theorem nextAttempt_ne_true (l : SendLocals) (attempt : ℕ) :
    nextAttempt l attempt ≠ .returned true := by
  unfold nextAttempt
  split_ifs <;> simp

/-- A look ends a call with true exactly when the record passes. -/
theorem checkAck_iff {call : SendCall} {l : SendLocals} {attempt : ℕ} {h : HubState} :
    checkAck call l attempt h = .returned true ↔
      Passes call l.cmdid (h.gDoors l.door).feedback := by
  unfold checkAck
  rw [← ackTest_iff]
  split_ifs with h_test
  · exact iff_of_true rfl h_test
  · exact iff_of_false (nextAttempt_ne_true l attempt) h_test

theorem stepSend_lock_iff {call : SendCall} {l : SendLocals} {attempt : ℕ} {h : HubState} :
    (stepSend call (h, .locking l attempt) .lock).2 = .returned true ↔
      Passes call l.cmdid (h.gDoors l.door).feedback := by
  unfold stepSend
  dsimp only
  split_ifs with h_lt
  · -- the call starts to wait, for a number that the record does not have
    exact iff_of_false (by simp) (fun h_pass => absurd h_pass.1 (not_le.mpr h_lt))
  · exact checkAck_iff

/-- **When an acknowledgement is sound.** Called in any reachable state, while the FEEDBACK lines
of its module have words in `F`, every schedule of a call returns true only after the awaited line,
if and only if neither the record it finds nor any other line in `F` passes its test. -/
theorem sendCommand_ackSound_iff (url : CharBuf 512) (past : List HubEv) (call : SendCall)
    (F : Set FeedbackWords) :
    (∀ es, FeedbackIn call.moduleId (Subtype.val '' F) es →
      AckSound call (reached url past) es) ↔
      OnlyAwaited call (reached url past) (Subtype.val '' F) := by
  refine ⟨fun h_sound d h_route => ⟨fun h_pass => ?_, ?_⟩,
    fun h_only es h_es => ackSound_of_onlyAwaited h_only h_es⟩
  · -- the record is already there: the first look returns true
    have h_true : (runSend call (reached url past) [.sendto true, .lock]).2 = .returned true := by
      unfold runSend
      rw [beginSend_route h_route, run_cons, run_cons, run_nil]
      exact (stepSend_lock_iff (l := routeLocals _ d) (h := allocCmdid _)).mpr h_pass
    obtain ⟨e, h_mem, -⟩ := h_sound [.sendto true, .lock] (by simp [FeedbackIn]) h_true
    simp at h_mem
  · rintro _ ⟨⟨f, data, h_f⟩, h_F, rfl⟩ h_mod h_pass
    change f.mod = call.moduleId at h_mod
    change Passes call _ (recordOf f) at h_pass
    -- the line comes in before the first look
    let e : HubEv := bareDatagram data
    have h_e : feedbackOf e.words = some f := h_f
    have h_true : (runSend call (reached url past) [.env e, .sendto true, .lock]).2
        = .returned true := by
      unfold runSend
      rw [beginSend_route h_route, run_cons, run_cons, run_cons, run_nil]
      refine (stepSend_lock_iff (l := routeLocals _ d) (h := step (allocCmdid _) e)).mpr ?_
      have h_rec : ((step (allocCmdid (reached url past)) e).gDoors d).feedback = recordOf f :=
        step_feedback_of_findDoor h_e (by rw [h_mod]; exact h_route.1)
      show Passes call _ ((step (allocCmdid (reached url past)) e).gDoors d).feedback
      rw [h_rec]
      exact h_pass
    -- the run has this one line, whose words are in `F`
    have h_over : FeedbackIn call.moduleId (Subtype.val '' F) [.env e, .sendto true, .lock] := by
      intro e' h_mem f' h_f' _
      obtain rfl : e' = e := by simpa using h_mem
      exact ⟨⟨f, data, h_f⟩, h_F, Option.some.inj (h_e.symm.trans h_f')⟩
    obtain ⟨e', h_mem, h_heard⟩ := h_sound [.env e, .sendto true, .lock] h_over h_true
    obtain rfl : e' = e := by simpa using h_mem
    exact Option.some.inj (h_e.symm.trans h_heard)

/-- The door has just answered command 7 of a client, and the hub's own first command returns true
without any answer. -/
theorem not_ackSound :
    ¬ AckSound ⟨"D1".toList, "D0".toList, "LOCK".toList⟩
      (reached (CharBuf.zero _) [bareDatagram "D1 FEEDBACK 7 D0 LOCK\n".toList])
      [.sendto true, .lock] := by
  intro h_sound
  obtain ⟨e, h_mem, -⟩ := h_sound (by decide +kernel)
  -- no line is handled during the call
  simp at h_mem

end Hub

end DoorSystem
