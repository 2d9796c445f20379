import DoorSystem.Door.Bolt
import DoorSystem.Door.Handler
import DoorSystem.Door.Reporting
import DoorSystem.Door.Startup
import Mathlib.Data.List.DropRight

/-!
# The end of the door program

`doorMod_cli.c` starts the hardware, the LED worker and the reports, runs its command loop and
cleans up. `doorMod_cleanup` is to unlock the door, and rotates to 180 degrees, which is the locked
position (`cleanupUnlocks_iff`). It also stops the reports, which `main` has just stopped by itself:
the heartbeat thread is joined twice, or is joined without having been created. The listener and
the LED worker are guarded by their flags and joined once (`threadsJoined_iff`).
-/

namespace DoorSystem

open CLib

namespace Door

/-! ### Where the cleanup leaves the bolt -/

/-- When none of its writes fails, `doorMod_cleanup` leaves the motor at the unlocked position. -/
def CleanupUnlocks (s : DoorModule) : Prop :=
  ∀ gpio, WritesOk gpio (stepsNeeded 180 s.motor) →
    ((doorModCleanup gpio s).1.motor.getPosition : ℤ) = STEPPER_UNLOCKED_POSITION

theorem doorModCleanup_motor (gpio : Gpio) (s : DoorModule) :
    (doorModCleanup gpio s).1.motor
      = if s.motor.getPosition ≠ 0 then (s.motor.rotate 180 gpio).motor else s.motor := by
  unfold doorModCleanup
  dsimp only
  split_ifs <;> rfl

/-- From a position that does not read 0 the cleanup goes to the locked position. -/
theorem cleanup_locks {s : DoorModule} (h_s : s.motor.getPosition ≠ 0) {gpio : Gpio}
    (h_ok : WritesOk gpio (stepsNeeded 180 s.motor)) :
    (doorModCleanup gpio s).1.motor.getPosition = STEPPER_LOCKED_POSITION := by
  have h_range := s.motor.inRange
  obtain ⟨h_pos, -, -⟩ := rotate_of_writesOk (t := 180) (by norm_num) h_ok
  rw [doorModCleanup_motor, if_pos h_s]
  rw [stepsNeeded_locked] at h_pos
  refine (getPosition_eq_locked _).mpr ?_
  rw [h_pos]
  unfold STEPS_PER_REV at *
  omega

/-- One cleanup unlocks exactly when there is nothing to do. -/
theorem cleanupUnlocks_state_iff (s : DoorModule) :
    CleanupUnlocks s ↔ s.motor.getPosition = 0 := by
  constructor
  · intro h
    by_contra h_ne
    have h_ok : WritesOk goodGpio (stepsNeeded 180 s.motor) := fun _ _ _ => rfl
    have h_zero := h goodGpio h_ok
    rw [cleanup_locks h_ne h_ok] at h_zero
    exact absurd h_zero (by decide)
  · intro h_zero gpio _
    rw [doorModCleanup_motor, if_neg (not_not_intro h_zero), h_zero]
    rfl

/-- **The cleanup unlocks** exactly when the motor reads the unlocked position already, after every
run of operations. -/
theorem cleanupUnlocks_iff (coils : Coils) (udp : DoorUdp) (ops : List DoorOp) :
    CleanupUnlocks (run stepOp (DoorModule.initial coils udp) ops) ↔
      (run stepOp (DoorModule.initial coils udp) ops).motor.getPosition = 0 :=
  cleanupUnlocks_state_iff _

/-- A door that has been locked is not unlocked at the end. -/
theorem not_cleanupUnlocks : ¬ ∀ (coils : Coils) (udp : DoorUdp) (ops : List DoorOp),
    CleanupUnlocks (run stepOp (DoorModule.initial coils udp) ops) := by
  intro h_all
  have h_unlocks := h_all zeroPattern DoorUdp.initial [.lockDoor ⟨.UNKNOWN, 0⟩ (closedEnv goodGpio)]
  rw [cleanupUnlocks_state_iff] at h_unlocks
  -- the call has brought the motor to 180
  have h_completes : LockCompletes (closedEnv goodGpio)
      (DoorModule.initial zeroPattern DoorUdp.initial) :=
    Or.inr ⟨⟨by decide, by decide⟩, fun _ _ _ => rfl⟩
  have h_locked := (lockDoor_reaches_iff _ ⟨.UNKNOWN, 0⟩ _).mpr h_completes
  exact absurd (h_locked.symm.trans h_unlocks) (by decide)

/-! ### The program -/

/-- What a line of the command loop asks for. -/
inductive CliWord
  | quit
  | op (kind : OpKind)
  | skip

/-- A line of the command loop, by its first letter. The full words start with one of these. -/
def cliWord (line : CStr) : CliWord :=
  match (line.rdropWhile (fun c => c = '\n' || c = '\r')).dropWhile isSpace with
  | [] => .skip
  | c :: _ =>
    if c.toLower = 'q' then .quit
    else if c.toLower = 'l' then .op .lock
    else if c.toLower = 'u' then .op .unlock
    else if c.toLower = 's' then .op .status
    else .skip

/-- What happens while the command loop runs. -/
inductive SessionEv
  /-- A line from the terminal, and the answers its operation gets. -/
  | line (text : CStr) (env : CallEnv)
  /-- An iteration of the heartbeat thread. -/
  | heartbeat (distance : Reading) (now : ℤ)
  /-- A datagram for the listener. -/
  | datagram (data : List Char) (env : CallEnv)

/-- The command loop. -/
structure Session where
  module : DoorModule
  door : DoorT
  /-- The loop is left, or there is no terminal. -/
  ended : Bool

/-- One event of the command loop. -/
def execSession (s : Session) : SessionEv → Session
  | .line text env =>
    if s.ended then s
    else match cliWord text with
      | .quit => { s with ended := true }
      | .op kind =>
        let r := opCall kind env s.door s.module
        { s with module := r.state, door := r.door }
      | .skip => s
  | .heartbeat distance now => { s with module := (heartbeatWorker distance now s.module).1 }
  | .datagram data env => { s with module := (doorCmdDatagram data env s.module).1 }

/-- `LED_worker_init`. -/
def ledWorkerInit (created : Bool) (s : DoorProcess) : DoorProcess :=
  if s.gWorkerRunning then s
  else if created then
    { s with gWorkerRunning := true, threads := s.threads ++ [.created .ledWorker] }
  else s

/-- `LED_worker_shutdown`. -/
def ledWorkerShutdown (s : DoorProcess) : DoorProcess :=
  if s.gWorkerRunning then
    { s with gWorkerRunning := false, threads := s.threads ++ [.joined .ledWorker] }
  else s

/-- `door_reporting_stop`. The join of the listener is in `door_udp_close`. -/
def doorReportingStop (s : DoorProcess) : DoorProcess :=
  let listener : List ThreadEv := if s.module.udp.gCmdRunning then [.joined .listener] else []
  { s with
    module := s.module.withUdp (doorUdpClose s.module.udp)
    heartbeatRunning := false
    threads := s.threads ++ .joined .heartbeat :: listener }

/-- `doorMod_cleanup` with its threads: what becomes of the module is `doorModCleanup`, and the
reports and the LED worker are stopped. -/
def cleanupProcess (gpio : Gpio) (s : DoorProcess) : DoorProcess :=
  ledWorkerShutdown { doorReportingStop s with module := (doorModCleanup gpio s.module).1 }

/-- What the system and the user do in one run of `main`. -/
structure MainEnv where
  moduleId : CStr
  /-- `init_hc_sr04` and `StepperMotor_Init` succeed. -/
  hardwareOk : Bool
  /-- The worker thread is created in `LED_init`, or in `main`. -/
  ledInitOk : Bool
  ledWorkerOk : Bool
  now : ℤ
  socketOk : Bool
  inetPtonOk : Bool
  bindOk : Bool
  listenerOk : Bool
  heartbeatThreadOk : Bool
  tty : Bool
  session : List SessionEv
  gpio : Gpio

/-- The start of the reports in `main`. -/
def MainEnv.start (e : MainEnv) : StartCall where
  given := true
  init := ⟨12345, 12346, e.moduleId, ⟨true, true⟩, 1000, e.now, e.socketOk, e.inetPtonOk, e.bindOk,
    e.listenerOk⟩
  heartbeatThreadOk := e.heartbeatThreadOk

/-- `main` from the start of the reports on. -/
def mainReporting (e : MainEnv) (s : DoorProcess) : DoorProcess :=
  let (s, reportingRunning) := doorReportingStart e.start s
  let session := run execSession ⟨s.module, ⟨.UNKNOWN, 0⟩, !e.tty⟩ e.session
  let s := { s with module := session.module }
  cleanupProcess e.gpio (if reportingRunning then doorReportingStop s else s)

/-- `initializeDoorSystem` with its result. -/
def initializeDoorSystem (e : MainEnv) (s : DoorProcess) : DoorProcess × Bool :=
  if !e.hardwareOk then (s, false)
  else
    let s := ledWorkerInit e.ledInitOk s
    ({ s with module := s.module.withUdp (doorUdpRegisterCommandHandler s.module.udp) }, true)

/-- `main`: the program when it returns. -/
def doorModCliMain (e : MainEnv) (s : DoorProcess) : DoorProcess :=
  let (s, ok) := initializeDoorSystem e s
  if !ok then s else mainReporting e (ledWorkerInit e.ledWorkerOk s)

/-! ### Threads and their joins -/

/-- The threads that run after a log; a join needs a thread that runs. -/
def runningAfter : List Thread → List ThreadEv → Option (List Thread)
  | running, [] => some running
  | running, .created t :: es => runningAfter (t :: running) es
  | running, .joined t :: es =>
    if running.contains t then runningAfter (running.erase t) es else none

/-- **Every join is of a thread that has been created and not joined before**, and no thread is left
at the end. -/
def ThreadsJoined (log : List ThreadEv) : Prop := runningAfter [] log = some []

instance (log : List ThreadEv) : Decidable (ThreadsJoined log) :=
  inferInstanceAs (Decidable (runningAfter [] log = some []))

/-- What `main` does with its threads. -/
def mainThreads (e : MainEnv) (coils : Coils) : List ThreadEv :=
  (doorModCliMain e (DoorProcess.initial coils)).threads

/-- No report, operation or command touches the listener. -/
theorem doorUdpUpdate_cmdRunning (r : Report) (t : ℤ) (u : DoorUdp) :
    (doorUdpUpdate r t u).1.gCmdRunning = u.gCmdRunning := by
  unfold doorUdpUpdate
  dsimp only
  split_ifs <;> rfl

theorem reported_cmdRunning (env : CallEnv) (r : OpResult) :
    (r.reported env).state.udp.gCmdRunning = r.state.udp.gCmdRunning := by
  unfold OpResult.reported reportDoorStateUdp updateFrom
  dsimp only
  split_ifs
  · rfl
  · exact doorUdpUpdate_cmdRunning _ _ _

theorem opAct_cmdRunning (kind : OpKind) (env : CallEnv) (door : DoorT) (s : DoorModule) :
    (opAct kind env door s).state.udp.gCmdRunning = s.udp.gCmdRunning := by
  cases kind with
  | lock =>
    -- no branch touches the listener
    show (lockDoorAct env door s).state.udp.gCmdRunning = _
    unfold lockDoorAct rotateDoor
    dsimp only
    split_ifs <;> rfl
  | unlock =>
    show (unlockDoorAct env door s).state.udp.gCmdRunning = _
    unfold unlockDoorAct rotateDoor
    dsimp only
    split_ifs <;> rfl
  | status =>
    show (getDoorStatusAct env door s).state.udp.gCmdRunning = _
    unfold getDoorStatusAct
    dsimp only
    split_ifs <;> rfl

theorem opCall_cmdRunning (kind : OpKind) (env : CallEnv) (door : DoorT) (s : DoorModule) :
    (opCall kind env door s).state.udp.gCmdRunning = s.udp.gCmdRunning := by
  have h_call : opCall kind env door s = (opAct kind env door s).reported env := by
    cases kind <;> rfl
  rw [h_call, reported_cmdRunning, opAct_cmdRunning]

theorem doorCmdDatagram_cmdRunning (data : List Char) (env : CallEnv) (s : DoorModule) :
    (doorCmdDatagram data env s).1.udp.gCmdRunning = s.udp.gCmdRunning := by
  have h_op : ∀ action, (handlerOp action env s).1.state.udp.gCmdRunning = s.udp.gCmdRunning := by
    intro action
    unfold handlerOp
    dsimp only
    split_ifs
    · exact opCall_cmdRunning .lock env _ s
    · exact opCall_cmdRunning .unlock env _ s
    · exact opCall_cmdRunning .status env _ s
    · rfl
  unfold doorCmdDatagram
  split
  · -- with a handler and a complete line the operation runs
    split_ifs
    · exact h_op _
    · rfl
    · rfl
  · rfl

/-- **Step.** -/
theorem execSession_cmdRunning (s : Session) (e : SessionEv) :
    (execSession s e).module.udp.gCmdRunning = s.module.udp.gCmdRunning := by
  cases e with
  | line text env =>
    unfold execSession
    dsimp only
    split_ifs
    · rfl
    · cases cliWord text with
      | quit => rfl
      | op kind => exact opCall_cmdRunning kind env s.door s.module
      | skip => rfl
  | heartbeat distance now => exact doorUdpUpdate_cmdRunning _ _ _
  | datagram data env => exact doorCmdDatagram_cmdRunning data env s.module

/-- **Run.** -/
theorem session_cmdRunning (s : Session) (es : List SessionEv) :
    (run execSession s es).module.udp.gCmdRunning = s.module.udp.gCmdRunning := by
  refine run_invariant (fun s' : Session => s'.module.udp.gCmdRunning = s.module.udp.gCmdRunning)
    (fun s' e h => ?_) rfl es
  rw [execSession_cmdRunning]
  exact h

/-- The listener is created. -/
def MainEnv.listens (e : MainEnv) : Bool :=
  e.socketOk && e.inetPtonOk && e.bindOk && e.listenerOk

/-- The LED worker is created, at one of the two places. -/
def MainEnv.blinks (e : MainEnv) : Bool := e.ledInitOk || e.ledWorkerOk

/-- The events of a thread that may not be there. -/
def eventsIf (b : Bool) (e : ThreadEv) : List ThreadEv := if b then [e] else []

/-- The transport of `main` starts, and its listener runs, when the four system calls succeed. -/
theorem doorUdpInit2_listens (e : MainEnv) {u : DoorUdp} (h_closed : u.gCmdRunning = false) :
    (doorUdpInit2 e.start.transport u).2.1 = e.listens ∧
      (doorUdpInit2 e.start.transport u).1.gCmdRunning = e.listens := by
  have h_ports : e.start.transport.notifPort ≠ e.start.transport.hbPort :=
    show (12345 : ℕ) ≠ 12346 by decide
  unfold doorUdpInit2 MainEnv.listens
  rw [if_neg h_ports]
  unfold MainEnv.start StartCall.transport
  dsimp only
  -- a call that fails before the last one leaves the flag as it was
  cases e.socketOk <;> cases e.inetPtonOk <;> cases e.bindOk <;> cases e.listenerOk <;>
    first | exact ⟨rfl, rfl⟩ | exact ⟨rfl, h_closed⟩

/-- **The start** creates the listener and the heartbeat thread, each if the system lets it. -/
theorem doorReportingStart_threads (e : MainEnv) {s : DoorProcess}
    (h_closed : s.module.udp.gCmdRunning = false) :
    (doorReportingStart e.start s).1.threads = s.threads ++ eventsIf e.listens (.created .listener)
        ++ eventsIf e.heartbeatThreadOk (.created .heartbeat) ∧
      (doorReportingStart e.start s).1.module.udp.gCmdRunning = e.listens ∧
      (doorReportingStart e.start s).1.gWorkerRunning = s.gWorkerRunning := by
  obtain ⟨h_ok, h_running⟩ :=
    doorUdpInit2_listens e (u := doorUdpRegisterCommandHandler s.module.udp) h_closed
  -- `main` gives two ports, so that the listener comes with the transport
  have h_listener : (if (e.listens && decide (e.start.init.notifPort ≠ e.start.init.hbPort)) = true
      then [ThreadEv.created .listener] else []) = eventsIf e.listens (.created .listener) := by
    have h_ports : decide (e.start.init.notifPort ≠ e.start.init.hbPort) = true :=
      show decide ((12345 : ℕ) ≠ 12346) = true by decide
    rw [h_ports, Bool.and_true]
    rfl
  have h_given : ¬ (!e.start.given) = true := show ¬ (!true) = true by decide
  have h_thread : e.start.heartbeatThreadOk = e.heartbeatThreadOk := rfl
  unfold doorReportingStart
  rw [if_neg h_given]
  dsimp only
  rw [h_ok, h_listener, h_thread]
  cases e.heartbeatThreadOk with
  | false => exact ⟨(List.append_nil _).symm, h_running, rfl⟩
  | true => exact ⟨rfl, h_running, rfl⟩

/-- The end of `main`, after the command loop. -/
theorem cleanupProcess_threads (gpio : Gpio) (s : DoorProcess) :
    (cleanupProcess gpio s).threads = s.threads ++ .joined .heartbeat ::
      (eventsIf s.module.udp.gCmdRunning (.joined .listener)
        ++ eventsIf s.gWorkerRunning (.joined .ledWorker)) := by
  unfold cleanupProcess ledWorkerShutdown doorReportingStop
  dsimp only
  cases s.gWorkerRunning
  · simp [eventsIf]
  · simp [eventsIf]

/-- The LED worker is created once. -/
theorem ledWorkerInit_spec (created : Bool) (s : DoorProcess) :
    (ledWorkerInit created s).module = s.module ∧
      (ledWorkerInit created s).gWorkerRunning = (s.gWorkerRunning || created) ∧
      (ledWorkerInit created s).threads
        = s.threads ++ eventsIf (!s.gWorkerRunning && created) (.created .ledWorker) := by
  unfold ledWorkerInit
  cases h_running : s.gWorkerRunning with
  | true => exact ⟨rfl, h_running, (List.append_nil _).symm⟩
  | false =>
    cases created with
    | true => exact ⟨rfl, rfl, rfl⟩
    | false => exact ⟨rfl, h_running, (List.append_nil _).symm⟩

/-- The program when `main` starts the reports. -/
theorem doorModCliMain_reporting (e : MainEnv) (coils : Coils) (h_hardware : e.hardwareOk = true) :
    ∃ s : DoorProcess, doorModCliMain e (DoorProcess.initial coils) = mainReporting e s ∧
      s.module.udp.gCmdRunning = false ∧
      s.threads = eventsIf e.blinks (.created .ledWorker) ∧ s.gWorkerRunning = e.blinks := by
  unfold doorModCliMain initializeDoorSystem
  rw [h_hardware]
  refine ⟨_, rfl, ?_, ?_, ?_⟩
  · -- neither the LED worker nor the command handler touches the listener
    rw [(ledWorkerInit_spec _ _).1]
    dsimp only
    rw [(ledWorkerInit_spec _ _).1]
    rfl
  · rw [(ledWorkerInit_spec _ _).2.2]
    dsimp only
    rw [(ledWorkerInit_spec _ _).2.1, (ledWorkerInit_spec _ _).2.2]
    unfold MainEnv.blinks
    -- the second attempt creates the worker only when the first one has failed
    cases e.ledInitOk <;> cases e.ledWorkerOk <;> rfl
  · rw [(ledWorkerInit_spec _ _).2.1]
    dsimp only
    rw [(ledWorkerInit_spec _ _).2.1]
    rfl

/-- **The threads of `main`**, in the order in which it creates and joins them. -/
theorem mainThreads_eq (e : MainEnv) (coils : Coils) (h_hardware : e.hardwareOk = true) :
    mainThreads e coils = eventsIf e.blinks (.created .ledWorker)
      ++ eventsIf e.listens (.created .listener)
      ++ eventsIf e.heartbeatThreadOk (.created .heartbeat)
      ++ (if e.heartbeatThreadOk then
          .joined .heartbeat :: eventsIf e.listens (.joined .listener) else [])
      ++ .joined .heartbeat :: (eventsIf (e.listens && !e.heartbeatThreadOk) (.joined .listener)
        ++ eventsIf e.blinks (.joined .ledWorker)) := by
  obtain ⟨s, h_main, h_closed, h_threads, h_led⟩ := doorModCliMain_reporting e coils h_hardware
  obtain ⟨h_start, h_running, h_worker⟩ := doorReportingStart_threads e h_closed
  have h_result : (doorReportingStart e.start s).2 = e.heartbeatThreadOk := by
    rw [doorReportingStart_ok]
    rfl
  unfold mainThreads
  rw [h_main]
  unfold mainReporting
  dsimp only
  rw [h_result, cleanupProcess_threads]
  cases h_heartbeat : e.heartbeatThreadOk with
  | false =>
    -- only the cleanup stops the reports
    rw [if_neg (by decide), if_neg (by decide)]
    dsimp only
    rw [session_cmdRunning, h_running, h_start, h_worker, h_led, h_threads, h_heartbeat]
    simp [eventsIf]
  | true =>
    -- `main` stops them first, and the cleanup finds the listener stopped
    rw [if_pos rfl, if_pos rfl]
    unfold doorReportingStop
    dsimp only
    rw [session_cmdRunning, h_running, h_start, h_worker, h_led, h_threads, h_heartbeat]
    simp [eventsIf, DoorModule.withUdp, doorUdpClose]

/-- The events of the threads other than the heartbeat. -/
def guardedEvents (log : List ThreadEv) : List ThreadEv :=
  log.filter fun e => e ≠ .created .heartbeat && e ≠ .joined .heartbeat

/-- **The listener and the LED worker are joined once**: their flags guard the joins. -/
theorem listener_joined (e : MainEnv) (coils : Coils) :
    ThreadsJoined (guardedEvents (mainThreads e coils)) := by
  cases h_hardware : e.hardwareOk with
  | false =>
    unfold mainThreads doorModCliMain initializeDoorSystem
    rw [h_hardware]
    rfl
  | true =>
    rw [mainThreads_eq e coils h_hardware]
    unfold guardedEvents eventsIf
    cases e.blinks <;> cases e.listens <;> cases e.heartbeatThreadOk <;> decide

/-- **Every join is of a thread that runs** exactly when `main` gives up before it starts any. In
every run the joins of the other threads are. -/
theorem threadsJoined_iff (e : MainEnv) (coils : Coils) :
    (ThreadsJoined (mainThreads e coils) ↔ e.hardwareOk = false) ∧
      ThreadsJoined (guardedEvents (mainThreads e coils)) := by
  refine ⟨?_, listener_joined e coils⟩
  cases h_hardware : e.hardwareOk with
  | false =>
    refine iff_of_true ?_ rfl
    unfold mainThreads doorModCliMain initializeDoorSystem
    rw [h_hardware]
    rfl
  | true =>
    rw [mainThreads_eq e coils h_hardware]
    refine iff_of_false ?_ (by simp)
    unfold eventsIf
    -- one join of the heartbeat thread too many, whether it has been created or not
    cases e.blinks <;> cases e.listens <;> cases e.heartbeatThreadOk <;> decide

/-- A run in which everything succeeds, up to the letter that quits. -/
def quitEnv : MainEnv where
  moduleId := "D1".toList
  hardwareOk := true
  ledInitOk := true
  ledWorkerOk := true
  now := 0
  socketOk := true
  inetPtonOk := true
  bindOk := true
  listenerOk := true
  heartbeatThreadOk := true
  tty := true
  session := [.line "q\n".toList (closedEnv goodGpio)]
  gpio := goodGpio

/-- Such a run joins the heartbeat thread twice. -/
theorem not_threadsJoined :
    ¬ ∀ (e : MainEnv) (coils : Coils), ThreadsJoined (mainThreads e coils) := by
  intro h_all
  have h_joined := h_all quitEnv zeroPattern
  rw [mainThreads_eq _ _ rfl] at h_joined
  exact absurd h_joined (by decide)

end Door

end DoorSystem
