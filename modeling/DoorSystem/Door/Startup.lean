import DoorSystem.Door.DoorMod

/-!
# Starting the reports

`door_reporting_start` starts the transport with `door_udp_init2` and then the heartbeat thread. It
logs a failure of the transport and goes on, so that its result is the one of the heartbeat thread
alone (`doorReportingStart_ok`). `startup_contract` says what its callers can rely on.

`DoorProcess` also logs the threads that are created and joined, for `Door.Cleanup`.
-/

namespace DoorSystem

open CLib

namespace Door

/-! ### Threads -/

/-- The threads of the program besides the main one. -/
inductive Thread
  | heartbeat
  /-- `door_cmd_thread`. -/
  | listener
  | ledWorker
deriving DecidableEq

/-- A successful `pthread_create`, or a call of `pthread_join`. -/
inductive ThreadEv
  | created (t : Thread)
  | joined (t : Thread)
deriving DecidableEq

/-- The state of the program. -/
structure DoorProcess where
  module : DoorModule
  /-- `__heartbeat_running`. -/
  heartbeatRunning : Bool
  /-- `g_worker_running` of the LED worker. -/
  gWorkerRunning : Bool
  /-- The threads created and joined so far. -/
  threads : List ThreadEv

/-- The state with another transport. -/
def DoorModule.withUdp (udp : DoorUdp) (s : DoorModule) : DoorModule := { s with udp := udp }

/-! ### The start -/

/-- The arguments of `door_reporting_start` and the outcomes of its system calls. -/
structure StartCall where
  /-- `hub_ip` and `module_id` are given. -/
  given : Bool
  /-- The other arguments, and the outcomes in `door_udp_init2`. -/
  init : InitCall
  heartbeatThreadOk : Bool

/-- The call of `door_udp_init2`: both modes are on. -/
def StartCall.transport (c : StartCall) : InitCall := { c.init with mode := ⟨true, true⟩ }

/-- `door_reporting_start` with its result. -/
def doorReportingStart (c : StartCall) (s : DoorProcess) : DoorProcess × Bool :=
  if !c.given then (s, false)
  else
    let udp := doorUdpRegisterCommandHandler s.module.udp
    -- a failure is logged and no more
    let (udp, transportOk, _) := doorUdpInit2 c.transport udp
    -- with one port there is no listener
    let listener : List ThreadEv :=
      if transportOk && c.init.notifPort ≠ c.init.hbPort then [.created .listener] else []
    let s := { s with module := s.module.withUdp udp, threads := s.threads ++ listener }
    if c.heartbeatThreadOk then
      ({ s with heartbeatRunning := true, threads := s.threads ++ [.created .heartbeat] }, true)
    else ({ s with heartbeatRunning := false }, false)

/-- The datagrams of the calls of `door_udp_update` with the given reports, each with its time. -/
def updatesSend : DoorUdp → List (Report × ℤ) → List DoorOut
  | _, [] => []
  | u, (r, t) :: rs => (doorUdpUpdate r t u).2 ++ updatesSend (doorUdpUpdate r t u).1 rs

/-! ### What the callers can rely on -/

/-- On a closed socket no update sends anything. -/
theorem updatesSend_of_closed {u : DoorUdp} (h : u.gSockOpen = false) (rs : List (Report × ℤ)) :
    updatesSend u rs = [] := by
  induction rs with
  | nil => rfl
  | cons r rs ih =>
    obtain ⟨r, t⟩ := r
    have h_update : doorUdpUpdate r t u = (u, []) := by
      unfold doorUdpUpdate
      rw [h]
      rfl
    unfold updatesSend
    rw [h_update]
    exact ih

/-- A system call of `door_udp_init2` fails that comes before the creation of the listener. -/
def InitCall.FailsEarly (c : InitCall) : Prop :=
  c.socketOk = false ∨ c.inetPtonOk = false ∨ c.bindOk = false

/-- A start that gives up at one of them leaves the socket as it was. -/
theorem doorUdpInit2_failsEarly {c : InitCall} (h_fails : c.FailsEarly) {u : DoorUdp}
    (h_result : (doorUdpInit2 c u).2.1 = false) :
    (doorUdpInit2 c u).1.gSockOpen = u.gSockOpen := by
  unfold doorUdpInit2 at h_result ⊢
  split_ifs at h_result ⊢ with h_ports h_socket h_pton h_bind h_thread
  · -- one port: the old initialisation
    unfold doorUdpInit at h_result ⊢
    dsimp only at h_result ⊢
    split_ifs at h_result ⊢
    · rfl
    · rfl
  · rfl
  · rfl
  · rfl
  · -- only the listener is missing
    exact absurd h_fails (by simp_all [InitCall.FailsEarly])

/-- With two ports each of these failures ends the start. -/
theorem doorUdpInit2_fails {c : InitCall} (h_ports : c.notifPort ≠ c.hbPort)
    (h_fails : c.FailsEarly) (u : DoorUdp) : (doorUdpInit2 c u).2.1 = false := by
  unfold doorUdpInit2
  rw [if_neg h_ports]
  dsimp only
  split_ifs with h_socket h_pton h_bind h_thread
  · rfl
  · rfl
  · rfl
  · rfl
  · exact absurd h_fails (by simp_all [InitCall.FailsEarly])

/-- The transport after `door_reporting_start` is the one that `door_udp_init2` leaves. -/
theorem doorReportingStart_udp {c : StartCall} (h_given : c.given = true) (s : DoorProcess) :
    (doorReportingStart c s).1.module.udp
      = (doorUdpInit2 c.transport (doorUdpRegisterCommandHandler s.module.udp)).1 := by
  unfold doorReportingStart
  rw [h_given]
  dsimp only
  cases c.heartbeatThreadOk <;> rfl

/-- The result is the one of the heartbeat thread. -/
theorem doorReportingStart_ok (c : StartCall) (s : DoorProcess) :
    (doorReportingStart c s).2 = (c.given && c.heartbeatThreadOk) := by
  unfold doorReportingStart
  cases c.given
  · rfl
  · cases c.heartbeatThreadOk <;> rfl

/-- The program after `door_udp_close`, as before its first start. -/
def DoorProcess.closed (s : DoorProcess) : DoorProcess :=
  { s with module := s.module.withUdp (doorUdpClose s.module.udp) }

/-- **Start-up is all or nothing**: a `door_udp_init2` that fails leaves nothing that sends, and a
`door_reporting_start` that succeeds has started the transport. -/
structure AllOrNothing (c : StartCall) (s : DoorProcess) : Prop where
  init_fails : (doorUdpInit2 c.init s.closed.module.udp).2.1 = false →
    (doorUdpInit2 c.init s.closed.module.udp).1.gSockOpen = false ∧
      ∀ rs, updatesSend (doorUdpInit2 c.init s.closed.module.udp).1 rs = []
  start_ok : (doorReportingStart c s.closed).2 = true →
    (doorReportingStart c s.closed).1.module.udp.gSockOpen = true ∧
      (doorReportingStart c s.closed).1.module.udp.gCmdRunning = true

/-- **The contract of a start**, from a closed transport. -/
structure StartupContract (c : StartCall) (s : DoorProcess) : Prop where
  /-- A transport that gives up at its socket, its addresses or its bind sends nothing. -/
  init_fails : c.init.FailsEarly → (doorUdpInit2 c.init s.closed.module.udp).2.1 = false →
    (doorUdpInit2 c.init s.closed.module.udp).1.gSockOpen = false ∧
      ∀ rs, updatesSend (doorUdpInit2 c.init s.closed.module.udp).1 rs = []
  /-- With two ports it does give up at each of them. -/
  init_gives_up : c.init.notifPort ≠ c.init.hbPort → c.init.FailsEarly →
    (doorUdpInit2 c.init s.closed.module.udp).2.1 = false
  /-- The heartbeat thread may run without the transport. -/
  start_ok : (doorReportingStart c s.closed).2 = true ↔
    c.given = true ∧ c.heartbeatThreadOk = true
  /-- With the transport, the socket is open, and with two ports the listener runs. -/
  transport_ok : (doorReportingStart c s.closed).2 = true →
    (doorUdpInit2 c.transport (doorUdpRegisterCommandHandler s.closed.module.udp)).2.1 = true →
      (doorReportingStart c s.closed).1.module.udp.gSockOpen = true ∧
        (c.init.notifPort ≠ c.init.hbPort →
          (doorReportingStart c s.closed).1.module.udp.gCmdRunning = true)
  /-- Without it, the heartbeat thread sends nothing. -/
  transport_fails : c.init.FailsEarly →
    (doorUdpInit2 c.transport (doorUdpRegisterCommandHandler s.closed.module.udp)).2.1 = false →
      (doorReportingStart c s.closed).1.module.udp.gSockOpen = false ∧
        ∀ rs, updatesSend (doorReportingStart c s.closed).1.module.udp rs = []

theorem startup_contract (c : StartCall) (s : DoorProcess) : StartupContract c s := by
  have h_closed : s.closed.module.udp.gSockOpen = false := rfl
  refine ⟨fun h_fails h_result => ?_, fun h_ports h_fails => doorUdpInit2_fails h_ports h_fails _,
    ?_, fun h_ok h_transport => ?_, fun h_fails h_result => ?_⟩
  · have h_sock := doorUdpInit2_failsEarly h_fails h_result
    rw [h_closed] at h_sock
    exact ⟨h_sock, updatesSend_of_closed h_sock⟩
  · rw [doorReportingStart_ok, Bool.and_eq_true]
  · rw [doorReportingStart_ok, Bool.and_eq_true] at h_ok
    rw [doorReportingStart_udp h_ok.1]
    refine ⟨(doorUdpInit2_started h_transport).1, fun h_ports => ?_⟩
    rw [doorUdpInit2_ok (c := c.transport) h_ports h_transport]
  · have h_sock : (doorReportingStart c s.closed).1.module.udp.gSockOpen = false := by
      cases h_given : c.given with
      | false =>
        -- the transport is not even started
        unfold doorReportingStart
        rw [h_given]
        rfl
      | true =>
        rw [doorReportingStart_udp h_given]
        exact doorUdpInit2_failsEarly (c := c.transport) h_fails h_result
    exact ⟨h_sock, updatesSend_of_closed h_sock⟩

/-- The program before `main`. -/
def DoorProcess.initial (coils : Coils) : DoorProcess where
  module := DoorModule.initial coils DoorUdp.initial
  heartbeatRunning := false
  gWorkerRunning := false
  threads := []

/-- A start in which there is no socket. -/
def noSocketStart : StartCall where
  given := true
  init := ⟨12345, 12346, "D1".toList, ⟨true, true⟩, 1000, 0, false, true, true, true⟩
  heartbeatThreadOk := true

/-- The start succeeds without a socket. -/
theorem not_allOrNothing :
    ¬ ∀ (c : StartCall) (s : DoorProcess), AllOrNothing c s := by
  intro h_all
  have h_start := (h_all noSocketStart (DoorProcess.initial zeroPattern)).start_ok rfl
  exact absurd h_start.1 (by decide)

end Door

end DoorSystem
