import DoorSystem.Hub.Line

/-!
# The receiver thread of the hub

`udp_thread` waits with `select` for the two sockets of the hub and then empties one of them,
`g_sock` before `g_sock2`. It reads until the socket is empty, and only then checks for silent
modules and looks at `g_stopping` again.

The machine is the thread step by step, with the datagrams that arrive meanwhile, the command
numbers that local calls take, and the call of `hub_udp_shutdown` that waits for the thread.
`receiver_contract` says what holds of every run: each socket is read in order and each datagram
once, and the hub is what the handled datagrams and the checks make of it. As long as the socket
that is being read does not run empty, nothing else happens: no check, nothing from the other
socket, and no end of the thread. Undisturbed, the thread comes to the end of what is there.
-/

namespace DoorSystem

open CLib

namespace Hub

/-! ### The thread -/

/-- The two sockets. -/
inductive HubSock
  | gSock
  | gSock2
deriving DecidableEq

/-- A datagram with its sender. -/
structure Datagram where
  data : List Char
  src : SockAddr
deriving DecidableEq

/-- Where `udp_thread` is. -/
inductive ReceiverPc
  /-- At the test of `g_stopping`. -/
  | top
  /-- In the loop over `recvfrom`, with this socket as `fd`. -/
  | draining (fd : HubSock)
  /-- At `check_offline_modules`. -/
  | checking
  | returned
deriving DecidableEq

/-- The hub with its sockets and its thread. -/
structure Receiver where
  hub : HubState
  gStopping : Bool
  /-- `g_sock2 >= 0`. -/
  gSock2Open : Bool
  /-- What has arrived at a socket and is not received yet. -/
  waiting : HubSock → List Datagram
  pc : ReceiverPc

/-- The result of `select`. -/
inductive SelectResult
  | interrupted
  | failed
  | timeout
  | ready (rfds : HubSock → Bool)

/-- The result of `recvfrom`. It is the first datagram, or `EWOULDBLOCK` when there is none, unless
the call is interrupted or fails. -/
inductive RecvResult
  | interrupted
  | failed
  /-- With the clock readings of `handle_line`. -/
  | next (t tReg : ℤ)

inductive ReceiverEv
  /-- A datagram arrives. -/
  | arrive (fd : HubSock) (d : Datagram)
  /-- The thread tests `g_stopping` and calls `select`. -/
  | select (r : SelectResult)
  /-- The thread calls `recvfrom`. -/
  | recv (r : RecvResult)
  /-- The thread checks for silent modules. -/
  | check (now : ℤ)
  /-- A local `hub_udp_send_command` takes a command number. -/
  | alloc
  /-- `hub_udp_shutdown` sets `g_stopping`. -/
  | stop

/-- What a step shows. -/
inductive ReceiverOut
  | arrived (fd : HubSock) (d : Datagram)
  | received (fd : HubSock) (d : Datagram)
  /-- The hub runs one of its critical sections. -/
  | hub (e : HubEv)

/-- The socket that is chosen after `select`. -/
def chooseFd (gSock2Open : Bool) (rfds : HubSock → Bool) : Option HubSock :=
  if rfds .gSock then some .gSock
  else if gSock2Open && rfds .gSock2 then some .gSock2
  else none

/-- One step: the state afterwards and what it shows. A step that is not the thread's next one does
nothing. -/
def execReceiver (s : Receiver) : ReceiverEv → Receiver × List ReceiverOut
  | .arrive fd d =>
    -- nobody listens on a port without a socket
    if fd = .gSock2 ∧ s.gSock2Open = false then (s, [])
    else
      ({ s with waiting := Function.update s.waiting fd (s.waiting fd ++ [d]) }, [.arrived fd d])
  | .select r =>
    if s.pc ≠ .top then (s, [])
    else if s.gStopping then ({ s with pc := .returned }, [])
    else
      match r with
      -- `continue`
      | .interrupted | .failed => (s, [])
      | .timeout => ({ s with pc := .checking }, [])
      | .ready rfds =>
        match chooseFd s.gSock2Open rfds with
        | some fd => ({ s with pc := .draining fd }, [])
        | none => (s, [])
  | .recv r =>
    match s.pc with
    | .draining fd =>
      match r with
      | .interrupted => (s, [])
      | .failed => ({ s with pc := .checking }, [])
      | .next t tReg =>
        match s.waiting fd with
        -- `EWOULDBLOCK`
        | [] => ({ s with pc := .checking }, [])
        | d :: rest =>
          let s := { s with waiting := Function.update s.waiting fd rest }
          -- `n == 0`
          if d.data = [] then ({ s with pc := .checking }, [.received fd d])
          else
            ({ s with hub := step s.hub (.datagram d.data d.src t tReg) },
              [.received fd d, .hub (.datagram d.data d.src t tReg)])
    | _ => (s, [])
  | .check now =>
    if s.pc ≠ .checking then (s, [])
    else ({ s with hub := step s.hub (.check now), pc := .top }, [.hub (.check now)])
  | .alloc => ({ s with hub := step s.hub .alloc }, [.hub .alloc])
  | .stop => ({ s with gStopping := true }, [])

/-- The hub as `hub_udp_init` leaves it. -/
def Receiver.initial (url : CharBuf 512) (gSock2Open : Bool) : Receiver where
  hub := HubState.initial url
  gStopping := false
  gSock2Open := gSock2Open
  waiting := fun _ => []
  pc := .top

/-- The receiver and what it has shown, after the steps `es`. -/
def received (url : CharBuf 512) (gSock2Open : Bool) (es : List ReceiverEv) :
    Receiver × List ReceiverOut :=
  run (logged execReceiver) (Receiver.initial url gSock2Open, []) es

/-! ### The logs -/

/-- What has arrived at a socket. -/
def ReceiverOut.arrived? (fd : HubSock) : ReceiverOut → Option Datagram
  | .arrived fd' d => if fd' = fd then some d else none
  | _ => none

/-- What has been received from a socket. -/
def ReceiverOut.received? (fd : HubSock) : ReceiverOut → Option Datagram
  | .received fd' d => if fd' = fd then some d else none
  | _ => none

/-- A datagram that is not empty has been received. -/
def ReceiverOut.line? : ReceiverOut → Option Datagram
  | .received _ d => if d.data = [] then none else some d
  | _ => none

/-- The critical sections of the hub. -/
def ReceiverOut.hub? : ReceiverOut → Option HubEv
  | .hub e => some e
  | _ => none

/-- A datagram is handled. -/
def HubEv.datagram? : HubEv → Option Datagram
  | .datagram data src _ _ => some ⟨data, src⟩
  | _ => none

/-- Silent modules are checked for. -/
def HubEv.isCheck : HubEv → Bool
  | .check _ => true
  | _ => false

/-- What has run in the hub. -/
def hubEvs (outs : List ReceiverOut) : List HubEv := outs.filterMap ReceiverOut.hub?

/-- **Invariant.** -/
structure ReceiverInv (url : CharBuf 512) (r : Receiver × List ReceiverOut) : Prop where
  /-- A socket is read in order, and each datagram once. -/
  fifo : ∀ fd, r.2.filterMap (ReceiverOut.arrived? fd)
    = r.2.filterMap (ReceiverOut.received? fd) ++ r.1.waiting fd
  /-- What is handled is what has been received, but for the empty datagrams. -/
  handled : (hubEvs r.2).filterMap HubEv.datagram? = r.2.filterMap ReceiverOut.line?
  hub_eq : r.1.hub = reached url (hubEvs r.2)
  closed : r.1.gSock2Open = false → r.1.waiting .gSock2 = []
  returned_imp : r.1.pc = .returned → r.1.gStopping = true

theorem ReceiverInv.initial (url : CharBuf 512) (gSock2Open : Bool) :
    ReceiverInv url (Receiver.initial url gSock2Open, []) where
  fifo := fun _ => rfl
  handled := rfl
  hub_eq := rfl
  closed := fun _ => rfl
  returned_imp := fun h => absurd h (by simp [Receiver.initial])

/-- The steps that end the reading of a socket: a failure, an empty datagram, or an empty socket. -/
def EndsDrain (s : Receiver) : ReceiverEv → Prop
  | .recv .failed => True
  | .recv (.next _ _) => ∀ fd, s.pc = .draining fd → ∀ d ∈ (s.waiting fd).head?, d.data = []
  | _ => False

/-- All that one step can do. -/
inductive ReceiverMove (s : Receiver) (e : ReceiverEv) : Receiver × List ReceiverOut → Prop
  | none : ReceiverMove s e (s, [])
  | arrive (fd : HubSock) (d : Datagram) (h_open : fd = .gSock2 → s.gSock2Open = true) :
    ReceiverMove s e
      ({ s with waiting := Function.update s.waiting fd (s.waiting fd ++ [d]) }, [.arrived fd d])
  /-- The thread goes on to somewhere else. -/
  | goto (pc : ReceiverPc) (h_returned : pc = .returned → s.gStopping = true)
      (h_left : ∀ fd, s.pc = .draining fd → EndsDrain s e)
      (h_second : pc = .draining .gSock2 →
        ∃ rfds, e = .select (.ready rfds) ∧ rfds .gSock = false) :
    ReceiverMove s e ({ s with pc := pc }, [])
  | empty (fd : HubSock) (d : Datagram) (rest : List Datagram) (h_pc : s.pc = .draining fd)
      (h_waiting : s.waiting fd = d :: rest) (h_data : d.data = []) (h_left : EndsDrain s e) :
    ReceiverMove s e
      ({ s with waiting := Function.update s.waiting fd rest, pc := .checking }, [.received fd d])
  | line (fd : HubSock) (d : Datagram) (rest : List Datagram) (t tReg : ℤ)
      (h_pc : s.pc = .draining fd) (h_waiting : s.waiting fd = d :: rest) (h_data : d.data ≠ []) :
    ReceiverMove s e
      ({ s with
          waiting := Function.update s.waiting fd rest
          hub := step s.hub (.datagram d.data d.src t tReg) },
        [.received fd d, .hub (.datagram d.data d.src t tReg)])
  | check (now : ℤ) (h_pc : s.pc = .checking) :
    ReceiverMove s e ({ s with hub := step s.hub (.check now), pc := .top }, [.hub (.check now)])
  | alloc : ReceiverMove s e ({ s with hub := step s.hub .alloc }, [.hub .alloc])
  | stop : ReceiverMove s e ({ s with gStopping := true }, [])

/-- `g_sock2` is chosen only when `g_sock` is not ready. -/
theorem not_ready_of_chooseFd {gSock2Open : Bool} {rfds : HubSock → Bool}
    (h : chooseFd gSock2Open rfds = some .gSock2) : rfds .gSock = false := by
  by_contra h_ready
  unfold chooseFd at h
  rw [if_pos (by simpa using h_ready)] at h
  exact absurd h (by simp)

theorem execReceiver_select (s : Receiver) (r : SelectResult) :
    ReceiverMove s (.select r) (execReceiver s (.select r)) := by
  dsimp only [execReceiver]
  split_ifs with h_pc h_stopping
  · exact .none
  · exact .goto .returned (fun _ => h_stopping) (by simp [not_not.mp h_pc]) (by simp)
  · cases r with
    | interrupted => exact .none
    | failed => exact .none
    | timeout => exact .goto .checking (by simp) (by simp [not_not.mp h_pc]) (by simp)
    | ready rfds =>
      dsimp only
      -- the first socket is looked at before the second one
      cases h_fd : chooseFd s.gSock2Open rfds with
      | none => exact .none
      | some fd =>
        refine .goto (.draining fd) (by simp) (by simp [not_not.mp h_pc]) fun h_second => ?_
        obtain rfl := ReceiverPc.draining.inj h_second
        exact ⟨rfds, rfl, not_ready_of_chooseFd h_fd⟩

theorem execReceiver_recv (s : Receiver) (r : RecvResult) :
    ReceiverMove s (.recv r) (execReceiver s (.recv r)) := by
  dsimp only [execReceiver]
  cases h_pc : s.pc with
  | draining fd =>
    cases r with
    | interrupted => exact .none
    | failed => exact .goto .checking (by simp) (fun _ _ => trivial) (by simp)
    | next t tReg =>
      -- a read ends the loop when the socket is empty, or its datagram is
      have h_ends : (∀ d ∈ (s.waiting fd).head?, d.data = []) →
          EndsDrain s (.recv (.next t tReg)) := by
        intro h_head fd' h_fd'
        obtain rfl : fd = fd' := ReceiverPc.draining.inj (h_pc.symm.trans h_fd')
        exact h_head
      dsimp only
      cases h_waiting : s.waiting fd with
      -- nothing there: the loop ends
      | nil => exact .goto .checking (by simp) (fun _ _ => h_ends (by simp [h_waiting])) (by simp)
      | cons d rest =>
        dsimp only
        split_ifs with h_data
        · -- an empty datagram is taken for an end as well
          exact .empty fd d rest h_pc h_waiting h_data (h_ends (by simp [h_waiting, h_data]))
        · have h_line := ReceiverMove.line (e := .recv (.next t tReg)) fd d rest t tReg h_pc
            h_waiting h_data
          rw [h_pc] at h_line
          exact h_line
  | top => exact .none
  | checking => exact .none
  | returned => exact .none

theorem execReceiver_move (s : Receiver) (e : ReceiverEv) :
    ReceiverMove s e (execReceiver s e) := by
  cases e with
  | arrive fd d =>
    dsimp only [execReceiver]
    split_ifs with h_closed
    · exact .none
    · -- a datagram for a socket that is open
      refine .arrive fd d fun h_fd => ?_
      by_contra h_open
      exact h_closed ⟨h_fd, Bool.eq_false_iff.mpr h_open⟩
  | select r => exact execReceiver_select s r
  | recv r => exact execReceiver_recv s r
  | check now =>
    dsimp only [execReceiver]
    split_ifs with h_pc
    · exact .none
    · exact .check now (not_not.mp h_pc)
  | alloc => exact .alloc
  | stop => exact .stop

/-- A datagram is taken from a socket. -/
theorem fifo_take {s : Receiver} {log : List ReceiverOut}
    (h_fifo : ∀ fd, log.filterMap (ReceiverOut.arrived? fd)
      = log.filterMap (ReceiverOut.received? fd) ++ s.waiting fd)
    {fd : HubSock} {d : Datagram} {rest : List Datagram} (h_waiting : s.waiting fd = d :: rest)
    (fd' : HubSock) :
    log.filterMap (ReceiverOut.arrived? fd')
      = (log ++ [ReceiverOut.received fd d]).filterMap (ReceiverOut.received? fd')
        ++ Function.update s.waiting fd rest fd' := by
  rw [h_fifo fd', List.filterMap_append]
  by_cases h_fd : fd = fd'
  · subst h_fd
    rw [h_waiting, Function.update_self]
    simp [ReceiverOut.received?]
  · rw [Function.update_of_ne (Ne.symm h_fd)]
    simp [ReceiverOut.received?, h_fd]

/-- A socket that is not open has nothing to take. -/
theorem closed_take {s : Receiver} (h_closed : s.gSock2Open = false → s.waiting .gSock2 = [])
    {fd : HubSock} {d : Datagram} {rest : List Datagram} (h_waiting : s.waiting fd = d :: rest)
    (h : s.gSock2Open = false) : Function.update s.waiting fd rest .gSock2 = [] := by
  have h_fd : HubSock.gSock2 ≠ fd := by
    rintro rfl
    rw [h_closed h] at h_waiting
    exact absurd h_waiting (by simp)
  rw [Function.update_of_ne h_fd]
  exact h_closed h

/-- **Step.** -/
theorem ReceiverInv.step {url : CharBuf 512} {r : Receiver × List ReceiverOut}
    (inv : ReceiverInv url r) (e : ReceiverEv) :
    ReceiverInv url (logged execReceiver r e) := by
  obtain ⟨s, log⟩ := r
  have h_fifo := inv.fifo
  have h_handled := inv.handled
  have h_hub := inv.hub_eq
  have h_closed := inv.closed
  have h_returned := inv.returned_imp
  dsimp only at h_fifo h_handled h_hub h_closed h_returned
  unfold hubEvs at h_handled h_hub
  have h_move := execReceiver_move s e
  unfold logged
  generalize execReceiver s e = r at h_move
  cases h_move with
  | none =>
    dsimp only
    rw [List.append_nil]
    exact inv
  | arrive fd d h_open =>
    -- the queue of one socket grows, and so does what has arrived there
    refine ⟨fun fd' => ?_, ?_, ?_, fun h => ?_, h_returned⟩
    · by_cases h_fd : fd = fd'
      · subst h_fd
        simp [List.filterMap_cons, ReceiverOut.arrived?, ReceiverOut.received?, h_fifo]
      · simp [List.filterMap_cons, ReceiverOut.arrived?, ReceiverOut.received?, h_fifo, h_fd,
          Ne.symm h_fd]
    · simp [List.filterMap_cons, hubEvs, ReceiverOut.hub?, ReceiverOut.line?, h_handled]
    · simp [List.filterMap_cons, hubEvs, ReceiverOut.hub?, h_hub]
    · have h_fd : HubSock.gSock2 ≠ fd := by
        intro h_fd
        exact absurd (h.symm.trans (h_open h_fd.symm)) (by simp)
      dsimp only
      rw [Function.update_of_ne h_fd]
      exact h_closed h
  | goto pc h_pc h_left h_second =>
    -- only the thread moves
    dsimp only
    rw [List.append_nil]
    exact ⟨h_fifo, h_handled, h_hub, h_closed, h_pc⟩
  | empty fd d rest h_pc h_waiting h_data h_left =>
    -- an empty datagram leaves its queue, and no line is handled
    refine ⟨fun fd' => ?_, ?_, ?_, closed_take h_closed h_waiting, by simp⟩
    · dsimp only
      rw [← fifo_take h_fifo h_waiting fd', List.filterMap_append]
      simp [List.filterMap_cons, ReceiverOut.arrived?]
    · simp [List.filterMap_cons, hubEvs, ReceiverOut.hub?, ReceiverOut.line?, h_handled, h_data]
    · simp [List.filterMap_cons, hubEvs, ReceiverOut.hub?, h_hub]
  | line fd d rest t tReg h_pc h_waiting h_data =>
    -- a datagram leaves its queue for the hub
    refine ⟨fun fd' => ?_, ?_, ?_, closed_take h_closed h_waiting, h_returned⟩
    · have h_take := fifo_take h_fifo h_waiting fd'
      dsimp only
      rw [List.filterMap_append] at h_take
      rw [List.filterMap_append, List.filterMap_append]
      simpa [List.filterMap_cons, ReceiverOut.arrived?, ReceiverOut.received?] using h_take
    · simp [List.filterMap_cons, hubEvs, ReceiverOut.hub?, ReceiverOut.line?,
        HubEv.datagram?, h_handled, h_data]
    · dsimp only [hubEvs]
      rw [List.filterMap_append]
      exact h_hub ▸ (reached_concat url _ _).symm
  | check now h_pc =>
    -- the queues stay, and the hub checks
    refine ⟨?_, ?_, ?_, h_closed, by simp⟩
    · simp [List.filterMap_cons, ReceiverOut.arrived?, ReceiverOut.received?, h_fifo]
    · simp [List.filterMap_cons, hubEvs, ReceiverOut.hub?, ReceiverOut.line?,
        HubEv.datagram?, h_handled]
    · dsimp only [hubEvs]
      rw [List.filterMap_append]
      exact h_hub ▸ (reached_concat url _ _).symm
  | alloc =>
    refine ⟨?_, ?_, ?_, h_closed, h_returned⟩
    · simp [List.filterMap_cons, ReceiverOut.arrived?, ReceiverOut.received?, h_fifo]
    · simp [List.filterMap_cons, hubEvs, ReceiverOut.hub?, ReceiverOut.line?,
        HubEv.datagram?, h_handled]
    · dsimp only [hubEvs]
      rw [List.filterMap_append]
      exact h_hub ▸ (reached_concat url _ _).symm
  | stop =>
    dsimp only
    rw [List.append_nil]
    exact ⟨h_fifo, h_handled, h_hub, h_closed, fun _ => rfl⟩

/-- **Run.** -/
theorem ReceiverInv.received (url : CharBuf 512) (gSock2Open : Bool) (es : List ReceiverEv) :
    ReceiverInv url (received url gSock2Open es) :=
  run_invariant (ReceiverInv url) (fun _ e inv => inv.step e) (.initial url gSock2Open) es

/-! ### What waits while a socket is read -/

/-- What has been received from a socket. -/
def receivedFrom (fd : HubSock) (outs : List ReceiverOut) : List Datagram :=
  outs.filterMap (ReceiverOut.received? fd)

/-- The checks that have been made. -/
def checks (outs : List ReceiverOut) : List HubEv := (hubEvs outs).filter HubEv.isCheck

theorem receivedFrom_append (fd : HubSock) (outs outs' : List ReceiverOut) :
    receivedFrom fd (outs ++ outs') = receivedFrom fd outs ++ receivedFrom fd outs' :=
  List.filterMap_append

theorem checks_append (outs outs' : List ReceiverOut) :
    checks (outs ++ outs') = checks outs ++ checks outs' := by
  unfold checks hubEvs
  rw [List.filterMap_append, List.filter_append]

theorem received_concat (url : CharBuf 512) (gSock2Open : Bool) (es : List ReceiverEv)
    (e : ReceiverEv) : received url gSock2Open (es ++ [e])
      = logged execReceiver (received url gSock2Open es) e := run_append _ _ es [e]

/-- **Step** of a thread that reads a socket. -/
theorem execReceiver_draining {s : Receiver} {fd : HubSock} (h_pc : s.pc = .draining fd)
    {e : ReceiverEv} (h_e : ¬ EndsDrain s e) :
    (execReceiver s e).1.pc = .draining fd ∧
      (∀ fd', fd' ≠ fd → receivedFrom fd' (execReceiver s e).2 = []) ∧
      checks (execReceiver s e).2 = [] := by
  have h_move := execReceiver_move s e
  generalize execReceiver s e = r at h_move
  cases h_move with
  | none => exact ⟨h_pc, fun _ _ => rfl, rfl⟩
  | arrive fd' d h_open => exact ⟨h_pc, fun _ _ => rfl, rfl⟩
  -- leaving the socket ends the drain
  | goto pc h_returned h_left h_second => exact absurd (h_left fd h_pc) h_e
  | empty fd' d rest h_fd' h_waiting h_data h_left => exact absurd h_left h_e
  | line fd' d rest t tReg h_fd' h_waiting h_data =>
    -- the line is from the socket that is drained
    obtain rfl : fd = fd' := ReceiverPc.draining.inj (h_pc.symm.trans h_fd')
    refine ⟨h_pc, fun fd'' h_ne => ?_, rfl⟩
    simp [receivedFrom, List.filterMap_cons, ReceiverOut.received?, Ne.symm h_ne]
  | check now h_checking => exact absurd (h_pc.symm.trans h_checking) (by simp)
  | alloc => exact ⟨h_pc, fun _ _ => rfl, rfl⟩
  | stop => exact ⟨h_pc, fun _ _ => rfl, rfl⟩

/-- **Step** of a thread that does not read `g_sock2`. -/
theorem execReceiver_starved {s : Receiver} (h_pc : s.pc ≠ .draining .gSock2) {e : ReceiverEv}
    (h_e : ∀ rfds, e = .select (.ready rfds) → rfds .gSock = true) :
    (execReceiver s e).1.pc ≠ .draining .gSock2 ∧
      receivedFrom .gSock2 (execReceiver s e).2 = [] := by
  have h_fd_ne : ∀ fd, s.pc = .draining fd → fd ≠ .gSock2 := by
    rintro fd h_fd rfl
    exact h_pc h_fd
  have h_move := execReceiver_move s e
  generalize execReceiver s e = r at h_move
  cases h_move with
  | none => exact ⟨h_pc, rfl⟩
  | arrive fd d h_open => exact ⟨h_pc, rfl⟩
  | goto pc h_returned h_left h_second =>
    -- the second socket is chosen only when the first one is not ready
    refine ⟨fun h_goto => ?_, rfl⟩
    obtain ⟨rfds, h_select, h_not⟩ := h_second h_goto
    exact absurd (h_not.symm.trans (h_e rfds h_select)) (by simp)
  | empty fd d rest h_fd h_waiting h_data h_left =>
    exact ⟨by simp, by simp [receivedFrom, ReceiverOut.received?, h_fd_ne fd h_fd]⟩
  | line fd d rest t tReg h_fd h_waiting h_data =>
    refine ⟨h_pc, ?_⟩
    simp [receivedFrom, List.filterMap_cons, ReceiverOut.received?, h_fd_ne fd h_fd]
  | check now h_checking => exact ⟨by simp, rfl⟩
  | alloc => exact ⟨h_pc, rfl⟩
  | stop => exact ⟨h_pc, rfl⟩

/-! ### Undisturbed steps -/

/-- The clock readings of a step. -/
structure Readings where
  t : ℤ
  tReg : ℤ
  now : ℤ

/-- What the thread does next when no call is interrupted or fails, and `select` says which sockets
have something. -/
def nextEv (s : Receiver) (c : Readings) : ReceiverEv :=
  match s.pc with
  | .top =>
    if s.waiting .gSock = [] ∧ s.waiting .gSock2 = [] then .select .timeout
    else .select (.ready fun fd => s.waiting fd ≠ [])
  | .draining _ => .recv (.next c.t c.tReg)
  | .checking | .returned => .check c.now

/-- A step of the thread during which nothing arrives. -/
def stepUndisturbed (s : Receiver) (c : Readings) : Receiver := (execReceiver s (nextEv s c)).1

/-- The number of datagrams that wait. -/
def Receiver.total (s : Receiver) : ℕ :=
  (s.waiting .gSock).length + (s.waiting .gSock2).length

/-- The steps until the thread chooses a socket again, when nothing else is read. -/
def Receiver.weight (s : Receiver) : ℕ :=
  match s.pc with
  | .top => 1
  | .draining fd => if s.waiting fd = [] then 3 else 0
  | .checking => 2
  | .returned => 0

/-- What bounds the steps until both sockets are empty. -/
def Receiver.rank (s : Receiver) : ℕ := 4 * s.total + s.weight

/-- A datagram less. -/
theorem Receiver.total_take {s : Receiver} {fd : HubSock} {d : Datagram} {rest : List Datagram}
    (h : s.waiting fd = d :: rest) (hub : HubState) (pc : ReceiverPc) :
    Receiver.total { s with waiting := Function.update s.waiting fd rest, hub := hub, pc := pc } + 1
      = s.total := by
  cases fd <;> simp [Receiver.total, h] <;> omega

theorem Receiver.weight_le (s : Receiver) : s.weight ≤ 3 := by
  unfold weight
  split
  · omega
  · split_ifs <;> omega
  · omega
  · omega

theorem Receiver.total_eq_zero {s : Receiver} :
    s.total = 0 ↔ s.waiting .gSock = [] ∧ s.waiting .gSock2 = [] := by
  unfold total
  rw [Nat.add_eq_zero_iff, List.length_eq_zero_iff, List.length_eq_zero_iff]

/-- With something waiting, the socket that is chosen has something. -/
theorem chooseFd_waiting {s : Receiver} (h_closed : s.gSock2Open = false → s.waiting .gSock2 = [])
    (h_some : ¬ (s.waiting .gSock = [] ∧ s.waiting .gSock2 = [])) :
    ∃ fd, chooseFd s.gSock2Open (fun fd => s.waiting fd ≠ []) = some fd ∧ s.waiting fd ≠ [] := by
  unfold chooseFd
  by_cases h_first : s.waiting .gSock = []
  · have h_second : s.waiting .gSock2 ≠ [] := fun h_second => h_some ⟨h_first, h_second⟩
    have h_open : s.gSock2Open = true := by
      by_contra h_not
      exact h_second (h_closed (Bool.eq_false_iff.mpr h_not))
    exact ⟨.gSock2, by simp [h_first, h_second, h_open], h_second⟩
  · exact ⟨.gSock, by simp [h_first], h_first⟩

/-- All that an undisturbed step can do. -/
inductive Undisturbed (s : Receiver) : Receiver → Prop
  | idle (h_pc : s.pc = .top) (h_running : s.gStopping = false) (h_none : s.total = 0) :
    Undisturbed s { s with pc := .checking }
  | choose (fd : HubSock) (h_pc : s.pc = .top) (h_running : s.gStopping = false)
      (h_some : s.waiting fd ≠ []) :
    Undisturbed s { s with pc := .draining fd }
  | returning (h_pc : s.pc = .top) (h_stopping : s.gStopping = true) :
    Undisturbed s { s with pc := .returned }
  | drained (fd : HubSock) (h_pc : s.pc = .draining fd) (h_none : s.waiting fd = []) :
    Undisturbed s { s with pc := .checking }
  /-- A datagram is taken, and an empty one ends the reading. -/
  | take (fd : HubSock) (d : Datagram) (rest : List Datagram) (hub : HubState) (pc : ReceiverPc)
      (h_pc : s.pc = .draining fd) (h_waiting : s.waiting fd = d :: rest)
      (h_next : pc = .draining fd ∨ pc = .checking) :
    Undisturbed s { s with waiting := Function.update s.waiting fd rest, hub := hub, pc := pc }
  | check (hub : HubState) (h_pc : s.pc = .checking) :
    Undisturbed s { s with hub := hub, pc := .top }
  | returned (h_pc : s.pc = .returned) : Undisturbed s s

theorem stepUndisturbed_top {s : Receiver}
    (h_closed : s.gSock2Open = false → s.waiting .gSock2 = []) (h_pc : s.pc = .top)
    (c : Readings) : Undisturbed s (stepUndisturbed s c) := by
  have h_select : ∀ r, execReceiver s (.select r)
      = if s.gStopping then ({ s with pc := .returned }, [])
        else
          match r with
          | .interrupted | .failed => (s, [])
          | .timeout => ({ s with pc := .checking }, [])
          | .ready rfds =>
            match chooseFd s.gSock2Open rfds with
            | some fd => ({ s with pc := .draining fd }, [])
            | none => (s, []) := fun r => if_neg (not_not.mpr h_pc)
  -- `select` reports what is waiting
  have h_next : nextEv s c
      = if s.waiting .gSock = [] ∧ s.waiting .gSock2 = [] then .select .timeout
        else .select (.ready fun fd => s.waiting fd ≠ []) := by
    unfold nextEv
    rw [h_pc]
  unfold stepUndisturbed
  rw [h_next]
  by_cases h_stopping : s.gStopping = true
  · -- told to stop, whatever `select` says
    have h_returned : ∀ r, execReceiver s (.select r) = ({ s with pc := .returned }, []) := by
      intro r
      rw [h_select, if_pos h_stopping]
    split_ifs
    · rw [h_returned]
      exact .returning h_pc h_stopping
    · rw [h_returned]
      exact .returning h_pc h_stopping
  · have h_running : s.gStopping = false := Bool.eq_false_iff.mpr h_stopping
    split_ifs with h_none
    · -- nothing is waiting: the time-out
      rw [h_select, if_neg h_stopping]
      exact .idle h_pc h_running (Receiver.total_eq_zero.mpr h_none)
    · -- something is waiting, and the socket that is chosen has it
      obtain ⟨fd, h_fd, h_some⟩ := chooseFd_waiting h_closed h_none
      rw [h_select, if_neg h_stopping]
      dsimp only
      rw [h_fd]
      exact .choose fd h_pc h_running h_some

theorem stepUndisturbed_draining {s : Receiver} {fd : HubSock} (h_pc : s.pc = .draining fd)
    (c : Readings) : Undisturbed s (stepUndisturbed s c) := by
  unfold stepUndisturbed nextEv
  rw [h_pc]
  dsimp only [execReceiver]
  rw [h_pc]
  dsimp only
  cases h_waiting : s.waiting fd with
  | nil => exact .drained fd h_pc h_waiting
  | cons d rest =>
    dsimp only
    split_ifs
    · exact .take fd d rest s.hub .checking h_pc h_waiting (Or.inr rfl)
    · exact .take fd d rest _ (.draining fd) h_pc h_waiting (Or.inl rfl)

theorem stepUndisturbed_move {s : Receiver}
    (h_closed : s.gSock2Open = false → s.waiting .gSock2 = []) (c : Readings) :
    Undisturbed s (stepUndisturbed s c) := by
  cases h_pc : s.pc with
  | top => exact stepUndisturbed_top h_closed h_pc c
  | draining fd => exact stepUndisturbed_draining h_pc c
  | checking =>
    -- the check, at whatever time the clock shows
    unfold stepUndisturbed nextEv
    rw [h_pc]
    dsimp only [execReceiver]
    rw [if_neg (not_not.mpr h_pc)]
    exact .check _ h_pc
  | returned =>
    unfold stepUndisturbed nextEv
    rw [h_pc]
    dsimp only [execReceiver]
    rw [if_pos (by simp [h_pc])]
    exact .returned h_pc

/-- What an undisturbed thread keeps. -/
structure Receiver.Kept (gStopping : Bool) (s : Receiver) : Prop where
  stopping_eq : s.gStopping = gStopping
  returned_imp : s.pc = .returned → gStopping = true
  closed : s.gSock2Open = false → s.waiting .gSock2 = []

theorem Receiver.Kept.step {gStopping : Bool} {s : Receiver} (h : s.Kept gStopping)
    (c : Readings) : (stepUndisturbed s c).Kept gStopping := by
  obtain ⟨h_stopping, h_returned, h_closed⟩ := h
  have h_move := stepUndisturbed_move h_closed c
  generalize stepUndisturbed s c = s' at h_move
  cases h_move with
  | idle h_pc h_running h_none => exact ⟨h_stopping, by simp, h_closed⟩
  | choose fd h_pc h_running h_some => exact ⟨h_stopping, by simp, h_closed⟩
  | returning h_pc h_true => exact ⟨h_stopping, fun _ => h_stopping.symm.trans h_true, h_closed⟩
  | drained fd h_pc h_none => exact ⟨h_stopping, by simp, h_closed⟩
  | take fd d rest hub pc h_pc h_waiting h_next =>
    refine ⟨h_stopping, fun h_end => ?_, closed_take h_closed h_waiting⟩
    rcases h_next with rfl | rfl
    · exact absurd h_end (by simp)
    · exact absurd h_end (by simp)
  | check hub h_pc => exact ⟨h_stopping, by simp, h_closed⟩
  | returned h_pc => exact ⟨h_stopping, h_returned, h_closed⟩

/-- **Step** towards empty sockets. -/
theorem rank_stepUndisturbed {s : Receiver} (h : s.Kept false) (h_some : s.total ≠ 0)
    (c : Readings) : (stepUndisturbed s c).rank < s.rank := by
  have h_move := stepUndisturbed_move h.closed c
  generalize stepUndisturbed s c = s' at h_move
  unfold Receiver.rank
  cases h_move with
  | idle h_pc h_running h_none => exact absurd h_none h_some
  | choose fd h_pc h_running h_fd => simp [Receiver.weight, Receiver.total, h_pc, h_fd]
  | returning h_pc h_true => exact absurd (h_true.symm.trans h.stopping_eq) (by simp)
  | drained fd h_pc h_none => simp [Receiver.weight, Receiver.total, h_pc, h_none]
  | take fd d rest hub pc h_pc h_waiting h_next =>
    have h_total := Receiver.total_take h_waiting hub pc
    have h_weight := Receiver.weight_le
      { s with waiting := Function.update s.waiting fd rest, hub := hub, pc := pc }
    omega
  | check hub h_pc => simp [Receiver.weight, Receiver.total, h_pc]
  | returned h_pc => exact absurd (h.returned_imp h_pc) (by simp)

/-- Nothing comes to an undisturbed thread. -/
theorem total_stepUndisturbed {s : Receiver} (h : s.Kept false) (h_none : s.total = 0)
    (c : Readings) : (stepUndisturbed s c).total = 0 := by
  have h_move := stepUndisturbed_move h.closed c
  generalize stepUndisturbed s c = s' at h_move
  cases h_move with
  | take fd d rest hub pc h_pc h_waiting h_next =>
    have h_total := Receiver.total_take h_waiting hub pc
    omega
  | _ => exact h_none

/-- **Run** until both sockets are empty. -/
theorem undisturbed_drains {s : Receiver} (h : s.Kept false) {cs : List Readings}
    (h_length : 4 * s.total + 3 < cs.length) (fd : HubSock) :
    (run stepUndisturbed s cs).waiting fd = [] := by
  have h_rank : s.rank < cs.length := by
    have h_weight := s.weight_le
    unfold Receiver.rank
    omega
  have h_total := run_reaches_of_rank (fun s => s.total = 0) Receiver.rank
    (fun _ c h => h.step c) (fun _ c h h_none => total_stepUndisturbed h h_none c)
    (fun _ c h h_some => rank_stepUndisturbed h h_some c) h h_rank
  obtain ⟨h_first, h_second⟩ := Receiver.total_eq_zero.mp h_total
  cases fd with
  | gSock => exact h_first
  | gSock2 => exact h_second

/-! ### The end of the thread -/

/-- What the thread still reads before it tests `g_stopping`. -/
def Receiver.pending (s : Receiver) : ℕ :=
  match s.pc with
  | .draining fd => (s.waiting fd).length
  | _ => 0

/-- What bounds the steps until the thread returns. -/
def Receiver.stopRank (s : Receiver) : ℕ :=
  match s.pc with
  | .top => 1
  | .draining _ => s.pending + 3
  | .checking => 2
  | .returned => 0

theorem Receiver.stopRank_le (s : Receiver) : s.stopRank ≤ s.pending + 3 := by
  unfold stopRank
  split <;> omega

/-- **Step** towards the end. -/
theorem stopRank_stepUndisturbed {s : Receiver} (h : s.Kept true) (h_pc : s.pc ≠ .returned)
    (c : Readings) : (stepUndisturbed s c).stopRank < s.stopRank := by
  have h_move := stepUndisturbed_move h.closed c
  generalize stepUndisturbed s c = s' at h_move
  cases h_move with
  | idle h_top h_running h_none => exact absurd (h_running.symm.trans h.stopping_eq) (by simp)
  | choose fd h_top h_running h_fd => exact absurd (h_running.symm.trans h.stopping_eq) (by simp)
  | returning h_top h_true => simp [Receiver.stopRank, h_top]
  | drained fd h_fd h_none => simp [Receiver.stopRank, h_fd]
  | take fd d rest hub pc h_fd h_waiting h_next =>
    rcases h_next with rfl | rfl
    · simp [Receiver.stopRank, Receiver.pending, h_fd, h_waiting]
    · simp [Receiver.stopRank, h_fd]
  | check hub h_checking => simp [Receiver.stopRank, h_checking]
  | returned h_returned => exact absurd h_returned h_pc

/-- A thread that has returned does nothing. -/
theorem returned_stepUndisturbed {s : Receiver} (h : s.Kept true) (h_pc : s.pc = .returned)
    (c : Readings) : (stepUndisturbed s c).pc = .returned := by
  have h_move := stepUndisturbed_move h.closed c
  generalize stepUndisturbed s c = s' at h_move
  cases h_move with
  | idle h_top => exact absurd (h_pc.symm.trans h_top) (by simp)
  | choose fd h_top => exact absurd (h_pc.symm.trans h_top) (by simp)
  | returning h_top => exact absurd (h_pc.symm.trans h_top) (by simp)
  | drained fd h_fd => exact absurd (h_pc.symm.trans h_fd) (by simp)
  | take fd d rest hub pc h_fd => exact absurd (h_pc.symm.trans h_fd) (by simp)
  | check hub h_checking => exact absurd (h_pc.symm.trans h_checking) (by simp)
  | returned _ => exact h_pc

/-- **Run** until the thread returns. -/
theorem undisturbed_returns {s : Receiver} (h : s.Kept true) {cs : List Readings}
    (h_length : s.pending + 3 < cs.length) : (run stepUndisturbed s cs).pc = .returned :=
  run_reaches_of_rank (fun s => s.pc = .returned) Receiver.stopRank
    (fun _ c h => h.step c) (fun _ c h h_pc => returned_stepUndisturbed h h_pc c)
    (fun _ c h h_pc => stopRank_stepUndisturbed h h_pc c) h
    (lt_of_le_of_lt s.stopRank_le h_length)

/-- A thread that is to stop does not turn to another socket. -/
theorem left_stepUndisturbed {s : Receiver} (h : s.Kept true) {fd : HubSock}
    (h_pc : s.pc ≠ .draining fd) (c : Readings) :
    (stepUndisturbed s c).pc ≠ .draining fd ∧ (stepUndisturbed s c).waiting fd = s.waiting fd := by
  have h_move := stepUndisturbed_move h.closed c
  generalize stepUndisturbed s c = s' at h_move
  cases h_move with
  | choose fd' h_top h_running h_fd => exact absurd (h_running.symm.trans h.stopping_eq) (by simp)
  | take fd' d rest hub pc h_fd' h_waiting h_next =>
    have h_ne : fd ≠ fd' := by
      rintro rfl
      exact h_pc h_fd'
    refine ⟨?_, Function.update_of_ne h_ne _ _⟩
    rcases h_next with rfl | rfl
    · exact fun h_eq => h_ne (ReceiverPc.draining.inj h_eq).symm
    · simp
  | returned h_returned => exact ⟨h_pc, rfl⟩
  | _ => exact ⟨by simp, rfl⟩

theorem undisturbed_leaves {s : Receiver} (h : s.Kept true) {fd : HubSock}
    (h_pc : s.pc ≠ .draining fd) (cs : List Readings) :
    (run stepUndisturbed s cs).waiting fd = s.waiting fd := by
  have h_run := run_invariant
    (fun s' : Receiver => s'.Kept true ∧ s'.pc ≠ .draining fd ∧ s'.waiting fd = s.waiting fd)
    (fun s' c h => by
      obtain ⟨h_kept, h_pc, h_eq⟩ := h
      obtain ⟨h_pc', h_eq'⟩ := left_stepUndisturbed h_kept h_pc c
      exact ⟨h_kept.step c, h_pc', h_eq'.trans h_eq⟩)
    ⟨h, h_pc, rfl⟩ cs
  exact h_run.2.2

/-! ### The contract -/

/-- **What the receiver thread does** in the steps `es`, and what it can do after them. -/
structure ReceiverContract (url : CharBuf 512) (gSock2Open : Bool) (es : List ReceiverEv) :
    Prop where
  inv : ReceiverInv url (received url gSock2Open es)
  /-- Once a socket is read, nothing comes from the other one and no check is made until something
  ends the reading. The thread does not see that it is to stop. -/
  deaf : ∀ fd es', (received url gSock2Open es).1.pc = .draining fd →
    (∀ pre e post, es' = pre ++ e :: post →
      ¬ EndsDrain (received url gSock2Open (es ++ pre)).1 e) →
    (received url gSock2Open (es ++ es')).1.pc = .draining fd ∧
      (∀ fd', fd' ≠ fd → receivedFrom fd' (received url gSock2Open (es ++ es')).2
        = receivedFrom fd' (received url gSock2Open es).2) ∧
      checks (received url gSock2Open (es ++ es')).2 = checks (received url gSock2Open es).2
  /-- While `select` finds `g_sock` ready each time, nothing is received from `g_sock2`. -/
  starved : ∀ es', (received url gSock2Open es).1.pc ≠ .draining .gSock2 →
    (∀ rfds, ReceiverEv.select (.ready rfds) ∈ es' → rfds .gSock = true) →
    receivedFrom .gSock2 (received url gSock2Open (es ++ es')).2
      = receivedFrom .gSock2 (received url gSock2Open es).2
  /-- Undisturbed, the thread empties both sockets. -/
  drained : (received url gSock2Open es).1.gStopping = false → ∀ cs : List Readings,
    4 * (received url gSock2Open es).1.total + 3 < cs.length →
    ∀ fd, (run stepUndisturbed (received url gSock2Open es).1 cs).waiting fd = []
  /-- Undisturbed, a thread that is to stop reads what is left of its socket, and returns. -/
  stopped : (received url gSock2Open es).1.gStopping = true → ∀ cs : List Readings,
    (received url gSock2Open es).1.pending + 3 < cs.length →
    (run stepUndisturbed (received url gSock2Open es).1 cs).pc = .returned ∧
      ∀ fd, (received url gSock2Open es).1.pc ≠ .draining fd →
        (run stepUndisturbed (received url gSock2Open es).1 cs).waiting fd
          = (received url gSock2Open es).1.waiting fd

theorem receiver_deaf (url : CharBuf 512) (gSock2Open : Bool) {es : List ReceiverEv}
    {fd : HubSock} (h_pc : (received url gSock2Open es).1.pc = .draining fd)
    {es' : List ReceiverEv} (h_es' : ∀ pre e post, es' = pre ++ e :: post →
      ¬ EndsDrain (received url gSock2Open (es ++ pre)).1 e) :
    (received url gSock2Open (es ++ es')).1.pc = .draining fd ∧
      (∀ fd', fd' ≠ fd → receivedFrom fd' (received url gSock2Open (es ++ es')).2
        = receivedFrom fd' (received url gSock2Open es).2) ∧
      checks (received url gSock2Open (es ++ es')).2 = checks (received url gSock2Open es).2 := by
  induction es' using List.reverseRecOn with
  | nil =>
    rw [List.append_nil]
    exact ⟨h_pc, fun _ _ => rfl, rfl⟩
  | append_singleton es' e ih =>
    obtain ⟨h_earlier, h_last⟩ := forall_split_concat.mp h_es'
    obtain ⟨h_draining, h_others, h_checks⟩ := ih h_earlier
    -- the last event does not end the drain either
    obtain ⟨h_step, h_step_others, h_step_checks⟩ := execReceiver_draining h_draining h_last
    rw [← List.append_assoc, received_concat]
    refine ⟨h_step, fun fd' h_fd' => ?_, ?_⟩
    · unfold logged
      rw [receivedFrom_append, h_step_others fd' h_fd', List.append_nil]
      exact h_others fd' h_fd'
    · unfold logged
      rw [checks_append, h_step_checks, List.append_nil]
      exact h_checks

theorem receiver_starved (url : CharBuf 512) (gSock2Open : Bool) {es : List ReceiverEv}
    (h_pc : (received url gSock2Open es).1.pc ≠ .draining .gSock2) {es' : List ReceiverEv}
    (h_es' : ∀ rfds, ReceiverEv.select (.ready rfds) ∈ es' → rfds .gSock = true) :
    (received url gSock2Open (es ++ es')).1.pc ≠ .draining .gSock2 ∧
      receivedFrom .gSock2 (received url gSock2Open (es ++ es')).2
        = receivedFrom .gSock2 (received url gSock2Open es).2 := by
  induction es' using List.reverseRecOn with
  | nil =>
    rw [List.append_nil]
    exact ⟨h_pc, rfl⟩
  | append_singleton es' e ih =>
    obtain ⟨h_not, h_eq⟩ := ih fun rfds h_mem => h_es' rfds (List.mem_append_left _ h_mem)
    have h_e : ∀ rfds, e = .select (.ready rfds) → rfds .gSock = true := by
      -- the last event finds the first socket ready as well
      rintro rfds rfl
      exact h_es' rfds (by simp)
    obtain ⟨h_step, h_step_eq⟩ := execReceiver_starved h_not h_e
    rw [← List.append_assoc, received_concat]
    refine ⟨h_step, ?_⟩
    unfold logged
    rw [receivedFrom_append, h_step_eq, List.append_nil]
    exact h_eq

/-- **The receiver thread**, for every order in which datagrams arrive, calls return and the thread
goes on. -/
theorem receiver_contract (url : CharBuf 512) (gSock2Open : Bool) (es : List ReceiverEv) :
    ReceiverContract url gSock2Open es := by
  have inv := ReceiverInv.received url gSock2Open es
  have h_kept : ∀ gStopping, (received url gSock2Open es).1.gStopping = gStopping →
      (received url gSock2Open es).1.Kept gStopping :=
    fun _ h => ⟨h, fun h_pc => h.symm.trans (inv.returned_imp h_pc), inv.closed⟩
  refine ⟨inv, ?_, ?_, ?_, ?_⟩
  · intro fd es' h_pc h_es'
    exact receiver_deaf url gSock2Open h_pc h_es'
  · intro es' h_pc h_es'
    exact (receiver_starved url gSock2Open h_pc h_es').2
  · intro h_running cs h_length fd
    exact undisturbed_drains (h_kept false h_running) h_length fd
  · intro h_stopping cs h_length
    refine ⟨undisturbed_returns (h_kept true h_stopping) h_length, fun fd h_pc => ?_⟩
    exact undisturbed_leaves (h_kept true h_stopping) h_pc cs

end Hub

end DoorSystem
