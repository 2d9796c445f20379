import DoorSystem.Door.Transport
import DoorSystem.Hub.Fields
import DoorSystem.Hub.SlotIdentity
import DoorSystem.Lib.Register

/-!
# The hub's mirror of a door

A door reports changes as events to one port of the hub and its whole state as heartbeats to the
other one. Each port is a FIFO queue, but `udp_thread` empties one socket before it looks at the
other, and the network delays each channel as it likes. So an event can be handled before a
heartbeat that was sent earlier, which then brings the old state back.

For each of the two bits the door is the sender and the hub the receiver of a register
(`Lib.Register`), with heartbeats as snapshots and events as deltas. `mirrors_iff` is the resulting
condition for the mirror to agree with the last update once everything is handled.
-/

namespace DoorSystem

open CLib

namespace System

open Door Hub

/-! ### The two channels -/

/-- The sockets `g_sock` and `g_sock2` of the hub. -/
inductive Channel
  | notif
  | hb
deriving DecidableEq

/-- The socket that a datagram of the door goes to. -/
def channelOf (u : DoorUdp) (o : DoorOut) : Channel := if o.port = u.gDestHb then .hb else .notif

/-- A door, the network and the hub. The last three fields are logs. -/
structure Link where
  door : DoorUdp
  /-- The datagrams that have not yet arrived. -/
  net : Channel → List DoorOut
  /-- The datagrams that have arrived and are not yet read. -/
  sock : Channel → List DoorOut
  /-- The socket `fd` that `udp_thread` is emptying. -/
  reading : Option Channel
  hub : HubState
  reports : List Report
  sent : List DoorOut
  handled : List DoorOut

inductive LinkEv
  /-- `door_udp_update` is called at the door. -/
  | update (r : Report) (t : ℤ)
  /-- The network delivers the next datagram of a channel. -/
  | arrive (c : Channel)
  /-- `select` returns in `udp_thread`. -/
  | select (now : ℤ)
  /-- `recvfrom` returns in `udp_thread`. -/
  | recv (src : SockAddr) (t tReg now : ℤ)
  /-- An empty datagram or an error ends the reading of a socket. -/
  | endRound (now : ℤ)
  /-- Something else happens to the hub. -/
  | other (e : HubEv)

/-- `udp_thread` stops reading and checks for silent modules. -/
def Link.toSelect (s : Link) (now : ℤ) : Link :=
  { s with reading := none, hub := step s.hub (.check now) }

/-- One step of the system. -/
def stepLink (s : Link) : LinkEv → Link
  | .update r t =>
    let (u, outs) := doorUdpUpdate r t s.door
    { s with
      door := u
      net := fun c => s.net c ++ outs.filter (fun o => channelOf s.door o = c)
      reports := s.reports ++ [r]
      sent := s.sent ++ outs }
  | .arrive c =>
    match s.net c with
    | o :: rest =>
      { s with
        net := Function.update s.net c rest
        sock := Function.update s.sock c (s.sock c ++ [o]) }
    | [] => s
  | .select now =>
    -- `g_sock` is tested before `g_sock2`
    if s.reading ≠ none then s
    else if s.sock .notif ≠ [] then { s with reading := some .notif }
    else if s.sock .hb ≠ [] then { s with reading := some .hb }
    else s.toSelect now
  | .recv src t tReg now =>
    match s.reading with
    | some c =>
      match s.sock c with
      | o :: rest =>
        { s with
          sock := Function.update s.sock c rest
          hub := step s.hub (.datagram o.line src t tReg)
          handled := s.handled ++ [o] }
      -- `EWOULDBLOCK`: the socket is empty
      | [] => s.toSelect now
    | none => s
  | .endRound now => if s.reading ≠ none then s.toSelect now else s
  | .other e => { s with hub := step s.hub e }

/-! ### The start -/

/-- A door that reports in mode NOTIFICATION|HEARTBEAT to two ports and has not reported yet, and a
hub where it holds a slot. -/
structure MirrorStart where
  door : DoorUdp
  sockOpen : door.gSockOpen = true
  mode : door.gMode = ⟨true, true⟩
  ports : door.gDestNotif ≠ door.gDestHb
  fresh : door.gPrevValid = false
  idText : IsText door.gModuleId.str
  url : CharBuf 512
  past : List HubEv
  slot : Fin HUB_MAX_DOORS
  found : findDoor door.gModuleId.str (reached url past).gDoors = some slot

/-- The start after a `door_udp_init2` that succeeds. -/
def MirrorStart.afterInit (c : InitCall) (u : DoorUdp) (h_ok : (doorUdpInit2 c u).2.1 = true)
    (h_mode : c.mode = ⟨true, true⟩) (h_ports : c.notifPort ≠ c.hbPort) (h_text : IsText c.moduleId)
    (url : CharBuf 512) (past : List HubEv) (slot : Fin HUB_MAX_DOORS)
    (h_found : findDoor (c.moduleId.take 15) (reached url past).gDoors = some slot) :
    MirrorStart where
  door := (doorUdpInit2 c u).1
  sockOpen := by rw [doorUdpInit2_ok h_ports h_ok]
  mode := by
    rw [doorUdpInit2_ok h_ports h_ok]
    exact h_mode
  ports := by
    rw [doorUdpInit2_ok h_ports h_ok]
    exact h_ports
  fresh := by
    rw [doorUdpInit2_ok h_ports h_ok]
    rfl
  idText := by
    rw [doorUdpInit2_ok h_ports h_ok]
    exact h_text.take (by norm_num)
  url := url
  past := past
  slot := slot
  found := by
    rw [doorUdpInit2_ok h_ports h_ok]
    exact h_found

/-- The id of the door. -/
def MirrorStart.moduleId (S : MirrorStart) : CStr := S.door.gModuleId.str

/-- Nothing is under way yet. -/
def MirrorStart.link (S : MirrorStart) : Link where
  door := S.door
  net := fun _ => []
  sock := fun _ => []
  reading := none
  hub := reached S.url S.past
  reports := []
  sent := []
  handled := []

/-- The other traffic says nothing about the state of the module. -/
def Quiet (m : CStr) (e : HubEv) : Prop := ∀ f : Field, f.lineSays m e.words = none

/-- A run of the system in which all reports of the door are handled. -/
structure MirrorRun where
  start : MirrorStart
  events : List LinkEv
  quiet : ∀ e, LinkEv.other e ∈ events → Quiet start.moduleId e
  last : Report
  reported : (run stepLink start.link events).reports.getLast? = some last
  drained : ∀ c, (run stepLink start.link events).sock c = [] ∧
    (run stepLink start.link events).net c = []

/-- The end of the run. -/
def MirrorRun.final (R : MirrorRun) : Link := run stepLink R.start.link R.events

/-! ### What the reports say -/

/-- The bit in a report. -/
def reportField : Field → Report → Bool
  | .d0Open, r => r.d0Open
  | .d1Locked, r => r.d1Locked

/-- What a datagram of the door says about a bit of the module `m`. -/
def outSays (m : CStr) (f : Field) (o : DoorOut) : Option Bool :=
  f.lineSays m (lineTokens (datagramLine o.line))

/-- Heartbeats are the snapshots. -/
def isHb (u : DoorUdp) (o : DoorOut) : Bool := channelOf u o = .hb

/-- What a report says about a bit. -/
def msgSays : Field → DoorMsg → Option Bool
  | f, .heartbeat r => some (reportField f r)
  | .d0Open, .doorEvent d0Open => some d0Open
  | .d1Locked, .lockEvent d1Locked => some d1Locked
  | _, _ => none

def msgIsHb : DoorMsg → Bool
  | .heartbeat _ => true
  | _ => false

/-- The line of a report says what the report says. -/
theorem lineSays_words (f : Field) (m : CStr) (msg : DoorMsg) :
    f.lineSays m (msg.words m) = msgSays f msg := by
  unfold DoorMsg.words Field.lineSays
  cases msg with
  | heartbeat r =>
    obtain ⟨o, p, q, l⟩ := r
    dsimp only
    rw [if_pos rfl]
    cases f <;> cases o <;> cases l <;> rfl
  | doorEvent o =>
    dsimp only
    rw [if_pos rfl]
    cases f <;> cases o <;> rfl
  | lockEvent l =>
    dsimp only
    rw [if_pos rfl]
    cases f <;> cases l <;> rfl

theorem outSays_out {u : DoorUdp} (h_text : IsText u.gModuleId.str) (f : Field) (msg : DoorMsg) :
    outSays u.gModuleId.str f (msg.out u) = msgSays f msg := by
  -- the datagram is received with the words it was printed from
  have h_line : (msg.out u).line = msg.line u.gModuleId.str := by cases msg <;> rfl
  unfold outSays
  rw [h_line, DoorMsg.lineTokens_line h_text u.gModuleId.fits]
  exact lineSays_words f _ msg

theorem isHb_out {u : DoorUdp} (h_ports : u.gDestNotif ≠ u.gDestHb) (msg : DoorMsg) :
    isHb u (msg.out u) = msgIsHb msg := by
  unfold isHb channelOf
  cases msg with
  | heartbeat r => simp [DoorMsg.out, msgIsHb]
  | doorEvent o => simp [DoorMsg.out, msgIsHb, h_ports]
  | lockEvent l => simp [DoorMsg.out, msgIsHb, h_ports]

/-! ### The door as a sender -/

/-- The events of an update of a door that has reported before. -/
theorem deltas_updateMsgs {u : DoorUdp} (h_mode : u.gMode = ⟨true, true⟩)
    (h_valid : u.gPrevValid = true) (r : Report) (t : ℤ) :
    deltas msgIsHb (updateMsgs r t u) =
      (if r.d0Open ≠ u.gPrev.d0Open then [.doorEvent r.d0Open] else []) ++
        (if r.d1Locked ≠ u.gPrev.d1Locked then [.lockEvent r.d1Locked] else []) := by
  unfold updateMsgs deltas
  rw [if_pos h_valid, h_mode, if_pos rfl, List.filter_append, List.filter_append]
  split_ifs <;> rfl

/-- After the events of an update, whoever follows them has the new value. -/
theorem lastWrite_updateMsgs {u : DoorUdp} (h_mode : u.gMode = ⟨true, true⟩)
    (h_valid : u.gPrevValid = true) (r : Report) (t : ℤ) (f : Field) {x : Bool}
    (h_x : reportField f r = reportField f u.gPrev → x = reportField f r) :
    lastWrite (msgSays f) x (deltas msgIsHb (updateMsgs r t u)) = reportField f r := by
  rw [deltas_updateMsgs h_mode h_valid]
  cases f with
  | d0Open =>
    -- no event means that the value is the old one, which is `h_x`
    by_cases h_eq : r.d0Open = u.gPrev.d0Open
    · rw [if_neg (not_not.mpr h_eq), h_x h_eq]
      split_ifs <;> rfl
    · rw [if_pos h_eq]
      split_ifs <;> rfl
  | d1Locked =>
    by_cases h_eq : r.d1Locked = u.gPrev.d1Locked
    · rw [if_neg (not_not.mpr h_eq), h_x h_eq]
      split_ifs <;> rfl
    · rw [if_pos h_eq]
      split_ifs <;> rfl

section Sender

variable {u : DoorUdp} (h_text : IsText u.gModuleId.str) (h_mode : u.gMode = ⟨true, true⟩)
  (h_ports : u.gDestNotif ≠ u.gDestHb)

include h_text h_ports in
/-- Every heartbeat says something about every bit. -/
theorem outSays_of_isHb (f : Field) (msgs : List DoorMsg) :
    ∀ o ∈ (msgs.map (DoorMsg.out u)).filter (isHb u), outSays u.gModuleId.str f o ≠ none := by
  intro o h_o
  obtain ⟨h_mem, h_hb⟩ := List.mem_filter.mp h_o
  obtain ⟨msg, -, rfl⟩ := List.mem_map.mp h_mem
  rw [isHb_out h_ports] at h_hb
  rw [outSays_out h_text]
  cases msg with
  | heartbeat r => cases f <;> simp [msgSays]
  -- events are not heartbeats
  | doorEvent o => exact absurd h_hb (by simp [msgIsHb])
  | lockEvent l => exact absurd h_hb (by simp [msgIsHb])

include h_text h_mode h_ports in
/-- **Sender.** An update of a door that has reported before. -/
theorem tracks_update (h_valid : u.gPrevValid = true) {f : Field} {sent : List DoorOut}
    (h_sent : Tracks (outSays u.gModuleId.str f) (isHb u) (reportField f u.gPrev) sent)
    (r : Report) (t : ℤ) :
    Tracks (outSays u.gModuleId.str f) (isHb u) (reportField f r)
      (sent ++ (updateMsgs r t u).map (DoorMsg.out u)) := by
  refine h_sent.append (outSays_of_isHb h_text h_ports f _) (fun x h_x => ?_)
  rw [deltas_map, lastWrite_map]
  -- from datagrams to the messages they were printed from
  simp only [isHb_out h_ports, outSays_out h_text]
  refine lastWrite_updateMsgs h_mode h_valid r t f (fun h_eq => ?_)
  rcases h_x with ⟨-, h_x⟩ | h_ne
  · exact h_x
  · exact absurd h_eq h_ne

include h_text h_mode h_ports in
/-- The first update sends a heartbeat. -/
theorem tracks_first (h_valid : u.gPrevValid = false) (f : Field) (r : Report) (t : ℤ) :
    Tracks (outSays u.gModuleId.str f) (isHb u) (reportField f r)
      ((updateMsgs r t u).map (DoorMsg.out u)) := by
  -- there is no previous report to compare with, so no event either
  have h_msgs : updateMsgs r t u = [.heartbeat r] := by
    unfold updateMsgs
    rw [if_neg (by simp [h_valid]), h_mode]
    rfl
  have h_hb : isHb u ((DoorMsg.heartbeat r).out u) = true := isHb_out h_ports _
  refine ⟨outSays_of_isHb h_text h_ports f _, ?_, ?_⟩
  · rw [h_msgs]
    simp [h_hb]
  · rw [h_msgs]
    simp [deltas, h_hb]

end Sender

/-! ### The invariant -/

/-- The invariant of a run. -/
structure LinkInv (S : MirrorStart) (s : Link) : Prop where
  route : SameRoute S.door s.door
  found : SlotFound S.moduleId S.slot s.hub
  fifo : ∀ c, s.handled.filter (fun o => channelOf S.door o = c) ++ (s.sock c ++ s.net c)
    = s.sent.filter (fun o => channelOf S.door o = c)
  /-- The hub keeps what the last datagram said. -/
  field : ∀ f : Field, f.get (s.hub.gDoors S.slot) =
    lastWrite (outSays S.moduleId f) (f.get ((reached S.url S.past).gDoors S.slot)) s.handled
  sent : (s.door.gPrevValid = false ∧ s.reports = [] ∧ s.sent = []) ∨
    (s.door.gPrevValid = true ∧ s.reports.getLast? = some s.door.gPrev ∧
      ∀ f, Tracks (outSays S.moduleId f) (isHb S.door) (reportField f s.door.gPrev) s.sent)

theorem channelOf_congr {u u' : DoorUdp} (h : SameRoute u u') : channelOf u' = channelOf u := by
  funext o
  unfold channelOf
  rw [h.2.2.1]

theorem sameRoute_trans {u u' u'' : DoorUdp} (h : SameRoute u u') (h' : SameRoute u' u'') :
    SameRoute u u'' :=
  ⟨h'.1.trans h.1, h'.2.1.trans h.2.1, h'.2.2.1.trans h.2.2.1, h'.2.2.2.1.trans h.2.2.2.1,
    h'.2.2.2.2.trans h.2.2.2.2⟩

theorem LinkInv.start (S : MirrorStart) : LinkInv S S.link where
  route := ⟨rfl, rfl, rfl, rfl, rfl⟩
  found := ⟨slotsPacked_reached S.url S.past, S.found⟩
  fifo := fun _ => rfl
  field := fun _ => rfl
  sent := Or.inl ⟨S.fresh, rfl, rfl⟩

/-- Other traffic. -/
theorem LinkInv.quiet {S : MirrorStart} {s : Link} (inv : LinkInv S s) {e : HubEv}
    (h_quiet : Quiet S.moduleId e) (reading : Option Channel) :
    LinkInv S { s with hub := step s.hub e, reading := reading } where
  route := inv.route
  found := inv.found.step e
  fifo := inv.fifo
  field := fun f => by
    show f.get ((step s.hub e).gDoors S.slot) = _
    -- the line says nothing about the bit
    rw [step_field f inv.found.2, h_quiet f]
    exact inv.field f
  sent := inv.sent

theorem quiet_check (m : CStr) (now : ℤ) : Quiet m (.check now) := fun _ => rfl

theorem LinkInv.reading {S : MirrorStart} {s : Link} (inv : LinkInv S s)
    (reading : Option Channel) : LinkInv S { s with reading := reading } :=
  ⟨inv.route, inv.found, inv.fifo, inv.field, inv.sent⟩

/-- An update. -/
theorem LinkInv.update {S : MirrorStart} {s : Link} (inv : LinkInv S s) (r : Report) (t : ℤ) :
    LinkInv S (stepLink s (.update r t)) := by
  -- the update is made by the door of the start, up to what it has reported
  have h_route := inv.route
  have h_open : s.door.gSockOpen = true := h_route.1.trans S.sockOpen
  have h_mode : s.door.gMode = ⟨true, true⟩ := h_route.2.2.2.2.trans S.mode
  have h_ports : s.door.gDestNotif ≠ s.door.gDestHb := by
    rw [h_route.2.1, h_route.2.2.1]
    exact S.ports
  have h_id : s.door.gModuleId.str = S.moduleId := congrArg CharBuf.str h_route.2.2.2.1
  have h_text : IsText s.door.gModuleId.str := by
    rw [h_id]
    exact S.idText
  have h_hb : isHb s.door = isHb S.door := by
    unfold isHb
    rw [channelOf_congr h_route]
  obtain ⟨h_outs, h_valid, h_prev, h_same⟩ := doorUdpUpdate_eq h_open r t
  unfold stepLink
  dsimp only
  refine ⟨sameRoute_trans h_route h_same, inv.found, fun c => ?_, inv.field,
    Or.inr ⟨h_valid, ?_, ?_⟩⟩
  · -- what is sent joins the end of its channel
    dsimp only
    rw [channelOf_congr h_route, List.filter_append, ← inv.fifo c]
    simp only [List.append_assoc]
  · rw [h_prev]
    exact List.getLast?_concat
  · intro f
    rw [h_prev, h_outs, ← h_id, ← h_hb]
    -- the first update, or a later one
    rcases inv.sent with ⟨h_fresh, -, h_none⟩ | ⟨h_old, -, h_tracks⟩
    · rw [h_none]
      exact tracks_first h_text h_mode h_ports h_fresh f r t
    · have h_sent := h_tracks f
      rw [← h_id, ← h_hb] at h_sent
      exact tracks_update h_text h_mode h_ports h_old h_sent r t

/-- A datagram arrives. -/
theorem LinkInv.arrive {S : MirrorStart} {s : Link} (inv : LinkInv S s) (c : Channel) :
    LinkInv S (stepLink s (.arrive c)) := by
  unfold stepLink
  dsimp only
  split
  · next o rest h_net =>
    refine ⟨inv.route, inv.found, fun c' => ?_, inv.field, inv.sent⟩
    rw [← inv.fifo c']
    -- the datagram moves from the head of the network to the end of the socket
    by_cases h_c : c' = c
    · subst h_c
      simp only [Function.update_self, h_net, List.append_assoc, List.singleton_append]
    · simp only [Function.update_of_ne h_c]
  · exact inv

/-- A report is handled. -/
theorem LinkInv.recv {S : MirrorStart} {s : Link} (inv : LinkInv S s) (src : SockAddr)
    (t tReg now : ℤ) : LinkInv S (stepLink s (.recv src t tReg now)) := by
  unfold stepLink
  dsimp only
  split
  · next c h_reading =>
    split
    · next o rest h_sock =>
      let e : HubEv := .datagram o.line src t tReg
      refine ⟨inv.route, inv.found.step e, fun c' => ?_, fun f => ?_, inv.sent⟩
      · -- the datagram was at the front of its own channel
        have h_o : channelOf S.door o = c := by
          have h_mem : o ∈ s.sent.filter (fun o => channelOf S.door o = c) := by
            rw [← inv.fifo c, h_sock]
            simp
          exact of_decide_eq_true (List.mem_filter.mp h_mem).2
        rw [← inv.fifo c', List.filter_append]
        by_cases h_c : c' = c
        · subst h_c
          rw [List.filter_singleton, h_o]
          simp only [Function.update_self, h_sock, decide_true, cond_true, List.append_assoc,
            List.cons_append, List.nil_append]
        · have h_ne : channelOf S.door o ≠ c' := fun h_eq => h_c (h_eq.symm.trans h_o)
          rw [List.filter_singleton, decide_eq_false h_ne]
          simp only [Function.update_of_ne h_c, cond_false, List.append_nil]
      · -- the line writes what it says, which is the next element of `handled`
        show f.get ((step s.hub e).gDoors S.slot) = _
        rw [step_field f inv.found.2, lastWrite_concat, inv.field f]
        rfl
    · -- the socket is empty, and `udp_thread` checks for silent modules
      exact inv.quiet (quiet_check _ now) none
  · exact inv

/-- **Step.** -/
theorem LinkInv.step {S : MirrorStart} {s : Link} (inv : LinkInv S s) {e : LinkEv}
    (h_quiet : ∀ e', e = .other e' → Quiet S.moduleId e') : LinkInv S (stepLink s e) := by
  cases e with
  | update r t => exact inv.update r t
  | arrive c => exact inv.arrive c
  | select now =>
    unfold stepLink
    dsimp only
    -- the listener only reads its sockets, and the check says nothing of a state
    split_ifs
    · exact inv
    · exact inv.reading _
    · exact inv.reading _
    · exact inv.quiet (quiet_check _ now) none
  | recv src t tReg now => exact inv.recv src t tReg now
  | endRound now =>
    unfold stepLink
    dsimp only
    split_ifs
    · exact inv.quiet (quiet_check _ now) none
    · exact inv
  | other e => exact inv.quiet (h_quiet e rfl) s.reading

/-- **Run.** -/
theorem MirrorRun.linkInv (R : MirrorRun) : LinkInv R.start R.final := by
  refine run_invariant_of_forall (C := fun e => ∀ e', e = .other e' → Quiet R.start.moduleId e')
    (fun s : Link => LinkInv R.start s) (fun s e h_e inv => inv.step h_e)
    (LinkInv.start R.start) ?_
  rintro e h_mem e' rfl
  exact R.quiet e' h_mem

/-! ### Agreement -/

/-- **Agreement**: `hub_udp_get_status` gives the arguments of the last update. -/
def Mirrors (R : MirrorRun) : Prop :=
  ∃ s, hubUdpGetStatus R.start.moduleId R.final.hub = some s ∧ s.d0Open = R.last.d0Open ∧
    s.d1Locked = R.last.d1Locked

/-- A bit has settled: the last heartbeat that was handled brought the last value, or an event
about the bit was handled after it. -/
def Settled (R : MirrorRun) (f : Field) : Prop :=
  lastSnapshot (outSays R.start.moduleId f) (isHb R.start.door) R.final.handled
      = some (reportField f R.last) ∨
    DeltaLast (outSays R.start.moduleId f) (isHb R.start.door) R.final.handled

/-- The door's guarantee holds for what was handled, since that is what was sent on each channel. -/
theorem MirrorRun.tracks (R : MirrorRun) (f : Field) :
    Tracks (outSays R.start.moduleId f) (isHb R.start.door) (reportField f R.last)
      R.final.handled := by
  have inv := R.linkInv
  -- nothing is left in the network or the sockets, so all that was sent is handled
  have h_all : ∀ c, R.final.handled.filter (fun o => channelOf R.start.door o = c)
      = R.final.sent.filter (fun o => channelOf R.start.door o = c) := by
    intro c
    obtain ⟨h_sock, h_net⟩ : R.final.sock c = [] ∧ R.final.net c = [] := R.drained c
    rw [← inv.fifo c, h_sock, h_net, List.append_nil, List.append_nil]
  have h_reported : R.final.reports.getLast? = some R.last := R.reported
  rcases inv.sent with ⟨-, h_none, -⟩ | ⟨-, h_prev, h_tracks⟩
  · -- a run with a last report has one
    rw [h_none] at h_reported
    exact absurd h_reported (by simp)
  · rw [h_prev, Option.some.injEq] at h_reported
    rw [← h_reported]
    -- snapshots and deltas are two channels, each of which kept its order
    refine (h_tracks f).congr (h_all .hb) ?_
    have h_notif : ∀ o, (!isHb R.start.door o) = decide (channelOf R.start.door o = .notif) := by
      intro o
      unfold isHb
      cases channelOf R.start.door o <;> rfl
    unfold deltas
    simp only [h_notif]
    exact h_all .notif

/-- **Each bit.** -/
theorem MirrorRun.field_eq_iff (R : MirrorRun) (f : Field) :
    f.get (R.final.hub.gDoors R.start.slot) = reportField f R.last ↔ Settled R f := by
  -- the library says when the last write is the last value
  rw [R.linkInv.field f]
  exact (R.tracks f).lastWrite_eq_iff _

/-- **When the mirror agrees.** Once all reports are handled, in whatever order, the hub's status of
the door agrees with its last update if and only if both bits have settled. -/
theorem mirrors_iff (R : MirrorRun) : Mirrors R ↔ ∀ f, Settled R f := by
  -- the slot of the start is still the slot of the module
  have h_found : findDoor R.start.moduleId R.final.hub.gDoors = some R.start.slot :=
    R.linkInv.found.2
  have h_status : hubUdpGetStatus R.start.moduleId R.final.hub
      = some (R.final.hub.gDoors R.start.slot) := by
    unfold hubUdpGetStatus
    rw [h_found]
    rfl
  unfold Mirrors
  rw [h_status]
  constructor
  · rintro ⟨s, h_s, h_open, h_locked⟩ f
    obtain rfl := Option.some.inj h_s
    rw [← R.field_eq_iff f]
    cases f with
    | d0Open => exact h_open
    | d1Locked => exact h_locked
  · intro h_settled
    exact ⟨_, rfl, (R.field_eq_iff .d0Open).mpr (h_settled .d0Open),
      (R.field_eq_iff .d1Locked).mpr (h_settled .d1Locked)⟩

/-! ### A heartbeat that comes too late -/

theorem initD1_found : findDoor (initD1.moduleId.take 15)
    (reached (CharBuf.zero _) [bareDatagram "D1 HELLO\n".toList]).gDoors = some 0 := by
  decide +kernel

/-- The hub has heard of `D1`, which has just started. -/
def startD1 : MirrorStart :=
  .afterInit initD1 .initial initD1_ok initD1_mode initD1_ports initD1_isText (CharBuf.zero _)
    [bareDatagram "D1 HELLO\n".toList] 0 initD1_found

/-- One heartbeat arrives. -/
def heartbeatEvents : List LinkEv :=
  [.update ⟨false, false, false, true⟩ 0, .arrive .hb, .select 2, .recv SockAddr.zero 2 2 2]

def oneHeartbeat : MirrorRun where
  start := startD1
  events := heartbeatEvents
  quiet := by simp [heartbeatEvents]
  last := ⟨false, false, false, true⟩
  reported := by decide +kernel
  drained := by
    intro c
    cases c <;> decide +kernel

theorem mirrors_oneHeartbeat : Mirrors oneHeartbeat :=
  (mirrors_iff oneHeartbeat).mpr (fun f => Or.inl (by cases f <;> decide +kernel))

/-- The door opens right after its first heartbeat. Both datagrams are there when `udp_thread`
looks, and the event is read first. -/
def staleEvents : List LinkEv :=
  [.update ⟨false, false, false, true⟩ 0, .update ⟨true, false, false, true⟩ 1,
    .arrive .hb, .arrive .notif, .select 2, .recv SockAddr.zero 2 2 2, .recv SockAddr.zero 2 2 2,
    .select 3, .recv SockAddr.zero 3 3 3, .recv SockAddr.zero 3 3 3]

theorem staleEvents_reported : (run stepLink startD1.link staleEvents).reports.getLast?
    = some ⟨true, false, false, true⟩ := by decide +kernel

theorem staleEvents_drained (c : Channel) :
    (run stepLink startD1.link staleEvents).sock c = [] ∧
      (run stepLink startD1.link staleEvents).net c = [] := by
  cases c <;> decide +kernel

def staleHeartbeat : MirrorRun where
  start := startD1
  events := staleEvents
  quiet := by simp [staleEvents]
  last := ⟨true, false, false, true⟩
  reported := staleEvents_reported
  drained := staleEvents_drained

/-- The hub takes the open door for closed. -/
theorem not_mirrors : ¬ Mirrors staleHeartbeat := by
  rintro ⟨s, h_s, h_open, -⟩
  have h_status : (hubUdpGetStatus staleHeartbeat.start.moduleId staleHeartbeat.final.hub).map
      (fun s => s.d0Open) = some false := by decide +kernel
  rw [h_s, Option.map_some, h_open] at h_status
  exact absurd h_status (by decide)

end System

end DoorSystem
