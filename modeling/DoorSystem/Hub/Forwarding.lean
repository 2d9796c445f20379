import DoorSystem.Hub.SlotIdentity

/-!
# Commands on their way to a module

A COMMAND line of a client is forwarded over the endpoint table, but `handle_line` gets there only
with a door slot for the module, and it registers the client before it tries to forward. The
endpoint table has room for 16 modules and the door table for 8, so a module can have one without
the other.

`handleLine_command` is what a complete COMMAND line does. `commandRouted_iff`: a line is forwarded
whenever its module has an endpoint, and registered only when it is forwarded, exactly when the two
tables agree about the module.
-/

namespace DoorSystem

open CLib

namespace Hub

/-! ### The endpoint of a module -/

/-- The address in the entry that `hub_find_endpoint` finds. -/
def endpointAddr (m : CStr) (eps : List HubEndpoint) : Option SockAddr :=
  ((hubFindEndpoint m eps).bind (fun i => eps[i]?)).map HubEndpoint.addr

/-- Every entry of the endpoint table has its address. -/
def EndpointsReady (eps : List HubEndpoint) : Prop := ∀ ep ∈ eps, ep.hasAddr = true

theorem EndpointsReady.hubUpdateEndpoint {eps : List HubEndpoint} (h : EndpointsReady eps)
    (m : CStr) (src : SockAddr) : EndpointsReady (hubUpdateEndpoint m src eps) := by
  unfold Hub.hubUpdateEndpoint
  split
  · next i _ =>
    -- the entry of the module gets its address, the others keep theirs
    intro ep h_ep
    obtain ⟨j, h_j⟩ := List.mem_iff_getElem?.mp h_ep
    rw [List.getElem?_modify] at h_j
    obtain ⟨ep', h_ep', rfl⟩ := Option.map_eq_some_iff.mp h_j
    split_ifs
    · rfl
    · exact h ep' (List.mem_of_getElem? h_ep')
  · split_ifs
    · exact h
    · intro ep h_ep
      rcases List.mem_append.mp h_ep with h_old | h_new
      · exact h ep h_old
      · rw [List.mem_singleton.mp h_new]

/-- The forwarding path is open: the socket is, and every endpoint has its address. -/
structure PathOpen (h : HubState) : Prop where
  sock : h.gSockOpen = true
  ready : EndpointsReady h.gEndpoints

theorem dispatchLine_gSockOpen (mod type : CStr) (args : List CStr) (raw : CStr)
    (src : SockAddr) (t tReg : ℤ) (d : Fin HUB_MAX_DOORS) (histLine : CharBuf HUB_LINE_LEN)
    (h : HubState) :
    (dispatchLine mod type args raw src t tReg d histLine h).1.gSockOpen = h.gSockOpen := by
  unfold dispatchLine feedbackBranch commandBranch
  split_ifs
  · rfl
  · rfl
  · split <;> rfl
  · split <;> rfl
  · rfl

theorem checkOfflineLoop_gSockOpen (now : ℤ) (is : List (Fin HUB_MAX_DOORS)) (h : HubState) :
    (checkOfflineLoop now is h).1.gSockOpen = h.gSockOpen := by
  induction is generalizing h with
  | nil => rfl
  | cons i is ih =>
    unfold checkOfflineLoop
    dsimp only
    -- each check of a slot leaves the socket alone
    rw [ih]
    unfold checkOfflineDoor
    dsimp only
    split_ifs <;> rfl

/-- Nothing that happens to a running hub closes its socket. -/
theorem step_gSockOpen (h : HubState) (e : HubEv) : (step h e).gSockOpen = h.gSockOpen := by
  cases e with
  | datagram data src t tReg =>
    show (receiveDatagram data src t tReg h).1.gSockOpen = _
    rw [receiveDatagram_eq]
    unfold handleLine
    split
    · next mod type args _ =>
      dsimp only
      -- without a slot only the history changes
      rcases findOrCreateDoor mod h.gDoors with ⟨g', _ | d⟩
      · rfl
      · rw [dispatchLine_gSockOpen]
        rfl
    · rfl
  | check now => exact checkOfflineLoop_gSockOpen now _ h
  | alloc => rfl

/-- **Step.** -/
theorem PathOpen.step {h : HubState} (h_open : PathOpen h) (e : HubEv) :
    PathOpen (Hub.step h e) where
  sock := by
    rw [step_gSockOpen]
    exact h_open.sock
  ready := by
    rw [step_gEndpoints]
    split
    · -- a COMMAND line leaves the endpoints alone, another one may write its own
      split_ifs
      · exact h_open.ready
      · exact h_open.ready.hubUpdateEndpoint _ _
    · exact h_open.ready

/-- **Run.** -/
theorem pathOpen_reached (url : CharBuf 512) (es : List HubEv) : PathOpen (reached url es) := by
  -- at the start the socket is open and there are no endpoints
  refine run_invariant PathOpen (fun _ e h_open => h_open.step e) ⟨rfl, ?_⟩ es
  exact fun ep h_ep => absurd h_ep List.not_mem_nil

/-- What is forwarded on an open path. -/
theorem hubForwardCommandToModule_eq {h : HubState} (h_open : PathOpen h) (m line : CStr) :
    hubForwardCommandToModule m line h =
      match endpointAddr m h.gEndpoints with
      | some addr => [.forward addr line]
      | none => [] := by
  unfold hubForwardCommandToModule endpointAddr
  cases h_ep : (hubFindEndpoint m h.gEndpoints).bind (fun i => h.gEndpoints[i]?) with
  | none => rfl
  | some ep =>
    -- the test of `has_addr` and of the socket succeeds
    obtain ⟨i, -, h_i⟩ := Option.bind_eq_some_iff.mp h_ep
    have h_ready : ep.hasAddr = true := h_open.ready ep (List.mem_of_getElem? h_i)
    dsimp only
    rw [if_pos (by rw [h_ready, h_open.sock]; rfl)]
    rfl

/-! ### Forwards among the datagrams sent -/

/-- The forwarded datagrams. -/
def forwardsOf (outs : List HubOut) : List (SockAddr × CStr) :=
  outs.filterMap (fun o => match o with
    | .forward dst msg => some (dst, msg)
    | _ => none)

theorem forwardsOf_alerts (url : CharBuf 512) (mod type door state : CStr) :
    forwardsOf (triggerDiscordAlert url mod type door state) = [] := by
  unfold triggerDiscordAlert
  split <;> rfl

theorem forwardsOf_check (now : ℤ) (is : List (Fin HUB_MAX_DOORS)) (h : HubState) :
    forwardsOf (checkOfflineLoop now is h).2 = [] := by
  induction is generalizing h with
  | nil => rfl
  | cons i is ih =>
    have h_door : forwardsOf (checkOfflineDoor now i h).2 = [] := by
      -- one slot: an alert, or nothing
      unfold checkOfflineDoor
      dsimp only
      split_ifs
      · rfl
      · exact forwardsOf_alerts _ _ _ _ _
      · exact forwardsOf_alerts _ _ _ _ _
      · rfl
    unfold checkOfflineLoop
    dsimp only
    unfold forwardsOf at h_door ih ⊢
    rw [List.filterMap_append, h_door, ih]
    rfl

theorem forwardsOf_dispatchLine {mod type : CStr} {args : List CStr}
    (h_c : commandOf (mod :: type :: args) = none) (raw : CStr) (src : SockAddr) (t tReg : ℤ)
    (d : Fin HUB_MAX_DOORS) (histLine : CharBuf HUB_LINE_LEN) (h : HubState) :
    forwardsOf (dispatchLine mod type args raw src t tReg d histLine h).2 = [] := by
  unfold dispatchLine
  split_ifs with h_hb h_ev h_fb h_cmd
  · rfl
  · unfold eventAlerts
    split
    · split_ifs
      · exact forwardsOf_alerts _ _ _ _ _
      · rfl
    · rfl
  · unfold feedbackBranch
    split
    · dsimp only
      split <;> rfl
    · rfl
  · -- a COMMAND line without one of its arguments
    unfold commandBranch
    split
    · rw [h_cmd] at h_c
      unfold commandOf at h_c
      rw [cmdWords_self] at h_c
      exact absurd h_c (by simp)
    · rfl
  · rfl

/-- Only complete COMMAND lines are forwarded. -/
theorem forwardsOf_exec {e : HubEv} (h_c : commandOf e.words = none) (h : HubState) :
    forwardsOf (exec h e).2 = [] := by
  cases e with
  | datagram data src t tReg =>
    show forwardsOf (receiveDatagram data src t tReg h).2 = []
    change commandOf (lineTokens (datagramLine data)) = none at h_c
    rw [receiveDatagram_eq]
    unfold handleLine
    split
    · next mod type args h_words =>
      rw [h_words] at h_c
      dsimp only
      -- an untracked module is not dispatched
      rcases findOrCreateDoor mod h.gDoors with ⟨g', _ | d⟩
      · rfl
      · exact forwardsOf_dispatchLine h_c _ _ _ _ _ _ _
    · rfl
  | check now => exact forwardsOf_check now _ h
  | alloc => rfl

/-! ### Where an endpoint leads -/

/-- A module that was heard from `src` is reached there. -/
theorem endpointAddr_hubUpdateEndpoint_self {m : CStr} {eps : List HubEndpoint} (src : SockAddr)
    (h_m : m.length < HUB_MODULE_ID_LEN) (h_slot : endpointSlot m eps ≠ none) :
    endpointAddr m (hubUpdateEndpoint m src eps) = some src := by
  obtain ⟨i, h_i⟩ := Option.ne_none_iff_exists'.mp h_slot
  have h_find := hubFindEndpoint_hubUpdateEndpoint h_m src h_i
  unfold endpointAddr
  rw [h_find, Option.bind_some]
  unfold hubUpdateEndpoint
  unfold endpointSlot at h_i
  -- the entry is there, or it is appended to the list
  cases h_old : hubFindEndpoint m eps with
  | some j =>
    rw [h_old] at h_i
    obtain rfl : j = i := Option.some.inj h_i
    dsimp only
    have h_lt : j < eps.length := by
      unfold hubFindEndpoint at h_old
      exact (List.findIdx?_eq_some_iff_getElem.mp h_old).1
    rw [List.getElem?_modify_eq, List.getElem?_eq_getElem h_lt]
    rfl
  | none =>
    rw [h_old] at h_i
    dsimp only at h_i ⊢
    split_ifs at h_i ⊢ with h_full
    obtain rfl : eps.length = i := Option.some.inj h_i
    rw [List.getElem?_concat_length]
    rfl

/-- The line of one module leaves the endpoints of the others alone. -/
theorem endpointAddr_hubUpdateEndpoint_of_ne {m m' : CStr} {eps : List HubEndpoint}
    (src : SockAddr) (h_ne : m' ≠ m) {addr : SockAddr} (h_addr : endpointAddr m eps = some addr) :
    endpointAddr m (hubUpdateEndpoint m' src eps) = some addr := by
  unfold endpointAddr at h_addr ⊢
  obtain ⟨ep, h_ep, h_eq⟩ := Option.map_eq_some_iff.mp h_addr
  obtain ⟨i, h_find, h_get⟩ := Option.bind_eq_some_iff.mp h_ep
  rw [hubFindEndpoint_mono m' src h_find, Option.bind_some]
  refine Option.map_eq_some_iff.mpr ⟨ep, ?_, h_eq⟩
  unfold hubUpdateEndpoint
  cases h_other : hubFindEndpoint m' eps with
  | some j =>
    -- entries that are found for different ids are different
    have h_ij : j ≠ i := by
      rintro rfl
      unfold hubFindEndpoint at h_find h_other
      obtain ⟨h_lt, h_id, -⟩ := List.findIdx?_eq_some_iff_getElem.mp h_find
      obtain ⟨h_lt', h_id', -⟩ := List.findIdx?_eq_some_iff_getElem.mp h_other
      rw [beq_iff_eq] at h_id h_id'
      exact h_ne (h_id'.symm.trans h_id)
    dsimp only
    rw [List.getElem?_modify_ne _ _ h_ij]
    exact h_get
  | none =>
    dsimp only
    split_ifs
    · exact h_get
    · exact List.getElem?_append_left (List.getElem?_eq_some_iff.mp h_get).1 ▸ h_get

/-! ### A command -/

/-- A datagram with a complete COMMAND line. -/
structure CommandLine where
  data : List Char
  words : CmdWords
  complete : commandOf (lineTokens (datagramLine data)) = some words

/-- The line is handled. -/
def CommandLine.event (l : CommandLine) (src : SockAddr) (t tReg : ℤ) : HubEv :=
  .datagram l.data src t tReg

theorem handleLine_command {line : CStr} {c : CmdWords} (h_c : commandOf (lineTokens line) = some c)
    (raw : CStr) (src : SockAddr) (t tReg : ℤ) {h : HubState} (h_slot : HasSlot c.mod h.gDoors) :
    (handleLine line raw src t tReg h).2 = hubForwardCommandToModule c.mod raw h ∧
      (handleLine line raw src t tReg h).1.gPendingCmds
        = registerClientCommand c.cmdid c.mod src tReg h.gPendingCmds := by
  obtain ⟨cmdidS, rest, h_words, h_id⟩ := cmdWords_eq_some h_c
  unfold HasSlot at h_slot
  unfold handleLine
  rw [h_words]
  dsimp only
  rcases h_find : findOrCreateDoor c.mod h.gDoors with ⟨g', _ | d⟩
  · rw [h_find] at h_slot
    exact absurd rfl h_slot
  · -- none of the other branches takes a COMMAND line
    dsimp only
    unfold dispatchLine
    rw [if_neg (by decide), if_neg (by decide), if_neg (by decide), if_pos rfl, h_id]
    exact ⟨rfl, rfl⟩

/-- **What a command does** on an open path: with a slot for its module it is registered, and
forwarded if the module has an endpoint; without a slot it is dropped. -/
theorem exec_command {h : HubState} (h_open : PathOpen h) (l : CommandLine) (src : SockAddr)
    (t tReg : ℤ) :
    (HasSlot l.words.mod h.gDoors ∧
      (exec h (l.event src t tReg)).2 = (match endpointAddr l.words.mod h.gEndpoints with
        | some addr => [.forward addr (datagramLine l.data)]
        | none => []) ∧
      (step h (l.event src t tReg)).gPendingCmds
        = registerClientCommand l.words.cmdid l.words.mod src tReg h.gPendingCmds) ∨
    (¬ HasSlot l.words.mod h.gDoors ∧ (exec h (l.event src t tReg)).2 = [] ∧
      (step h (l.event src t tReg)).gPendingCmds = h.gPendingCmds) := by
  show (_ ∧ (receiveDatagram l.data src t tReg h).2 = _ ∧
      (receiveDatagram l.data src t tReg h).1.gPendingCmds = _) ∨
    (_ ∧ (receiveDatagram l.data src t tReg h).2 = _ ∧
      (receiveDatagram l.data src t tReg h).1.gPendingCmds = _)
  rw [receiveDatagram_eq]
  by_cases h_slot : HasSlot l.words.mod h.gDoors
  · obtain ⟨h_out, h_pend⟩ := handleLine_command l.complete (datagramLine l.data) src t tReg h_slot
    rw [hubForwardCommandToModule_eq h_open] at h_out
    exact Or.inl ⟨h_slot, h_out, h_pend⟩
  · -- an untracked module
    obtain ⟨cmdidS, rest, h_words, -⟩ := cmdWords_eq_some l.complete
    obtain ⟨h_pend, h_out⟩ :=
      handleLine_untracked h_words (datagramLine l.data) src t tReg h h_slot
    exact Or.inr ⟨h_slot, h_out, h_pend⟩

/-- The client `src` is registered for the command. -/
def Registered (c : CmdWords) (src : SockAddr) (g : PendingTable) : Prop :=
  ∃ i, Matches g c.mod c.cmdid i ∧ (g i).clientAddr = src

/-- **Routing** of a command, whoever sends it and whenever: it is forwarded as it was received and
registered if its module has an endpoint, and it changes the table of client commands only if it
is forwarded. -/
def CommandRouted (h : HubState) (l : CommandLine) : Prop :=
  ∀ src t tReg,
    (∀ addr, endpointAddr l.words.mod h.gEndpoints = some addr →
      (exec h (l.event src t tReg)).2 = [.forward addr (datagramLine l.data)] ∧
        Registered l.words src (step h (l.event src t tReg)).gPendingCmds) ∧
    ((step h (l.event src t tReg)).gPendingCmds ≠ h.gPendingCmds →
      ∃ addr, (exec h (l.event src t tReg)).2 = [.forward addr (datagramLine l.data)])

/-- An id with an endpoint is one that fits into its buffer. -/
theorem length_lt_of_endpointAddr {m : CStr} {eps : List HubEndpoint} {addr : SockAddr}
    (h : endpointAddr m eps = some addr) : m.length < HUB_MODULE_ID_LEN := by
  obtain ⟨ep, h_ep, -⟩ := Option.map_eq_some_iff.mp h
  obtain ⟨i, h_i, h_get⟩ := Option.bind_eq_some_iff.mp h_ep
  unfold hubFindEndpoint at h_i
  obtain ⟨h_lt, h_id, -⟩ := List.findIdx?_eq_some_iff_getElem.mp h_i
  rw [List.getElem?_eq_getElem h_lt, Option.some.injEq] at h_get
  rw [h_get, beq_iff_eq] at h_id
  -- the id is stored in the endpoint
  rw [← h_id]
  exact ep.moduleId.fits

/-- A command that is registered is found for its module, if the id of the module fits. -/
theorem registered_registerClientCommand {c : CmdWords} (h_fits : c.mod.length < HUB_MODULE_ID_LEN)
    (src : SockAddr) (now : ℤ) (g : PendingTable) :
    Registered c src (registerClientCommand c.cmdid c.mod src now g) := by
  refine ⟨registerSlot g, ?_, ?_⟩
  · unfold Matches registerClientCommand
    rw [Function.update_self]
    exact ⟨rfl, snprintf_of_fits h_fits⟩
  · unfold registerClientCommand
    rw [Function.update_self]

/-- Registering a command leaves its time, so it does not leave every table as it was. -/
theorem exists_registerClientCommand_ne (c : CmdWords) (src : SockAddr) (g : PendingTable) :
    ∃ tReg, registerClientCommand c.cmdid c.mod src tReg g ≠ g := by
  -- any time other than the one that stands in the slot will do
  refine ⟨(g (registerSlot g)).issuedMs + 1, fun h_eq => ?_⟩
  have h_stamp := congrArg PendingClientCmd.issuedMs (congrFun h_eq (registerSlot g))
  unfold registerClientCommand at h_stamp
  rw [Function.update_self] at h_stamp
  dsimp only at h_stamp
  omega

/-- **When commands are routed.** In every reachable state, a complete COMMAND line is routed if
and only if its module has an endpoint exactly when it has a door slot or can get one. -/
theorem commandRouted_iff (url : CharBuf 512) (past : List HubEv) (l : CommandLine) :
    CommandRouted (reached url past) l ↔
      (endpointAddr l.words.mod (reached url past).gEndpoints ≠ none ↔
        HasSlot l.words.mod (reached url past).gDoors) := by
  have h_exec := exec_command (pathOpen_reached url past) l
  constructor
  · intro h_routed
    constructor
    · -- a module with an endpoint and no slot: its command is dropped
      intro h_ep
      obtain ⟨addr, h_addr⟩ := Option.ne_none_iff_exists'.mp h_ep
      by_contra h_slot
      rcases h_exec SockAddr.zero 0 0 with ⟨h_has, -⟩ | ⟨-, h_out, -⟩
      · exact h_slot h_has
      · have h_sent := ((h_routed SockAddr.zero 0 0).1 addr h_addr).1
        rw [h_out] at h_sent
        exact absurd h_sent (by simp)
    · -- a module with a slot and no endpoint: its command is registered all the same
      intro h_slot h_ep
      obtain ⟨tReg, h_ne⟩ :=
        exists_registerClientCommand_ne l.words SockAddr.zero (reached url past).gPendingCmds
      rcases h_exec SockAddr.zero 0 tReg with ⟨-, h_out, h_pend⟩ | ⟨h_no, -⟩
      · rw [h_ep] at h_out
        obtain ⟨addr, h_sent⟩ := (h_routed SockAddr.zero 0 tReg).2 (by rw [h_pend]; exact h_ne)
        rw [h_out] at h_sent
        exact absurd h_sent (by simp)
      · exact h_no h_slot
  · intro h_agree src t tReg
    rcases h_exec src t tReg with ⟨h_slot, h_out, h_pend⟩ | ⟨h_slot, h_out, h_pend⟩
    · -- a slot, hence an endpoint: forwarded and registered
      obtain ⟨addr, h_addr⟩ := Option.ne_none_iff_exists'.mp (h_agree.mpr h_slot)
      rw [h_addr] at h_out
      refine ⟨fun addr' h_addr' => ?_, fun _ => ⟨addr, h_out⟩⟩
      obtain rfl : addr = addr' := Option.some.inj (h_addr.symm.trans h_addr')
      refine ⟨h_out, ?_⟩
      rw [h_pend]
      exact registered_registerClientCommand (length_lt_of_endpointAddr h_addr) _ _ _
    · -- no slot, hence no endpoint: the line may be dropped
      refine ⟨fun addr h_addr => ?_, fun h_ne => absurd h_pend h_ne⟩
      exact absurd (h_agree.mp (by rw [h_addr]; simp)) h_slot

/-- A command to lock the module `m`. -/
def lockCommand (m : CStr) : List Char := m ++ " COMMAND 1 D0 LOCK\n".toList

/-- Nine modules that have said HELLO. -/
def nineHellos : List HubEv :=
  ["M1", "M2", "M3", "M4", "M5", "M6", "M7", "M8", "M9"].map
    (fun m => bareDatagram (m.toList ++ " HELLO\n".toList))

/-- The command for the ninth module is dropped, and one for a module that was never heard is
registered. -/
theorem not_commandRouted :
    (∃ l : CommandLine, l.data = lockCommand "M9".toList ∧
      endpointAddr l.words.mod (reached (CharBuf.zero _) nineHellos).gEndpoints
        = some SockAddr.zero ∧
      ¬ CommandRouted (reached (CharBuf.zero _) nineHellos) l) ∧
    ∃ l : CommandLine, l.data = lockCommand "D1".toList ∧
      ¬ CommandRouted (reached (CharBuf.zero _) []) l := by
  constructor
  · let l : CommandLine := ⟨lockCommand "M9".toList, ⟨"M9".toList, 1, "D0".toList, "LOCK".toList⟩,
      by decide +kernel⟩
    have h_ep : endpointAddr l.words.mod (reached (CharBuf.zero _) nineHellos).gEndpoints
        = some SockAddr.zero := by decide +kernel
    refine ⟨l, rfl, h_ep, fun h_routed => ?_⟩
    have h_out : (exec (reached (CharBuf.zero _) nineHellos)
        (l.event SockAddr.zero 0 0)).2 = [] := by
      decide +kernel
    have h_sent := ((h_routed SockAddr.zero 0 0).1 _ h_ep).1
    rw [h_out] at h_sent
    exact absurd h_sent (by simp)
  · let l : CommandLine := ⟨lockCommand "D1".toList, ⟨"D1".toList, 1, "D0".toList, "LOCK".toList⟩,
      by decide +kernel⟩
    refine ⟨l, rfl, fun h_routed => ?_⟩
    have h_out : (exec (reached (CharBuf.zero _) []) (l.event SockAddr.zero 0 0)).2 = [] := by
      decide +kernel
    have h_changed : (step (reached (CharBuf.zero _) []) (l.event SockAddr.zero 0 0)).gPendingCmds
        ≠ (reached (CharBuf.zero _) []).gPendingCmds := by
      intro h_eq
      -- the first entry of the table has the number of the command
      have h_id := congrArg PendingClientCmd.cmdid (congrFun h_eq 0)
      revert h_id
      decide +kernel
    obtain ⟨addr, h_sent⟩ := (h_routed SockAddr.zero 0 0).2 h_changed
    rw [h_out] at h_sent
    exact absurd h_sent (by simp)

end Hub

end DoorSystem
