import DoorSystem.Hub.Fields
import DoorSystem.Hub.Forwarding
import DoorSystem.Hub.Journal
import DoorSystem.Hub.Relay

/-!
# Shutdown and restart

`hub_udp_init` and `hub_udp_shutdown` around the runs of the receiver thread, over the whole life
of a process. `hub_udp_init` clears the doors, the history and the endpoints; the table of pending
client commands and the command counter are static variables that it leaves as they are.

The counter and the webhook URL have no part in what the receiver thread relays, forwards and
stores (`Alike.step`), so a restart is a clean slate exactly as long as the table is still the one
of a new process: `restartsClean_iff`.
-/

namespace DoorSystem

open CLib

namespace Hub

/-! ### The life of a process -/

/-- The table of a process that has registered no command. -/
def emptyPending : PendingTable := fun _ => ⟨0, SockAddr.zero, CharBuf.zero _, 0⟩

/-- The static variables before the first `hub_udp_init`. -/
def HubState.static (url : CharBuf 512) : HubState :=
  { HubState.initial url with gSockOpen := false }

/-- `hub_udp_init`, by whether its sockets can be opened and bound and its thread created. -/
def hubUdpInit (socketsBound threadCreated : Bool) (h : HubState) : HubState × Bool :=
  if h.gSockOpen then (h, false)
  else if !socketsBound then (h, false)
  else
    let h := { h with gSockOpen := true }
    let h := { h with
      gDoors := fun _ => HubDoorStatus.zero
      gHistory := ⟨fun _ => ⟨0, CharBuf.zero _, CharBuf.zero _⟩, 0, 0⟩
      gEndpoints := [] }
    if !threadCreated then ({ h with gSockOpen := false }, false) else (h, true)

/-- `hub_udp_shutdown`. -/
def hubUdpShutdown (h : HubState) : HubState := { h with gSockOpen := false }

/-- `hub_udp_set_webhook_url`. -/
def hubUdpSetWebhookUrl (url : CStr) (h : HubState) : HubState :=
  { h with gWebhookUrl := snprintf _ url }

/-- What happens in the life of a process. -/
inductive LifeEv
  | hub (e : HubEv)
  | setWebhookUrl (url : CStr)
  | init (socketsBound threadCreated : Bool)
  | shutdown

/-- One event. The receiver thread runs while the sockets are open; local calls take command
numbers at any time. -/
def lifeStep (h : HubState) : LifeEv → HubState
  | .hub .alloc => step h .alloc
  | .hub e => if h.gSockOpen then step h e else h
  | .setWebhookUrl url => hubUdpSetWebhookUrl url h
  | .init socketsBound threadCreated => (hubUdpInit socketsBound threadCreated h).1
  | .shutdown => hubUdpShutdown h

/-- The process after the events `past`. -/
def lived (url : CharBuf 512) (past : List LifeEv) : HubState :=
  run lifeStep (HubState.static url) past

-- a first successful `hub_udp_init` leaves the state in which all runs of the hub start
example (url : CharBuf 512) :
    hubUdpInit true true (HubState.static url) = (HubState.initial url, true) := rfl

/-! ### What can be seen of a run -/

/-- What is sent, event by event. -/
def sentBy : HubState → List HubEv → List (List HubOut)
  | _, [] => []
  | h, e :: es => (exec h e).2 :: sentBy (step h e) es

/-- The events `es` lead to the same statuses, history, forwards and relays. -/
structure SameRun (h h' : HubState) (es : List HubEv) : Prop where
  statuses : ∀ m, hubUdpGetStatus m (run step h es) = hubUdpGetStatus m (run step h' es)
  history : ∀ n, hubUdpGetHistory n (run step h es).gHistory
    = hubUdpGetHistory n (run step h' es).gHistory
  forwards : (sentBy h es).map forwardsOf = (sentBy h' es).map forwardsOf
  relays : (sentBy h es).map relaysOf = (sentBy h' es).map relaysOf

/-- After `hub_udp_shutdown` and a successful `hub_udp_init` the process behaves as a new one. -/
def RestartsClean (url : CharBuf 512) (past : List LifeEv) : Prop :=
  ∀ socketsBound threadCreated h,
    hubUdpInit socketsBound threadCreated (hubUdpShutdown (lived url past)) = (h, true) →
      ∀ url' es, SameRun h (HubState.initial url') es

/-- The event takes a command: it is a complete COMMAND line with a slot for its module. -/
def Takes (h : HubState) (e : HubEv) : Prop :=
  ∃ c, commandOf e.words = some c ∧ HasSlot c.mod h.gDoors

/-- The receiver thread takes a command. -/
def TakesCommand (h : HubState) (l : LifeEv) : Prop :=
  ∃ e, l = .hub e ∧ h.gSockOpen = true ∧ Takes h e

/-- The process has taken no command. -/
def NoCommandTaken (url : CharBuf 512) (past : List LifeEv) : Prop :=
  ∀ pre l post, past = pre ++ l :: post → ¬ TakesCommand (lived url pre) l

/-! ### The counter and the URL have no part in a run -/

/-- The states differ in the counter and the URL only. -/
structure Alike (h h' : HubState) : Prop where
  endpoints : h'.gEndpoints = h.gEndpoints
  sock : h'.gSockOpen = h.gSockOpen
  doors : h'.gDoors = h.gDoors
  history : h'.gHistory = h.gHistory
  pending : h'.gPendingCmds = h.gPendingCmds

theorem forwardsOf_eventAlerts (url : CharBuf 512) (mod : CStr) (args : List CStr) :
    forwardsOf (eventAlerts url mod args) = [] := by
  unfold eventAlerts
  split
  · split_ifs
    · exact forwardsOf_alerts _ _ _ _ _
    · rfl
  · rfl

theorem Alike.dispatchLine {h h' : HubState} (h_like : Alike h h') (mod type : CStr)
    (args : List CStr) (raw : CStr) (src : SockAddr) (t tReg : ℤ) (d : Fin HUB_MAX_DOORS)
    (histLine : CharBuf HUB_LINE_LEN) :
    Alike (Hub.dispatchLine mod type args raw src t tReg d histLine h).1
        (Hub.dispatchLine mod type args raw src t tReg d histLine h').1 ∧
      forwardsOf (Hub.dispatchLine mod type args raw src t tReg d histLine h').2
        = forwardsOf (Hub.dispatchLine mod type args raw src t tReg d histLine h).2 ∧
      relaysOf (Hub.dispatchLine mod type args raw src t tReg d histLine h').2
        = relaysOf (Hub.dispatchLine mod type args raw src t tReg d histLine h).2 := by
  obtain ⟨eps, sock, url, next, doors, hist, pend⟩ := h
  obtain ⟨eps', sock', url', next', doors', hist', pend'⟩ := h'
  obtain ⟨rfl, rfl, rfl, rfl, rfl⟩ := h_like
  unfold Hub.dispatchLine
  split_ifs
  · exact ⟨⟨rfl, rfl, rfl, rfl, rfl⟩, rfl, rfl⟩
  · -- the alerts of an EVENT go to neither side
    refine ⟨⟨rfl, rfl, rfl, rfl, rfl⟩, ?_, ?_⟩
    · rw [forwardsOf_eventAlerts, forwardsOf_eventAlerts]
    · rw [relaysOf_eventAlerts, relaysOf_eventAlerts]
  · unfold feedbackBranch
    split
    · next cmdidS target action _ =>
      -- the same client is found, if any
      dsimp only [HubState.modifyDoor]
      generalize getAndClearClientCmd mod (atoi cmdidS) pend' = found
      exact ⟨⟨rfl, rfl, rfl, rfl, rfl⟩, rfl, rfl⟩
    · exact ⟨⟨rfl, rfl, rfl, rfl, rfl⟩, rfl, rfl⟩
  · unfold commandBranch
    split
    · exact ⟨⟨rfl, rfl, rfl, rfl, rfl⟩, rfl, rfl⟩
    · exact ⟨⟨rfl, rfl, rfl, rfl, rfl⟩, rfl, rfl⟩
  · exact ⟨⟨rfl, rfl, rfl, rfl, rfl⟩, rfl, rfl⟩

/-- A line does the same to both. -/
theorem Alike.handleLine {h h' : HubState} (h_like : Alike h h') (line raw : CStr)
    (src : SockAddr) (t tReg : ℤ) :
    Alike (Hub.handleLine line raw src t tReg h).1 (Hub.handleLine line raw src t tReg h').1 ∧
      forwardsOf (Hub.handleLine line raw src t tReg h').2
        = forwardsOf (Hub.handleLine line raw src t tReg h).2 ∧
      relaysOf (Hub.handleLine line raw src t tReg h').2
        = relaysOf (Hub.handleLine line raw src t tReg h).2 := by
  obtain ⟨eps, sock, url, next, doors, hist, pend⟩ := h
  obtain ⟨eps', sock', url', next', doors', hist', pend'⟩ := h'
  obtain ⟨rfl, rfl, rfl, rfl, rfl⟩ := h_like
  unfold Hub.handleLine
  split
  · next mod type args _ =>
    dsimp only [HubState.modifyDoor]
    rcases findOrCreateDoor mod doors' with ⟨g, _ | d⟩
    · exact ⟨⟨rfl, rfl, rfl, rfl, rfl⟩, rfl, rfl⟩
    · -- both go on to the dispatch
      refine Alike.dispatchLine ?_ mod type args raw src t tReg d _
      exact ⟨rfl, rfl, rfl, rfl, rfl⟩
  · exact ⟨⟨rfl, rfl, rfl, rfl, rfl⟩, rfl, rfl⟩

/-- **Step.** Such states do the same, and stay so. -/
theorem Alike.step {h h' : HubState} (h_like : Alike h h') (e : HubEv) :
    Alike (Hub.step h e) (Hub.step h' e) ∧
      forwardsOf (exec h' e).2 = forwardsOf (exec h e).2 ∧
      relaysOf (exec h' e).2 = relaysOf (exec h e).2 := by
  cases e with
  | datagram data src t tReg =>
    show Alike (receiveDatagram data src t tReg h).1 (receiveDatagram data src t tReg h').1 ∧
      forwardsOf (receiveDatagram data src t tReg h').2
        = forwardsOf (receiveDatagram data src t tReg h).2 ∧
      relaysOf (receiveDatagram data src t tReg h').2
        = relaysOf (receiveDatagram data src t tReg h).2
    -- a line reads neither the counter nor, but for alerts, the URL
    rw [receiveDatagram_eq, receiveDatagram_eq]
    exact h_like.handleLine _ _ src t tReg
  | check now =>
    -- a check reads the doors only
    have h_frame := checkOfflineModules_offlineOnly now h
    have h_frame' := checkOfflineModules_offlineOnly now h'
    refine ⟨⟨?_, ?_, ?_, ?_, ?_⟩, ?_, ?_⟩
    · calc (Hub.step h' (.check now)).gEndpoints
          = h'.gEndpoints := h_frame'.endpoints
        _ = h.gEndpoints := h_like.endpoints
        _ = (Hub.step h (.check now)).gEndpoints := h_frame.endpoints.symm
    · rw [step_gSockOpen, step_gSockOpen, h_like.sock]
    · funext i
      rw [step_check_gDoors, step_check_gDoors, h_like.doors]
    · rw [step_gHistory, step_gHistory, h_like.history]
      show addHistories _ ((List.finRange _).filterMap (fun i => slotCall now (h'.gDoors i))) = _
      rw [h_like.doors]
      rfl
    · calc (Hub.step h' (.check now)).gPendingCmds
          = h'.gPendingCmds := h_frame'.pending
        _ = h.gPendingCmds := h_like.pending
        _ = (Hub.step h (.check now)).gPendingCmds := h_frame.pending.symm
    · exact (forwardsOf_check now _ h').trans (forwardsOf_check now _ h).symm
    · exact h_frame'.relays.trans h_frame.relays.symm
  | alloc =>
    exact ⟨⟨h_like.endpoints, h_like.sock, h_like.doors, h_like.history, h_like.pending⟩, rfl, rfl⟩

/-- **Run.** -/
theorem Alike.sameRun {h h' : HubState} (h_like : Alike h h') (es : List HubEv) :
    SameRun h h' es := by
  induction es generalizing h h' with
  | nil =>
    refine ⟨fun m => ?_, fun n => ?_, rfl, rfl⟩
    · -- what can be asked for is read off the tables
      show hubUdpGetStatus m h = hubUdpGetStatus m h'
      unfold hubUdpGetStatus
      rw [h_like.doors]
    · show hubUdpGetHistory n h.gHistory = hubUdpGetHistory n h'.gHistory
      rw [h_like.history]
  | cons e es ih =>
    -- the first event agrees, and leaves alike states for the rest
    obtain ⟨h_like', h_forwards, h_relays⟩ := h_like.step e
    obtain ⟨h_statuses, h_history, h_forwards', h_relays'⟩ := ih h_like'
    refine ⟨h_statuses, h_history, ?_, ?_⟩
    · show forwardsOf (exec h e).2 :: (sentBy _ es).map forwardsOf
        = forwardsOf (exec h' e).2 :: (sentBy _ es).map forwardsOf
      rw [h_forwards, h_forwards']
    · show relaysOf (exec h e).2 :: (sentBy _ es).map relaysOf
        = relaysOf (exec h' e).2 :: (sentBy _ es).map relaysOf
      rw [h_relays, h_relays']

/-! ### The table over the life of a process -/

/-- An entry that a FEEDBACK line can match, whether or not it is still owed an answer. -/
structure Matchable (p : PendingClientCmd) : Prop where
  mod : IsText p.moduleId.str
  cmdid : InInt p.cmdid

/-- The table has such an entry. -/
def Used (g : PendingTable) : Prop := ∃ i, Matchable (g i)

/-- The table of a new process matches no FEEDBACK line. -/
theorem not_matches_emptyPending {m : CStr} (h_m : IsText m) (c : ℤ)
    (i : Fin HUB_MAX_PENDING_CMDS) : ¬ Matches emptyPending m c i := by
  rintro ⟨-, h_id⟩
  exact h_m.1.1 (h_id.symm.trans CharBuf.zero_str)

theorem getAndClearClientCmd_emptyPending {m : CStr} (h_m : IsText m) (c : ℤ) :
    getAndClearClientCmd m c emptyPending = (emptyPending, none) := by
  have h_none := findClientCmd_eq_none_iff.mpr (not_matches_emptyPending h_m c)
  unfold getAndClearClientCmd
  rw [h_none]

theorem inInt_zero : InInt 0 := by decide

/-- A freed slot keeps its module id. -/
theorem Used.getAndClear {g : PendingTable} (h : Used g) (m : CStr) (c : ℤ) :
    Used (getAndClearClientCmd m c g).1 := by
  obtain ⟨i, h_i⟩ := h
  rcases getAndClearClientCmd_cases m c g with ⟨j, -, h_eq⟩ | ⟨-, h_eq⟩
  · rw [h_eq]
    refine ⟨i, ?_⟩
    dsimp only
    by_cases h_ij : i = j
    · subst h_ij
      rw [Function.update_self]
      exact ⟨h_i.mod, inInt_zero⟩
    · rw [Function.update_of_ne h_ij]
      exact h_i
  · rw [h_eq]
    exact ⟨i, h_i⟩

theorem used_register {m : CStr} (h_m : IsText m) {c : ℤ} (h_c : InInt c) (addr : SockAddr)
    (now : ℤ) (g : PendingTable) : Used (registerClientCommand c m addr now g) := by
  refine ⟨registerSlot g, ?_⟩
  unfold registerClientCommand
  rw [Function.update_self]
  exact ⟨h_m.take (by decide), h_c⟩

/-- The words of an event are text. -/
theorem isText_of_event {e : HubEv} {type : CStr} {c : CmdWords}
    (h_c : cmdWords type e.words = some c) : IsText c.mod ∧ InInt c.cmdid := by
  cases e with
  | datagram data src t tReg =>
    change cmdWords type (lineTokens (datagramLine data)) = some c at h_c
    obtain ⟨h_mod, -, -, h_id⟩ := isText_of_cmdWords h_c
    exact ⟨h_mod, h_id⟩
  | check now => exact absurd h_c (by simp [HubEv.words, cmdWords])
  | alloc => exact absurd h_c (by simp [HubEv.words, cmdWords])

theorem used_step_of_takes {h : HubState} {e : HubEv} (h_takes : Takes h e) :
    Used (step h e).gPendingCmds := by
  obtain ⟨c, h_c, h_slot⟩ := h_takes
  obtain ⟨tReg, h_pend⟩ := step_pending_of_command h_c h_slot
  obtain ⟨h_mod, h_id⟩ := isText_of_event h_c
  rw [h_pend]
  exact used_register h_mod h_id _ _ _

/-- A used table stays used, and only a command makes it so. -/
theorem step_used {h : HubState} (e : HubEv) (h_not : ¬ Takes h e) :
    (Used h.gPendingCmds → Used (step h e).gPendingCmds) ∧
      (h.gPendingCmds = emptyPending → (step h e).gPendingCmds = emptyPending) := by
  rcases exec_pending_cases h e with ⟨f, h_f, -, h_pend, -⟩ | ⟨c, tReg, h_c, h_slot, -⟩ |
    ⟨-, -, h_pend, -⟩
  · rw [h_pend]
    refine ⟨fun h_used => h_used.getAndClear _ _, fun h_empty => ?_⟩
    rw [h_empty, getAndClearClientCmd_emptyPending (isText_of_event h_f).1]
  · exact absurd ⟨c, h_c, h_slot⟩ h_not
  · rw [h_pend]
    exact ⟨id, id⟩

/-- The other events of a life leave the table. -/
theorem lifeStep_pending {h : HubState} {l : LifeEv} (h_l : ∀ e, l ≠ .hub e) :
    (lifeStep h l).gPendingCmds = h.gPendingCmds := by
  cases l with
  | hub e => exact absurd rfl (h_l e)
  | setWebhookUrl url => rfl
  | init socketsBound threadCreated =>
    show (hubUdpInit socketsBound threadCreated h).1.gPendingCmds = _
    unfold hubUdpInit
    split_ifs <;> rfl
  | shutdown => rfl

/-- While the sockets are closed there are local calls only, which take no command. -/
theorem lifeStep_hub (h : HubState) (e : HubEv) :
    lifeStep h (.hub e) = h ∧ h.gSockOpen = false ∨
      lifeStep h (.hub e) = step h e ∧ (Takes h e → h.gSockOpen = true) := by
  cases e with
  | alloc =>
    refine Or.inr ⟨rfl, ?_⟩
    rintro ⟨c, h_c, -⟩
    exact absurd h_c (by simp [HubEv.words, commandOf, cmdWords])
  | datagram data src t tReg =>
    show (if h.gSockOpen then _ else h) = h ∧ _ ∨ (if h.gSockOpen then _ else h) = _ ∧ _
    cases h.gSockOpen <;> simp
  | check now =>
    show (if h.gSockOpen then _ else h) = h ∧ _ ∨ (if h.gSockOpen then _ else h) = _ ∧ _
    cases h.gSockOpen <;> simp

/-- **Step.** A command makes the table used for good, and nothing else does. -/
theorem lifeStep_used (h : HubState) (l : LifeEv) :
    (TakesCommand h l → Used (lifeStep h l).gPendingCmds) ∧
      (Used h.gPendingCmds → Used (lifeStep h l).gPendingCmds) ∧
      (¬ TakesCommand h l → h.gPendingCmds = emptyPending →
        (lifeStep h l).gPendingCmds = emptyPending) := by
  by_cases h_hub : ∃ e, l = .hub e
  · -- events at the hub
    obtain ⟨e, rfl⟩ := h_hub
    rcases lifeStep_hub h e with ⟨h_eq, h_closed⟩ | ⟨h_eq, h_open⟩
    · rw [h_eq]
      refine ⟨?_, id, fun _ => id⟩
      rintro ⟨e', -, h_sock, -⟩
      rw [h_closed] at h_sock
      exact absurd h_sock (by simp)
    · rw [h_eq]
      by_cases h_takes : Takes h e
      · have h_used := used_step_of_takes h_takes
        exact ⟨fun _ => h_used, fun _ => h_used,
          fun h_not => absurd ⟨e, rfl, h_open h_takes, h_takes⟩ h_not⟩
      · obtain ⟨h_used, h_empty⟩ := step_used e h_takes
        refine ⟨?_, h_used, fun _ => h_empty⟩
        rintro ⟨e', h_e', -, h_takes'⟩
        obtain rfl := LifeEv.hub.inj h_e'
        exact absurd h_takes' h_takes
  · -- init, shutdown and the URL leave the table as it is
    rw [lifeStep_pending (fun e h_e => h_hub ⟨e, h_e⟩)]
    refine ⟨?_, id, fun _ => id⟩
    rintro ⟨e, h_e, -⟩
    exact absurd ⟨e, h_e⟩ h_hub

theorem lived_concat (url : CharBuf 512) (past : List LifeEv) (l : LifeEv) :
    lived url (past ++ [l]) = lifeStep (lived url past) l := run_append _ _ _ _

/-- **Run.** -/
theorem pending_lived (url : CharBuf 512) (past : List LifeEv) :
    (NoCommandTaken url past → (lived url past).gPendingCmds = emptyPending) ∧
      (¬ NoCommandTaken url past → Used (lived url past).gPendingCmds) := by
  induction past using List.reverseRecOn with
  | nil => exact ⟨fun _ => rfl, fun h_not => absurd (fun pre l post h => by simp at h) h_not⟩
  | append_singleton past l ih =>
    obtain ⟨h_taken, h_used, h_empty⟩ := lifeStep_used (lived url past) l
    rw [lived_concat]
    have h_split : NoCommandTaken url (past ++ [l]) ↔
        NoCommandTaken url past ∧ ¬ TakesCommand (lived url past) l := forall_split_concat
    rw [h_split]
    refine ⟨fun h_none => h_empty h_none.2 (ih.1 h_none.1), fun h_some => ?_⟩
    -- a command has been taken by the last event or before it
    by_cases h_past : NoCommandTaken url past
    · refine h_taken ?_
      by_contra h_last
      exact h_some ⟨h_past, h_last⟩
    · exact h_used (ih.2 h_past)

/-! ### The restart -/

/-- A successful restart clears all but the table, the counter and the URL. -/
theorem restart_eq {socketsBound threadCreated : Bool} {h h' : HubState}
    (h_init : hubUdpInit socketsBound threadCreated (hubUdpShutdown h) = (h', true)) :
    h' = { HubState.initial h.gWebhookUrl with
      gNextCmdid := h.gNextCmdid, gPendingCmds := h.gPendingCmds } := by
  unfold hubUdpInit at h_init
  rw [if_neg (by simp [hubUdpShutdown])] at h_init
  split_ifs at h_init
  · exact absurd (congrArg Prod.snd h_init) (by simp)
  · exact absurd (congrArg Prod.snd h_init) (by simp)
  · exact (congrArg Prod.fst h_init).symm

/-- The FEEDBACK line that matches an entry. -/
def answerTo (p : PendingClientCmd) : HubEv :=
  .datagram (snprintf 256 (feedbackLine p.moduleId.str p.cmdid "D0".toList "LOCKED".toList)).str
    SockAddr.zero 0 0

theorem feedbackOf_answerTo {p : PendingClientCmd} (h_p : Matchable p) :
    feedbackOf (answerTo p).words
      = some ⟨p.moduleId.str, p.cmdid, "D0".toList, "LOCKED".toList⟩ := by
  have h_len : p.moduleId.str.length < 16 := p.moduleId.fits
  refine feedbackOf_feedbackLine h_p.mod h_p.cmdid (by decide) (by decide) ?_
  have h_words : "D0".toList.length = 2 ∧ "LOCKED".toList.length = 6 := by decide
  omega

/-- What a hub without doors relays on that line. -/
theorem relaysOf_answerTo {p : PendingClientCmd} (h_p : Matchable p) {h : HubState}
    {url : CharBuf 512} (h_doors : h.gDoors = (HubState.initial url).gDoors) :
    relaysOf (exec h (answerTo p)).2
      = feedbackRelay ⟨p.moduleId.str, p.cmdid, "D0".toList, "LOCKED".toList⟩
        (getAndClearClientCmd p.moduleId.str p.cmdid h.gPendingCmds).2 := by
  have h_f := feedbackOf_answerTo h_p
  rcases exec_pending_cases h (answerTo p) with ⟨f, h_f', -, -, h_out⟩ | ⟨c, tReg, h_c, -⟩ |
    ⟨h_no, -⟩
  · obtain rfl := Option.some.inj (h_f.symm.trans h_f')
    exact h_out
  · rw [feedbackOf_of_command h_c] at h_f
    exact absurd h_f (by simp)
  · refine absurd ?_ (h_no _ h_f)
    rw [h_doors]
    exact hasSlot_initial url _

/-- A used table relays an answer that a new process does not. -/
theorem not_sameRun_of_used {h : HubState} {url : CharBuf 512}
    (h_doors : h.gDoors = (HubState.initial url).gDoors) (h_used : Used h.gPendingCmds) :
    ∃ es, ¬ SameRun h (HubState.initial url) es := by
  obtain ⟨i, h_i⟩ := h_used
  refine ⟨[answerTo (h.gPendingCmds i)], fun h_same => ?_⟩
  have h_relays := (List.cons.inj h_same.relays).1
  rw [relaysOf_answerTo h_i h_doors,
    relaysOf_answerTo (h := HubState.initial url) h_i rfl] at h_relays
  have h_new : getAndClearClientCmd (h.gPendingCmds i).moduleId.str (h.gPendingCmds i).cmdid
      (HubState.initial url).gPendingCmds = (emptyPending, none) :=
    getAndClearClientCmd_emptyPending h_i.mod _
  rw [h_new] at h_relays
  -- the entry itself matches
  rcases getAndClearClientCmd_cases (h.gPendingCmds i).moduleId.str (h.gPendingCmds i).cmdid
    h.gPendingCmds with ⟨j, -, h_eq⟩ | ⟨h_none, -⟩
  · rw [h_eq] at h_relays
    exact absurd h_relays (by simp [feedbackRelay])
  · exact findClientCmd_eq_none_iff.mp h_none i ⟨rfl, rfl⟩

/-- **When a restart is a clean slate.** After `hub_udp_shutdown` and a successful `hub_udp_init`
the hub behaves as in a new process, for all datagrams and checks that follow, if and only if the
process has never taken a client's command. -/
theorem restartsClean_iff (url : CharBuf 512) (past : List LifeEv) :
    RestartsClean url past ↔ NoCommandTaken url past := by
  constructor
  · intro h_clean
    by_contra h_taken
    have h_used := (pending_lived url past).2 h_taken
    obtain ⟨es, h_differ⟩ : ∃ es, ¬ SameRun
        (hubUdpInit true true (hubUdpShutdown (lived url past))).1 (HubState.initial url) es :=
      not_sameRun_of_used rfl h_used
    exact h_differ (h_clean true true _ rfl url es)
  · intro h_none socketsBound threadCreated h h_init url' es
    have h_pend := (pending_lived url past).1 h_none
    have h_like : Alike h (HubState.initial url') := by
      rw [restart_eq h_init]
      exact ⟨rfl, rfl, rfl, rfl, h_pend.symm⟩
    exact h_like.sameRun es

/-- A client's command is registered, the hub is restarted, and the door's late FEEDBACK goes to
that client. -/
theorem not_restartsClean :
    ¬ RestartsClean (CharBuf.zero _)
      [.init true true,
        .hub (.datagram "D1 COMMAND 7 D0 LOCK
".toList ⟨9, 5001⟩ 100 100)] := by
  intro h_clean
  have h_same := h_clean true true _ rfl (CharBuf.zero _)
    [.datagram "D1 FEEDBACK 7 D0 LOCKED
".toList ⟨1, 4001⟩ 200 200]
  exact absurd h_same.relays (by decide +kernel)

end Hub

end DoorSystem
