import DoorSystem.Door.Transport
import DoorSystem.Hub.Offline

/-!
# A healthy door is never called offline

The door looks at its heartbeat timer when `door_udp_update` is called, and the hub compares its own
stamp with the clock when `check_offline_modules` is called. With at most `G` milliseconds between
two updates and a period of `P`, a heartbeat is never older than `P + G` when a check looks at it.

Every datagram of the door is handled by the hub when it is sent, and all events read one clock; the
hub has any other traffic besides. So the slot of the door never goes offline (`not_silent`). A line
with a longer id may take another slot under the id of the door, cut to 15 characters; that slot can
go offline, and `neverOffline_iff` says that this is the only way for an alarm.
-/

namespace DoorSystem

open CLib

namespace System

open Door Hub

/-! ### The door and the hub -/

/-- What happens. -/
inductive HealthEv
  /-- `door_udp_update` is called, and what it sends is handled by the hub at once. -/
  | update (r : Report) (t : ℤ)
  /-- Something else happens to the hub. -/
  | hub (e : HubEv)

/-- The clock reading of an event. -/
def HealthEv.time : HealthEv → Option ℤ
  | .update _ t => some t
  | .hub e => e.time

/-- A door and the hub, and the time of the last update. -/
structure Pair where
  door : DoorUdp
  hub : HubState
  lastUpdate : Option ℤ

/-- The hub handles the datagrams `outs` of the door at the address `src`, all at the time `t`. -/
def deliver (src : SockAddr) (t : ℤ) (outs : List DoorOut) (h : HubState) : HubState :=
  run Hub.step h (outs.map (fun o => .datagram o.line src t t))

/-- One step. -/
def stepPair (src : SockAddr) (s : Pair) : HealthEv → Pair
  | .update r t =>
    let (u, outs) := doorUdpUpdate r t s.door
    ⟨u, deliver src t outs s.hub, some t⟩
  | .hub e => { s with hub := Hub.step s.hub e }

/-- A door in a mode with HEARTBEAT that has not reported yet, and a hub where it has a slot. -/
structure HealthStart where
  door : DoorUdp
  src : SockAddr
  sockOpen : door.gSockOpen = true
  mode : door.gMode.heartbeat = true
  period : 0 < door.gHeartbeatPeriodMs
  fresh : door.gPrevValid = false
  url : CharBuf 512
  past : List HubEv
  slot : Fin HUB_MAX_DOORS
  found : findDoor door.gModuleId.str (reached url past).gDoors = some slot

/-- The start after a `door_udp_init2` that succeeds. -/
def HealthStart.afterInit (c : InitCall) (u : DoorUdp) (src : SockAddr)
    (h_ports : c.notifPort ≠ c.hbPort) (h_ok : (doorUdpInit2 c u).2.1 = true)
    (h_mode : c.mode.heartbeat = true) (url : CharBuf 512) (past : List HubEv)
    (slot : Fin HUB_MAX_DOORS)
    (h_found : findDoor (c.moduleId.take 15) (reached url past).gDoors = some slot) :
    HealthStart where
  door := (doorUdpInit2 c u).1
  src := src
  sockOpen := by rw [doorUdpInit2_ok h_ports h_ok]
  mode := by
    rw [doorUdpInit2_ok h_ports h_ok]
    exact h_mode
  period := by
    rw [doorUdpInit2_ok h_ports h_ok]
    show 0 < if 0 < c.heartbeatPeriodMs then c.heartbeatPeriodMs else 1000
    split_ifs with h_pos
    · exact h_pos
    · norm_num
  fresh := by
    rw [doorUdpInit2_ok h_ports h_ok]
    rfl
  url := url
  past := past
  slot := slot
  found := by
    rw [doorUdpInit2_ok h_ports h_ok]
    exact h_found

/-- The id of the door. -/
def HealthStart.moduleId (S : HealthStart) : CStr := S.door.gModuleId.str

/-- The state after the events `es`. -/
def HealthStart.after (S : HealthStart) (es : List HealthEv) : Pair :=
  run (stepPair S.src) ⟨S.door, reached S.url S.past, none⟩ es

/-- A schedule: the clock does not go back, and no event is more than `gap` after the last update,
since the next update is not. -/
structure HealthRun where
  start : HealthStart
  gap : ℤ
  bound : start.door.gHeartbeatPeriodMs + gap ≤ HUB_OFFLINE_TIMEOUT_MS
  events : List HealthEv
  clock : (events.filterMap HealthEv.time).Pairwise (· ≤ ·)
  updates : ∀ pre e post, events = pre ++ e :: post → ∀ u t,
    (start.after pre).lastUpdate = some u → e.time = some t → t ≤ u + gap

/-! ### The stamps -/

/-- A heartbeat resets the timer of the door, and the timer runs shorter than a period after every
update. -/
theorem doorUdpUpdate_timer {u : DoorUdp} (h_open : u.gSockOpen = true)
    (h_mode : u.gMode.heartbeat = true) (r : Report) (t : ℤ) :
    (doorUdpUpdate r t u).1.gHeartbeatPeriodMs = u.gHeartbeatPeriodMs ∧
      (((∃ r', .heartbeat r' ∈ updateMsgs r t u) ∧
          (doorUdpUpdate r t u).1.gLastHeartbeatMs = t) ∨
        ((¬ ∃ r', .heartbeat r' ∈ updateMsgs r t u) ∧ u.gPrevValid = true ∧
          t - u.gLastHeartbeatMs < u.gHeartbeatPeriodMs ∧
          (doorUdpUpdate r t u).1.gLastHeartbeatMs = u.gLastHeartbeatMs)) := by
  have h_not_closed : ¬ (!u.gSockOpen) = true := by simp [h_open]
  unfold doorUdpUpdate updateMsgs
  rw [if_neg h_not_closed]
  by_cases h_valid : u.gPrevValid = true
  · rw [if_neg (by simp [h_valid]), if_pos h_valid]
    dsimp only
    -- a later update sends a heartbeat if the timer has run out
    by_cases h_due : heartbeatDue t u = true
    · rw [if_pos h_due, if_pos h_due]
      exact ⟨rfl, Or.inl ⟨⟨r, List.mem_append_right _ (List.mem_singleton_self _)⟩, rfl⟩⟩
    · rw [if_neg h_due, if_neg h_due, List.append_nil]
      refine ⟨rfl, Or.inr ⟨?_, h_valid, ?_, rfl⟩⟩
      · -- the notifications are no heartbeats
        rintro ⟨r', h_mem⟩
        split_ifs at h_mem <;> simp at h_mem
      · unfold heartbeatDue at h_due
        rw [h_mode, Bool.true_and, decide_eq_true_eq] at h_due
        exact not_le.mp h_due
  · -- the first update
    rw [if_pos (by simp [h_valid]), if_neg h_valid, if_pos h_mode]
    exact ⟨rfl, Or.inl ⟨⟨r, List.mem_singleton_self _⟩, rfl⟩⟩

/-- The stamp of a taken slot stays, or becomes the time of the event. -/
theorem step_lastHeartbeat_cases (h : HubState) (e : HubEv) {i : Fin HUB_MAX_DOORS}
    (h_known : (h.gDoors i).known = true) :
    ((Hub.step h e).gDoors i).lastHeartbeatMs = (h.gDoors i).lastHeartbeatMs ∨
      e.time = some ((Hub.step h e).gDoors i).lastHeartbeatMs := by
  rcases step_stamps_cases h e with ⟨mod, type, args, t, h_line, h_doors⟩ | ⟨-, h_same⟩
  -- a taken slot is not created anew, so only a HEARTBEAT of its own stamps it
  · have h_kept : (findOrCreateDoor mod h.gDoors).1 i = h.gDoors i :=
      Holds.findOrCreateDoor ⟨h_known, rfl⟩
    rw [h_doors, (lineDoors_stamps mod type args e.source t h.gDoors i).1, h_kept]
    split_ifs
    · exact Or.inr h_line.time
    · exact Or.inl rfl
  · exact Or.inl (h_same i).2.2

/-- One report arrives: a heartbeat stamps the slot of the door. -/
theorem step_report_stamp {u : DoorUdp} (h_text : IsText u.gModuleId.str) (src : SockAddr) (t : ℤ)
    (msg : DoorMsg) {h : HubState} {d : Fin HUB_MAX_DOORS}
    (h_slot : SlotFound u.gModuleId.str d h) :
    ((Hub.step h (.datagram (msg.out u).line src t t)).gDoors d).lastHeartbeatMs
      = if (msg.words u.gModuleId.str)[1]? = some "HEARTBEAT".toList then t
        else (h.gDoors d).lastHeartbeatMs := by
  have h_line : (msg.out u).line = msg.line u.gModuleId.str := by cases msg <;> rfl
  have h_words := DoorMsg.lineTokens_line h_text u.gModuleId.fits msg
  obtain ⟨type, args, h_split⟩ : ∃ type args,
      msg.words u.gModuleId.str = u.gModuleId.str :: type :: args := by
    cases msg <;> exact ⟨_, _, rfl⟩
  have h_doors : (Hub.step h (.datagram (msg.out u).line src t t)).gDoors
      = lineDoors u.gModuleId.str type args src t h.gDoors := by
    rw [h_line]
    exact step_datagram_gDoors (h_words.trans h_split) src t t h
  have h_type : (msg.words u.gModuleId.str)[1]? = some type := by rw [h_split]; rfl
  rw [h_doors, (lineDoors_stamps _ type args src t h.gDoors d).1,
    findOrCreateDoor_of_find h_slot.2, h_type]
  -- the slot is the one that is found for the id, so the type decides
  by_cases h_hb : type = "HEARTBEAT".toList
  · rw [if_pos ⟨h_hb, rfl⟩, if_pos (congrArg some h_hb)]
  · rw [if_neg (fun h => h_hb h.1), if_neg (fun h => h_hb (Option.some.inj h))]

/-- **Delivery.** A heartbeat among the reports of the door stamps its slot, and nothing else that
the door sends does. -/
theorem deliver_stamp {u : DoorUdp} (h_text : IsText u.gModuleId.str) (src : SockAddr) (t : ℤ)
    (msgs : List DoorMsg) {h : HubState} {d : Fin HUB_MAX_DOORS}
    (h_slot : SlotFound u.gModuleId.str d h) :
    SlotFound u.gModuleId.str d (deliver src t (msgs.map (DoorMsg.out u)) h) ∧
      ((∃ r, .heartbeat r ∈ msgs) →
        ((deliver src t (msgs.map (DoorMsg.out u)) h).gDoors d).lastHeartbeatMs = t) ∧
      (((deliver src t (msgs.map (DoorMsg.out u)) h).gDoors d).lastHeartbeatMs = t ∨
        ((deliver src t (msgs.map (DoorMsg.out u)) h).gDoors d).lastHeartbeatMs
          = (h.gDoors d).lastHeartbeatMs) := by
  -- on the reports in their order; the slot stays the one that is found
  induction msgs generalizing h with
  | nil => exact ⟨h_slot, fun ⟨r, h_mem⟩ => absurd h_mem List.not_mem_nil, Or.inr rfl⟩
  | cons msg msgs ih =>
    have h_first := step_report_stamp h_text src t msg h_slot
    obtain ⟨h_found, h_hb, h_either⟩ :=
      ih (h := Hub.step h (.datagram (msg.out u).line src t t)) (h_slot.step _)
    refine ⟨h_found, ?_, ?_⟩
    · rintro ⟨r, h_mem⟩
      rcases List.mem_cons.mp h_mem with rfl | h_mem
      · -- the first report is the heartbeat, and the others do not set the stamp back
        have h_type : ((DoorMsg.heartbeat r).words u.gModuleId.str)[1]?
            = some "HEARTBEAT".toList := rfl
        rw [if_pos h_type] at h_first
        rcases h_either with h_t | h_same
        · exact h_t
        · exact h_same.trans h_first
      · exact h_hb ⟨r, h_mem⟩
    · rcases h_either with h_t | h_same
      · exact Or.inl h_t
      · show ((deliver src t (msgs.map (DoorMsg.out u))
          (Hub.step h (.datagram (msg.out u).line src t t))).gDoors d).lastHeartbeatMs = t ∨
          ((deliver src t (msgs.map (DoorMsg.out u))
            (Hub.step h (.datagram (msg.out u).line src t t))).gDoors d).lastHeartbeatMs
              = (h.gDoors d).lastHeartbeatMs
        rw [h_same, h_first]
        split_ifs
        · exact Or.inl rfl
        · exact Or.inr rfl

/-! ### The invariant -/

/-- The door keeps its configuration and the hub its slot. After an update the timer of the door
runs shorter than a period, and the stamp of the slot is not behind the timer. -/
structure PairInv (S : HealthStart) (s : Pair) : Prop where
  route : SameRoute S.door s.door
  period : s.door.gHeartbeatPeriodMs = S.door.gHeartbeatPeriodMs
  slot : SlotFound S.moduleId S.slot s.hub
  fresh : s.lastUpdate = none → s.door.gPrevValid = false
  timer : ∀ u, s.lastUpdate = some u →
    u - s.door.gLastHeartbeatMs < S.door.gHeartbeatPeriodMs ∧ s.door.gLastHeartbeatMs ≤ u ∧
      s.door.gLastHeartbeatMs ≤ (s.hub.gDoors S.slot).lastHeartbeatMs

theorem PairInv.initial (S : HealthStart) : PairInv S ⟨S.door, reached S.url S.past, none⟩ where
  route := ⟨rfl, rfl, rfl, rfl, rfl⟩
  period := rfl
  slot := ⟨slotsPacked_reached S.url S.past, S.found⟩
  fresh := fun _ => S.fresh
  timer := fun _ h => absurd h (by simp)

/-- The id of a door with a slot is a word. -/
theorem HealthStart.isText (S : HealthStart) : IsText S.moduleId :=
  (isText_of_holds (holds_of_findDoor S.found)).1

/-- **Update.** -/
theorem PairInv.update {S : HealthStart} {s : Pair} (inv : PairInv S s) (r : Report) {t : ℤ}
    (h_clock : ∀ u, s.lastUpdate = some u → u ≤ t) :
    PairInv S (stepPair S.src s (.update r t)) := by
  obtain ⟨h_sock, h_notif, h_hb, h_id, h_mode⟩ := inv.route
  have h_open : s.door.gSockOpen = true := h_sock.trans S.sockOpen
  obtain ⟨h_outs, h_valid, -, h_route⟩ := doorUdpUpdate_eq h_open r t
  obtain ⟨h_period, h_timer⟩ := doorUdpUpdate_timer h_open (by rw [h_mode]; exact S.mode) r t
  have h_name : s.door.gModuleId.str = S.moduleId := congrArg CharBuf.str h_id
  have h_text : IsText s.door.gModuleId.str := by
    rw [h_name]
    exact S.isText
  have h_slot : SlotFound s.door.gModuleId.str S.slot s.hub := by
    rw [h_name]
    exact inv.slot
  obtain ⟨h_found, h_beat, h_either⟩ := deliver_stamp h_text S.src t (updateMsgs r t s.door) h_slot
  rw [← h_outs] at h_found h_beat h_either
  -- the configuration stays, and the timer and the stamp move together
  have h_pos := S.period
  constructor
  · exact ⟨h_route.1.trans h_sock, h_route.2.1.trans h_notif, h_route.2.2.1.trans h_hb,
      h_route.2.2.2.1.trans h_id, h_route.2.2.2.2.trans h_mode⟩
  · exact h_period.trans inv.period
  · rw [← h_name]
    exact h_found
  · intro h_none
    exact absurd h_none (by simp [stepPair])
  · intro u h_u
    obtain rfl : t = u := Option.some.inj h_u
    show t - (doorUdpUpdate r t s.door).1.gLastHeartbeatMs < _ ∧
      (doorUdpUpdate r t s.door).1.gLastHeartbeatMs ≤ t ∧
      (doorUdpUpdate r t s.door).1.gLastHeartbeatMs
        ≤ ((deliver S.src t (doorUdpUpdate r t s.door).2 s.hub).gDoors S.slot).lastHeartbeatMs
    rcases h_timer with ⟨h_sent, h_new⟩ | ⟨-, h_old_valid, h_short, h_same⟩
    · -- a heartbeat is sent and handled
      rw [h_new, h_beat h_sent]
      exact ⟨by omega, le_rfl, le_rfl⟩
    · -- the timer runs on, and the stamp is at least where it was
      cases h_last : s.lastUpdate with
      | none =>
        have h_fresh := inv.fresh h_last
        rw [h_old_valid] at h_fresh
        exact absurd h_fresh (by simp)
      | some u =>
        obtain ⟨-, h_le, h_stamp⟩ := inv.timer u h_last
        have h_u := h_clock u h_last
        have h_period := inv.period
        rw [h_same]
        refine ⟨by omega, by omega, ?_⟩
        rcases h_either with h_t | h_kept
        · rw [h_t]
          omega
        · rw [h_kept]
          exact h_stamp

/-- **Step.** -/
theorem PairInv.step {S : HealthStart} {s : Pair} (inv : PairInv S s) {e : HealthEv}
    (h_clock : ∀ u t, s.lastUpdate = some u → e.time = some t → u ≤ t) :
    PairInv S (stepPair S.src s e) := by
  cases e with
  | update r t => exact inv.update r (fun u h_u => h_clock u t h_u rfl)
  | hub e =>
    refine ⟨inv.route, inv.period, inv.slot.step e, inv.fresh, fun u h_u => ?_⟩
    obtain ⟨h_short, h_le, h_stamp⟩ := inv.timer u h_u
    refine ⟨h_short, h_le, ?_⟩
    have h_known := (holds_of_findDoor inv.slot.2).1
    -- another stamp of the slot is the time of the event
    rcases step_lastHeartbeat_cases s.hub e h_known with h_same | h_new
    · exact h_stamp.trans h_same.ge
    · exact h_le.trans (h_clock u _ h_u h_new)

theorem HealthStart.after_concat (S : HealthStart) (es : List HealthEv) (e : HealthEv) :
    S.after (es ++ [e]) = stepPair S.src (S.after es) e := by
  unfold HealthStart.after
  rw [run_append, run_cons, run_nil]

/-- The last update is one of the events. -/
theorem HealthStart.mem_of_lastUpdate (S : HealthStart) {es : List HealthEv} {u : ℤ}
    (h : (S.after es).lastUpdate = some u) : u ∈ es.filterMap HealthEv.time := by
  induction es using List.reverseRecOn with
  | nil => exact absurd h (by simp [HealthStart.after])
  | append_singleton es e ih =>
    rw [S.after_concat] at h
    rw [List.filterMap_append, List.mem_append]
    cases e with
    | update r t =>
      obtain rfl : t = u := Option.some.inj h
      exact Or.inr (by simp [HealthEv.time])
    | hub e => exact Or.inl (ih h)

/-- **Run.** -/
theorem HealthStart.inv (S : HealthStart) {es : List HealthEv}
    (h_clock : (es.filterMap HealthEv.time).Pairwise (· ≤ ·)) : PairInv S (S.after es) := by
  -- on the events, the last one first; the last update is not later than the event
  induction es using List.reverseRecOn with
  | nil => exact PairInv.initial S
  | append_singleton es e ih =>
    rw [List.filterMap_append, List.pairwise_append] at h_clock
    rw [S.after_concat]
    refine (ih h_clock.1).step (fun u t h_u h_t => ?_)
    exact h_clock.2.2 u (S.mem_of_lastUpdate h_u) t (by simp [h_t])

/-- What every hub event keeps, the events of the pair keep. -/
theorem HealthStart.hub_invariant (S : HealthStart) (P : HubState → Prop)
    (h_step : ∀ h e, P h → P (Hub.step h e)) (h_start : P (reached S.url S.past))
    (es : List HealthEv) : P (S.after es).hub := by
  refine run_invariant (fun s : Pair => P s.hub) ?_ h_start es
  intro s e h_s
  cases e with
  | update r t => exact run_invariant P h_step h_s _
  | hub e => exact h_step s.hub e h_s

/-! ### The property and its condition -/

/-- Every check after the first update, which sends the first heartbeat, leaves the slot of the door
without the offline flag and records no OFFLINE event under the id of the door. -/
def NeverOffline (S : HealthStart) (events : List HealthEv) : Prop :=
  ∀ pre t post, events = pre ++ .hub (.check t) :: post → (S.after pre).lastUpdate ≠ none →
    ((S.after (pre ++ [.hub (.check t)])).hub.gDoors S.slot).offline = false ∧
      ∀ t', offlineEvent S.moduleId t'
        ∉ (historyCalls (S.after pre).hub (.check t)).map HistoryCall.event

/-- No such check meets another slot with the id of the door that goes offline. -/
def NoTwinOffline (S : HealthStart) (events : List HealthEv) : Prop :=
  ∀ pre t post, events = pre ++ .hub (.check t) :: post → (S.after pre).lastUpdate ≠ none →
    ∀ i, i ≠ S.slot → ((S.after pre).hub.gDoors i).moduleId.str = S.moduleId →
      ¬ GoesOffline t ((S.after pre).hub.gDoors i)

/-- A door with an id of at most 14 characters has no second slot. -/
theorem HealthStart.noTwinOffline (S : HealthStart) (h_short : S.moduleId.length < 15)
    {events : List HealthEv} (h_clock : (events.filterMap HealthEv.time).Pairwise (· ≤ ·)) :
    NoTwinOffline S events := by
  intro pre t post h_split _ i h_i h_id h_goes
  rw [h_split, List.filterMap_append, List.pairwise_append] at h_clock
  have h_holds := holds_of_findDoor (S.inv h_clock.1).slot.2
  have h_ids := S.hub_invariant (fun h => ShortIdsDistinct h.gDoors) (fun _ e h_ids => h_ids.step e)
    (shortIdsDistinct_reached S.url S.past) pre
  refine h_i (h_ids i S.slot h_goes.1 h_holds.1 (h_id.trans h_holds.2.symm) ?_)
  rw [h_id]
  exact h_short

/-! ### No alarm -/

/-- **The slot of the door** is not silent at a check, on any schedule. -/
theorem HealthRun.not_silent (R : HealthRun) {pre post : List HealthEv} {t : ℤ}
    (h_split : R.events = pre ++ .hub (.check t) :: post)
    (h_updated : (R.start.after pre).lastUpdate ≠ none) :
    PairInv R.start (R.start.after pre) ∧
      ¬ Silent t ((R.start.after pre).hub.gDoors R.start.slot) := by
  obtain ⟨u, h_u⟩ := Option.ne_none_iff_exists'.mp h_updated
  have h_clock := R.clock
  rw [h_split, List.filterMap_append, List.pairwise_append] at h_clock
  have inv := R.start.inv h_clock.1
  obtain ⟨h_short, h_le, h_stamp⟩ := inv.timer u h_u
  have h_gap := R.updates pre _ post h_split u t h_u rfl
  have h_bound := R.bound
  refine ⟨inv, ?_⟩
  -- the heartbeat is not older than the period and the gap together
  unfold Silent
  omega

/-- So its flag is off after the check. -/
theorem HealthRun.offline_eq_false (R : HealthRun) {pre post : List HealthEv} {t : ℤ}
    (h_split : R.events = pre ++ .hub (.check t) :: post)
    (h_updated : (R.start.after pre).lastUpdate ≠ none) :
    ((R.start.after (pre ++ [.hub (.check t)])).hub.gDoors R.start.slot).offline = false := by
  obtain ⟨inv, h_heard⟩ := R.not_silent h_split h_updated
  have h_known := (holds_of_findDoor inv.slot.2).1
  rw [R.start.after_concat]
  show ((Hub.step (R.start.after pre).hub (.check t)).gDoors R.start.slot).offline = false
  rw [step_check_gDoors]
  unfold checkedStatus
  rw [if_neg (by simp [h_known]), if_neg (fun h => h_heard h.1)]
  split_ifs with h_flag
  · rfl
  · -- a flag that is set would have been taken back
    exact Bool.eq_false_iff.mpr (fun h_set => h_flag ⟨h_heard, h_set⟩)

/-- **When a healthy door is never called offline.** On every schedule, if and only if no check
meets another slot with its id that goes offline. -/
theorem neverOffline_iff (R : HealthRun) :
    NeverOffline R.start R.events ↔ NoTwinOffline R.start R.events := by
  have h_fits : R.start.moduleId.length ≤ 15 := Nat.le_of_lt_succ R.start.door.gModuleId.fits
  constructor
  · intro h_never pre t post h_split h_updated i _ h_id h_goes
    refine (h_never pre t post h_split h_updated).2 t ?_
    exact (offline_recorded_iff h_fits t).mpr ⟨rfl, i, h_goes, h_id⟩
  · intro h_twins pre t post h_split h_updated
    refine ⟨R.offline_eq_false h_split h_updated, fun t' h_mem => ?_⟩
    obtain ⟨h_eq, i, h_goes, h_id⟩ := (offline_recorded_iff h_fits t').mp h_mem
    obtain rfl := HubEv.check.inj h_eq
    by_cases h_i : i = R.start.slot
    · -- the door's own slot
      rw [h_i] at h_goes
      exact (R.not_silent h_split h_updated).2 h_goes.2.2
    · exact h_twins pre t post h_split h_updated i h_i h_id h_goes

/-- Events within the gap of each other follow every update closely enough. -/
theorem HealthStart.updates_of_window (S : HealthStart) {events : List HealthEv} {gap : ℤ} (lo : ℤ)
    (h_window : ∀ x ∈ events.filterMap HealthEv.time, lo ≤ x ∧ x ≤ lo + gap) :
    ∀ pre e post, events = pre ++ e :: post → ∀ u t, (S.after pre).lastUpdate = some u →
      e.time = some t → t ≤ u + gap := by
  intro pre e post h_split u t h_u h_t
  have h_mem := S.mem_of_lastUpdate h_u
  rw [h_split] at h_window
  have h_low := h_window u (by rw [List.filterMap_append]; exact List.mem_append_left _ h_mem)
  have h_high := h_window t (List.mem_filterMap.mpr ⟨e, by simp, h_t⟩)
  omega

/-- The door `D1` sends a heartbeat, and two checks follow before the next one. -/
def checkedRun : HealthRun where
  start := .afterInit initD1 .initial SockAddr.zero initD1_ports initD1_ok rfl (CharBuf.zero _)
    [bareDatagram "D1 HELLO\n".toList] 0 (by decide +kernel)
  gap := 9000
  bound := by decide
  events := [.update ⟨false, false, false, true⟩ 20000, .hub (.check 24000), .hub (.check 28000)]
  clock := by decide
  updates := HealthStart.updates_of_window _ 20000 (by decide)

theorem neverOffline_checkedRun : NeverOffline checkedRun.start checkedRun.events :=
  (neverOffline_iff checkedRun).mpr
    (checkedRun.start.noTwinOffline (by decide +kernel) checkedRun.clock)

/-- The initialisation of a door with an id of 15 characters. -/
def initLobby : InitCall where
  notifPort := 12345
  hbPort := 12346
  moduleId := "FRONTDOOR-LOBBY".toList
  mode := ⟨true, true⟩
  heartbeatPeriodMs := 1000
  now := 0
  socketOk := true
  inetPtonOk := true
  bindOk := true
  threadOk := true

/-- The hub has heard of the door. -/
def lobbyStart : HealthStart :=
  .afterInit initLobby .initial SockAddr.zero (by decide) (by decide +kernel) rfl (CharBuf.zero _)
    [bareDatagram "FRONTDOOR-LOBBY HELLO\n".toList] 0 (by decide +kernel)

/-- The door sends its first heartbeat; a line with a longer id follows, and then a check. -/
def lobbyRun : HealthRun where
  start := lobbyStart
  gap := 1000
  bound := by decide
  events := [.update ⟨false, false, false, true⟩ 20000,
    .hub (.datagram "FRONTDOOR-LOBBY1 HELLO\n".toList SockAddr.zero 20001 20001),
    .hub (.check 20002)]
  clock := by decide
  updates := HealthStart.updates_of_window _ 20000 (by decide)

/-- The slot of the longer id carries the id of the door, and is called offline. -/
theorem not_neverOffline : ¬ NeverOffline lobbyRun.start lobbyRun.events := by
  intro h_never
  refine (h_never [.update ⟨false, false, false, true⟩ 20000,
    .hub (.datagram "FRONTDOOR-LOBBY1 HELLO\n".toList SockAddr.zero 20001 20001)] 20002 [] rfl
    ?_).2 20002 ?_
  · simp [HealthStart.after, stepPair]
  · decide +kernel

end System

end DoorSystem
