import DoorSystem.System.Steps

/-!
# Every web command is answered once

`DeliveryRun` is an infinite run from a hub that has heard its three doors, in which every datagram
is delivered. A command that has been issued rises from stage to stage, since the datagram about it
is delivered (`DeliveryRun.rises`), and never falls back. So it is done in the end, and its socket
has got one answer (`commands_delivered`).
-/

namespace DoorSystem

open CLib

namespace System

open Door Hub Node

variable {σ : Type*} {A : Addresses}

/-! ### Runs -/

/-- The time before the first web command: the hub has heard each of the three doors, and nobody
else, and the bridge has just started. -/
structure DeliveryStart where
  addrs : Addresses
  url : CharBuf 512
  /-- What the hub has handled so far. -/
  past : List HubEv
  past_fromDoor : ∀ e ∈ past, FromDoor addrs e
  doors : DoorId → DoorRun
  listening : ∀ d : DoorId, Listening d.name (doors d).module
  hello : ∀ d : DoorId, ∃ t tReg,
    .datagram (helloLine (doors d).module.udp) (addrs.door d) t tReg ∈ past
  /-- The heartbeats and events that are still on the way. -/
  inFlight : Multiset Packet
  inFlight_quiet : ∀ p ∈ inFlight, QuietPacket addrs p

/-- The state of all parties then. -/
def DeliveryStart.net (S : DeliveryStart) : Net σ where
  bridge := .initial
  hub := reached S.url S.past
  doors := S.doors
  toHub := S.inFlight
  fromHub := 0
  emitted := []
  issued := []
  outstanding := ∅

/-- A run in which every datagram is delivered. -/
structure DeliveryRun (σ : Type*) where
  start : DeliveryStart
  events : ℕ → NetEv σ
  possible : ∀ t, Possible start.addrs (runAt (stepNet start.addrs) start.net events t) (events t)
  assumed : ∀ t, Assumed (runAt (stepNet start.addrs) start.net events t) (events t)
  hubTakes : ∀ t, ∀ p ∈ (runAt (stepNet start.addrs) start.net events t).toHub,
    ∃ t' ≥ t, (events t').HubTakes p
  partyTakes : ∀ t, ∀ p ∈ (runAt (stepNet start.addrs) start.net events t).fromHub,
    ∃ t' ≥ t, (events t').PartyTakes start.addrs p

/-- The state at the time `t`. -/
def DeliveryRun.state (R : DeliveryRun σ) (t : ℕ) : Net σ :=
  runAt (stepNet R.start.addrs) R.start.net R.events t

/-- The hub has no commands before the first one. -/
theorem cmdid_reached_fromDoor {url : CharBuf 512} {es : List HubEv}
    (h_es : ∀ e ∈ es, FromDoor A e) (i : Fin HUB_MAX_PENDING_CMDS) :
    ((reached url es).gPendingCmds i).cmdid = 0 := by
  refine run_invariant_of_forall (fun h : HubState => (h.gPendingCmds i).cmdid = 0) ?_ rfl h_es
  intro h e h_e h_zero
  -- doors send no COMMAND lines, and nobody has asked for a FEEDBACK
  have h_quiet : commandOf e.words = none ∧ feedbackOf e.words = none := by
    cases h_e with
    | check now => exact ⟨rfl, rfl⟩
    | line d line t tReg h_line => exact h_line.cmdWords
  rw [(hub_quiet h_quiet.1 h_quiet.2 h).1]
  exact h_zero

theorem DeliveryStart.inv (S : DeliveryStart) : NetInv S.addrs (S.net : Net σ) where
  started := Nat.one_pos
  ids := fun c h_c => absurd h_c List.not_mem_nil
  distinct := fun c h_c => absurd h_c List.not_mem_nil
  fresh k h_k := by
    -- nothing was issued, and no pending command was registered before
    have h_pos : 0 < k := h_k
    refine ⟨about_quiet S.inFlight_quiet k, rfl, fun i => ?_, Finset.notMem_empty _,
      ⟨rfl, rfl, rfl⟩, rfl⟩
    show ((reached S.url S.past).gPendingCmds i).cmdid ≠ k
    rw [cmdid_reached_fromDoor S.past_fromDoor i]
    omega
  staged := fun c h_c => absurd h_c List.not_mem_nil
  toHub p h_p := Or.inl (S.inFlight_quiet p h_p)
  fromHub := fun p h_p => absurd h_p (Multiset.notMem_zero p)
  table i h_i := absurd (cmdid_reached_fromDoor S.past_fromDoor i) h_i
  ready := by
    -- each door has said HELLO, so the hub knows where it is
    refine hubReady_start S.url S.past_fromDoor (fun d => ?_)
    obtain ⟨t, tReg, h_mem⟩ := S.hello d
    have h_id := (S.listening d).id
    have h_quiet := quietLine_helloLine (u := (S.doors d).module.udp)
      (by rw [h_id]; exact d.isText_name.1)
    rw [h_id] at h_quiet
    exact ⟨_, t, tReg, h_quiet, h_mem⟩
  doors := S.listening

/-- **Run.** -/
theorem DeliveryRun.inv (R : DeliveryRun σ) (t : ℕ) : NetInv R.start.addrs (R.state t) :=
  runAt_invariant (NetInv R.start.addrs)
    (fun t inv => (inv.step (R.possible t) (R.assumed t)).1) R.start.inv t

theorem DeliveryRun.levelsKept (R : DeliveryRun σ) (t : ℕ) :
    LevelsKept R.start.addrs (R.state t) (R.state (t + 1)) :=
  ((R.inv t).step (R.possible t) (R.assumed t)).2

/-- The command has come at least as far as the level `i`. -/
def DeliveryRun.Reached (R : DeliveryRun σ) (c : Command σ) (i t : ℕ) : Prop :=
  c ∈ (R.state t).issued ∧ ∃ st, InStage R.start.addrs (R.state t) c st ∧ i ≤ st.level

theorem DeliveryRun.reached_succ (R : DeliveryRun σ) {c : Command σ} {i t : ℕ}
    (h : R.Reached c i t) : R.Reached c i (t + 1) := by
  obtain ⟨h_c, st, h_st, h_i⟩ := h
  obtain ⟨h_c', h_levels⟩ := R.levelsKept t c h_c
  obtain ⟨st', h_st', h_le⟩ := h_levels st h_st
  exact ⟨h_c', st', h_st', h_i.trans h_le⟩

theorem DeliveryRun.reached_of_le (R : DeliveryRun σ) {c : Command σ} {i t t' : ℕ}
    (h : R.Reached c i t) (h_t : t ≤ t') : R.Reached c i t' := by
  induction t', h_t using Nat.le_induction with
  | base => exact h
  | succ t' _ ih => exact R.reached_succ ih

/-- An event that takes the command to a later stage. -/
theorem DeliveryRun.reached_next (R : DeliveryRun σ) {c : Command σ} {i t : ℕ}
    (h_c : c ∈ (R.state t).issued) {st st' : Stage} (h_i : i ≤ st.level)
    (h_st' : InStage R.start.addrs (R.state (t + 1)) c st') (h_lt : st.level < st'.level) :
    R.Reached c (i + 1) (t + 1) := by
  refine ⟨(R.levelsKept t c h_c).1, st', h_st', ?_⟩
  calc i + 1 ≤ st.level + 1 := Nat.succ_le_succ h_i
    _ ≤ st'.level := h_lt

/-- **Progress.** The datagram about a command is delivered, and the command is a stage further. -/
theorem DeliveryRun.rises (R : DeliveryRun σ) {c : Command σ} {i t : ℕ} (h_i : i < 4)
    (h : R.Reached c i t) : ∃ t' ≥ t, R.Reached c (i + 1) t' := by
  obtain ⟨h_c, st, h_st, h_le⟩ := h
  obtain ⟨-, -, h_id⟩ := (R.inv t).ids c h_c
  -- when the datagram is delivered, the command is where it was or further, and rises
  have h_toHub : ∀ p, Packet.cmdid p = some (c.cmdid : ℤ) → p ∈ (R.state t).toHub →
      ∃ t' ≥ t, R.Reached c (i + 1) t' := by
    intro p h_key h_p
    obtain ⟨t', h_t', h_takes⟩ := R.hubTakes t p h_p
    obtain ⟨h_c', st', h_st', h_le'⟩ := R.reached_of_le ⟨h_c, st, h_st, h_le⟩ h_t'
    obtain ⟨-, st'', h_st'', h_lt⟩ := (R.inv t').hubTakes h_c' h_st'
      ((R.possible t').toHub p h_takes) h_key h_takes (R.assumed t')
    exact ⟨t' + 1, h_t'.trans (Nat.le_succ _), R.reached_next h_c' h_le' h_st'' h_lt⟩
  have h_fromHub : ∀ p, Packet.cmdid p = some (c.cmdid : ℤ) → p ∈ (R.state t).fromHub →
      ∃ t' ≥ t, R.Reached c (i + 1) t' := by
    intro p h_key h_p
    obtain ⟨t', h_t', h_takes⟩ := R.partyTakes t p h_p
    obtain ⟨h_c', st', h_st', h_le'⟩ := R.reached_of_le ⟨h_c, st, h_st, h_le⟩ h_t'
    obtain ⟨-, st'', h_st'', h_lt⟩ := (R.inv t').partyTakes h_c' h_st'
      ((R.possible t').fromHub p h_takes) h_key h_takes (R.assumed t')
    exact ⟨t' + 1, h_t'.trans (Nat.le_succ _), R.reached_next h_c' h_le' h_st'' h_lt⟩
  -- in each stage but the last one a datagram about the command is in flight
  cases st with
  | sent =>
    exact h_toHub (R.start.addrs.node, c.line) (Command.cmdidOf_line h_id)
      (mem_of_about_eq_singleton h_st.toHub)
  | forwarded =>
    exact h_fromHub (R.start.addrs.door c.door, c.line) (Command.cmdidOf_line h_id)
      (mem_of_about_eq_singleton h_st.fromHub)
  | answered w =>
    exact h_toHub (R.start.addrs.door c.door, c.answer w)
      (Command.cmdidOf_answer h_id (plainWord_answer h_st.known))
      (mem_of_about_eq_singleton h_st.toHub)
  | relayed w =>
    exact h_fromHub (R.start.addrs.node, c.answer w)
      (Command.cmdidOf_answer h_id (plainWord_answer h_st.known))
      (mem_of_about_eq_singleton h_st.fromHub)
  | done w => exact ⟨t, le_rfl, h_c, _, h_st, Nat.succ_le_of_lt h_i⟩

/-! ### Delivery -/

/-- One answer has been emitted for the command, to the socket it was issued with, and no table
holds an entry for it. -/
structure AnsweredOnce (n : Net σ) (c : Command σ) : Prop where
  emitted : ∃ w, answersTo c.cmdid n.emitted
    = [(c.socket, .commandFeedback c.door.name c.cmdid "D0".toList w)]
  hub : ∀ i, (n.hub.gPendingCmds i).cmdid ≠ c.cmdid
  bridge : n.bridge.pending c.cmdid = none

/-- Every command is answered once in the end. -/
def DeliveryRun.Delivered (R : DeliveryRun σ) : Prop :=
  ∀ t, ∀ c ∈ (R.state t).issued, ∃ T ≥ t, ∀ t' ≥ T, AnsweredOnce (R.state t') c

/-- **Every web command is answered once**, and then no table knows it. -/
theorem commands_delivered (R : DeliveryRun σ) : R.Delivered := by
  intro t c h_c
  obtain ⟨st, h_st⟩ := (R.inv t).staged c h_c
  -- the level rises to 4, and there is only one stage of that level
  obtain ⟨T, h_T, h_reached⟩ := eventually_of_rises (R.Reached c) (fun i t => R.reached_succ)
    (fun i t => R.rises) ⟨h_c, st, h_st, Nat.zero_le _⟩
  refine ⟨T, h_T, fun t' h_t' => ?_⟩
  obtain ⟨-, st', h_st', h_level⟩ := h_reached t' h_t'
  cases st' with
  | done w =>
    exact ⟨⟨w, h_st'.emitted⟩, h_st'.noEntry (fun h_at => h_at), (h_st'.served h_level).pending⟩
  | sent => exact absurd h_level (show ¬ 4 ≤ 0 by decide)
  | forwarded => exact absurd h_level (show ¬ 4 ≤ 1 by decide)
  | answered w => exact absurd h_level (show ¬ 4 ≤ 2 by decide)
  | relayed w => exact absurd h_level (show ¬ 4 ≤ 3 by decide)

/-! ### A run of one command -/

/-- The three doors at one host each. -/
def homeAddrs : Addresses where
  door d := match d with
    | .D1 => ⟨1, 12345⟩
    | .D2 => ⟨2, 12345⟩
    | .D3 => ⟨3, 12345⟩
  node := ⟨4, 40000⟩
  door_injective := by
    intro d d'
    cases d <;> cases d' <;> decide
  door_ne_node d := by cases d <;> decide

/-- The doors have just said hello. -/
def homeStart : DeliveryStart where
  addrs := homeAddrs
  url := CharBuf.zero 512
  past := [DoorId.D1, .D2, .D3].map (fun d =>
    .datagram (helloLine (ListeningDoor.started d.name).module.udp) (homeAddrs.door d) 0 0)
  past_fromDoor := by
    intro e h_e
    obtain ⟨d, -, rfl⟩ := List.mem_map.mp h_e
    refine .line d _ 0 0 ?_
    have h_quiet := quietLine_helloLine (u := (ListeningDoor.started d.name).module.udp)
    cases d <;> exact h_quiet (by decide +kernel)
  doors d := ⟨(ListeningDoor.started d.name).module, none⟩
  listening d := ⟨rfl, rfl, snprintf_of_fits d.isText_name.2⟩
  hello d := ⟨0, 0, List.mem_map.mpr ⟨d, by cases d <;> decide, rfl⟩⟩
  inFlight := 0
  inFlight_quiet := fun p h_p => absurd h_p (Multiset.notMem_zero p)

/-- The first command: LOCK to the door D1. -/
def firstCommand : Command Unit := ⟨1, (), .D1, .lock⟩

/-- The command on its way, and offline checks after that. -/
def lockEvents : ℕ → NetEv Unit
  | 0 => .issue () .D1 .lock
  | 1 => .sendDone 1 none
  | 2 => .hubRecv (homeAddrs.node, firstCommand.line) 0 0
  | 3 => .doorRecv .D1 firstCommand.line deadEnv
  | 4 => .hubRecv (homeAddrs.door .D1, firstCommand.answer "LOCK".toList) 0 0
  | 5 => .nodeRecv (firstCommand.answer "LOCK".toList)
  | _ => .check 0

/-- The state at the time `t`. -/
abbrev lockState (t : ℕ) : Net Unit := runAt (stepNet homeAddrs) homeStart.net lockEvents t

/-- The datagrams in flight at the time `t`. -/
def lockFlight : ℕ → Multiset Packet × Multiset Packet
  | 1 => ({(homeAddrs.node, firstCommand.line)}, 0)
  | 2 => ({(homeAddrs.node, firstCommand.line)}, 0)
  | 3 => (0, {(homeAddrs.door .D1, firstCommand.line)})
  | 4 => ({(homeAddrs.door .D1, firstCommand.answer "LOCK".toList)}, 0)
  | 5 => (0, {(homeAddrs.node, firstCommand.answer "LOCK".toList)})
  | _ => (0, 0)

theorem lockState_flight (t : ℕ) :
    (lockState t).toHub = (lockFlight t).1 ∧ (lockState t).fromHub = (lockFlight t).2 := by
  have h_start : ∀ t ≤ 6, (lockState t).toHub = (lockFlight t).1 ∧
      (lockState t).fromHub = (lockFlight t).2 := by
    decide +kernel
  rcases Nat.lt_or_ge t 6 with h_t | h_t
  · exact h_start t h_t.le
  · -- the checks send nothing
    have h_zero : ∀ t ≥ 6, lockFlight t = (0, 0) ∧ lockEvents t = .check 0 := by
      intro t h_t
      obtain ⟨s, rfl⟩ := Nat.exists_eq_add_of_le' h_t
      exact ⟨rfl, rfl⟩
    induction t, h_t using Nat.le_induction with
    | base => exact h_start 6 le_rfl
    | succ t h_t ih =>
      rw [(h_zero t h_t).1] at ih
      rw [(h_zero (t + 1) (Nat.le_succ_of_le h_t)).1]
      show (stepNet homeAddrs (lockState t) (lockEvents t)).toHub = 0 ∧
        (stepNet homeAddrs (lockState t) (lockEvents t)).fromHub = 0
      rw [(h_zero t h_t).2]
      refine ⟨ih.1, ?_⟩
      show packetsOf _ + (lockState t).fromHub = 0
      rw [(hub_quiet (e := .check 0) rfl rfl _).2, ih.2]
      rfl

/-- The run of one command: the assumptions can be met. -/
def lockRun : DeliveryRun Unit where
  start := homeStart
  events := lockEvents
  possible t := by
    obtain ⟨h_to, h_from⟩ := lockState_flight t
    refine ⟨fun p h_p => ?_, fun p h_p => ?_⟩
    · show p ∈ (lockState t).toHub
      rw [h_to]
      rcases t with _ | _ | _ | _ | _ | _ | t
      all_goals first
        | exact absurd h_p (fun h => h)
        | exact h_p ▸ Multiset.mem_singleton_self _
    · show p ∈ (lockState t).fromHub
      rw [h_from]
      rcases t with _ | _ | _ | _ | _ | _ | t
      all_goals first
        | exact absurd h_p (fun h => h)
        | exact h_p ▸ Multiset.mem_singleton_self _
  assumed t := by
    rcases t with _ | _ | _ | _ | _ | _ | t
    · exact show (1 : ℕ) < 2 ^ 31 by decide
    · exact rfl
    · show (bookOutstanding _ (lockState 2).outstanding).card ≤ _
      decide +kernel
    · trivial
    · show (bookOutstanding _ (lockState 4).outstanding).card ≤ _
      decide +kernel
    · intro k h_k
      have h_one : some (1 : ℤ) = some (k : ℤ) := h_k
      have h_cast := Option.some.inj h_one
      obtain rfl : 1 = k := by omega
      show (lockState 5).bridge.sending 1 = none
      decide +kernel
    · trivial
  hubTakes t p h_p := by
    have h_mem : p ∈ (lockFlight t).1 := (lockState_flight t).1 ▸ h_p
    rcases t with _ | _ | _ | _ | _ | _ | t
    · exact absurd h_mem (Multiset.notMem_zero p)
    · exact ⟨2, by decide, (Multiset.mem_singleton.mp h_mem).symm⟩
    · exact ⟨2, by decide, (Multiset.mem_singleton.mp h_mem).symm⟩
    · exact absurd h_mem (Multiset.notMem_zero p)
    · exact ⟨4, by decide, (Multiset.mem_singleton.mp h_mem).symm⟩
    · exact absurd h_mem (Multiset.notMem_zero p)
    · exact absurd h_mem (Multiset.notMem_zero p)
  partyTakes t p h_p := by
    have h_mem : p ∈ (lockFlight t).2 := (lockState_flight t).2 ▸ h_p
    rcases t with _ | _ | _ | _ | _ | _ | t
    · exact absurd h_mem (Multiset.notMem_zero p)
    · exact absurd h_mem (Multiset.notMem_zero p)
    · exact absurd h_mem (Multiset.notMem_zero p)
    · exact ⟨3, by decide, (Multiset.mem_singleton.mp h_mem).symm⟩
    · exact absurd h_mem (Multiset.notMem_zero p)
    · exact ⟨5, by decide, (Multiset.mem_singleton.mp h_mem).symm⟩
    · exact absurd h_mem (Multiset.notMem_zero p)

/-- The command has been issued in it. -/
theorem firstCommand_issued : firstCommand ∈ (lockRun.state 1).issued := List.mem_singleton.mpr rfl

theorem commands_delivered_lockRun :
    ∃ T ≥ 1, ∀ t' ≥ T, AnsweredOnce (lockRun.state t') firstCommand :=
  commands_delivered lockRun 1 firstCommand firstCommand_issued

end System

end DoorSystem
