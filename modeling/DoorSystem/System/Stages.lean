import DoorSystem.Hub.Eviction
import DoorSystem.Hub.Relay
import DoorSystem.System.KnownDoors

/-!
# The stages of a web command

A command goes through five stages: its line is on the way to the hub, then on the way to the door,
its answer is on the way to the hub, then on the way to the bridge, and then it is done. In each
stage one datagram is in flight about the command, and the two tables agree with the stage: the hub
has an entry for it in the two middle stages, and the bridge until it is done (`InStage`).

`NetInv` is the invariant: every command is in one of the stages. An event that is about one
command, at most, leaves all others where they are (`NetInv.advance`).
-/

namespace DoorSystem

open CLib

namespace System

open Door Hub Node

variable {σ : Type*} {A : Addresses}

/-! ### The hub -/

/-- A line that is neither a COMMAND nor a FEEDBACK, and an offline check, change nothing that
commands depend on. -/
theorem hub_quiet {e : HubEv} (h_c : commandOf e.words = none) (h_f : feedbackOf e.words = none)
    (h : HubState) :
    (Hub.step h e).gPendingCmds = h.gPendingCmds ∧ packetsOf (exec h e).2 = 0 := by
  have h_relays : (Hub.step h e).gPendingCmds = h.gPendingCmds ∧ relaysOf (exec h e).2 = [] := by
    rcases exec_pending_cases h e with ⟨f, h_f', -⟩ | ⟨c, tReg, h_c', -⟩ | ⟨-, -, h_pend, h_out⟩
    · rw [h_f] at h_f'
      exact absurd h_f' (by simp)
    · rw [h_c] at h_c'
      exact absurd h_c' (by simp)
    · exact ⟨h_pend, h_out⟩
  refine ⟨h_relays.1, ?_⟩
  unfold packetsOf
  rw [h_relays.2, forwardsOf_exec h_c]
  rfl

/-- The line of a command is registered for the bridge and forwarded to the door. -/
theorem hub_command {h : HubState} (ready : HubReady A h) {c : Command σ}
    (h_id : c.cmdid < 2 ^ 31) (t tReg : ℤ) :
    (Hub.step h (.datagram c.line A.node t tReg)).gPendingCmds
        = registerClientCommand c.cmdid c.door.name A.node tReg h.gPendingCmds ∧
      packetsOf (exec h (.datagram c.line A.node t tReg)).2 = {(A.door c.door, c.line)} := by
  let l : CommandLine := ⟨c.line, c.words, Command.commandOf_line h_id⟩
  obtain ⟨i, h_i⟩ := ready.slots c.door
  have h_slot : HasSlot l.words.mod h.gDoors := hasSlot_of_holds h_i
  have h_addr : endpointAddr l.words.mod h.gEndpoints = some (A.door c.door) :=
    ready.endpoints c.door
  -- the door has a slot and an endpoint, so the line is forwarded
  rcases exec_command ready.path l A.node t tReg with ⟨-, h_out, h_pend⟩ | ⟨h_no, -⟩
  · refine ⟨h_pend, ?_⟩
    rw [h_addr] at h_out
    change (exec h (.datagram c.line A.node t tReg)).2
      = [.forward (A.door c.door) (datagramLine c.line)] at h_out
    rw [h_out, Command.datagramLine_line h_id]
    rfl
  · exact absurd h_slot h_no

/-- The hub has one entry for the command, and it leads to the bridge. -/
def Entry (A : Addresses) (g : PendingTable) (c : Command σ) : Prop :=
  ∃ i, Matches g c.door.name c.cmdid i ∧ (g i).clientAddr = A.node ∧
    ∀ j, (g j).cmdid = c.cmdid → j = i

/-- The answer of a command with an entry takes the entry out and is relayed to the bridge. -/
theorem hub_answer {h : HubState} (ready : HubReady A h) {c : Command σ}
    (h_id : c.cmdid < 2 ^ 31) {w : CStr} (h_w : PlainWord w) (h_entry : Entry A h.gPendingCmds c)
    (src : SockAddr) (t tReg : ℤ) :
    (∃ i, (h.gPendingCmds i).cmdid = c.cmdid ∧ (∀ j, (h.gPendingCmds j).cmdid = c.cmdid → j = i) ∧
      (Hub.step h (.datagram (c.answer w) src t tReg)).gPendingCmds
        = Function.update h.gPendingCmds i { h.gPendingCmds i with cmdid := 0 }) ∧
      packetsOf (exec h (.datagram (c.answer w) src t tReg)).2 = {(A.node, c.answer w)} := by
  let e : HubEv := .datagram (c.answer w) src t tReg
  have h_f : feedbackOf e.words = some (c.answerWords w) := Command.feedbackOf_answer h_id h_w
  have h_c : commandOf e.words = none := commandOf_of_feedback h_f
  obtain ⟨i, h_match, h_client, h_only⟩ := h_entry
  have h_find : findClientCmd c.door.name c.cmdid h.gPendingCmds = some i := by
    refine findClientCmd_eq_some_iff.mpr ⟨h_match, fun j h_j h_match' => ?_⟩
    exact absurd (h_only j h_match'.1) h_j.ne
  have h_clear : getAndClearClientCmd c.door.name c.cmdid h.gPendingCmds
      = (Function.update h.gPendingCmds i { h.gPendingCmds i with cmdid := 0 }, some A.node) := by
    unfold getAndClearClientCmd
    rw [h_find, ← h_client]
  obtain ⟨j, h_j⟩ := ready.slots c.door
  have h_slot : HasSlot (c.answerWords w).mod h.gDoors := hasSlot_of_holds h_j
  -- the line is a FEEDBACK of a module with a slot, so the pair is looked up
  rcases exec_pending_cases h e with ⟨f, h_f', -, h_pend, h_out⟩ | ⟨c', tReg', h_c', -⟩ |
    ⟨h_no, -⟩
  · obtain rfl : c.answerWords w = f := Option.some.inj (h_f.symm.trans h_f')
    change _ = (getAndClearClientCmd c.door.name c.cmdid h.gPendingCmds).1 at h_pend
    change _ = feedbackRelay _ (getAndClearClientCmd c.door.name c.cmdid h.gPendingCmds).2 at h_out
    rw [h_clear] at h_pend h_out
    refine ⟨⟨i, h_match.1, h_only, h_pend⟩, ?_⟩
    show packetsOf (exec h e).2 = _
    unfold packetsOf
    rw [h_out, forwardsOf_exec h_c]
    rfl
  · rw [h_c] at h_c'
    exact absurd h_c' (by simp)
  · exact absurd h_slot (h_no _ h_f)

/-! ### The stages of a command -/

/-- Where a command stands. The word is the action of its answer. -/
inductive Stage
  | sent
  | forwarded
  | answered (w : CStr)
  | relayed (w : CStr)
  | done (w : CStr)

namespace Stage

/-- The number of deliveries so far. -/
def level : Stage → ℕ
  | .sent => 0
  | .forwarded => 1
  | .answered _ => 2
  | .relayed _ => 3
  | .done _ => 4

/-- The word is one that a door answers with. -/
def Known : Stage → Prop
  | .sent => True
  | .forwarded => True
  | .answered w => w ∈ answerWords
  | .relayed w => w ∈ answerWords
  | .done w => w ∈ answerWords

/-- What is on the way to the hub about the command. -/
def toHub (A : Addresses) (c : Command σ) : Stage → Multiset Packet
  | .sent => {(A.node, c.line)}
  | .answered w => {(A.door c.door, c.answer w)}
  | _ => 0

/-- What is on the way from the hub. -/
def fromHub (A : Addresses) (c : Command σ) : Stage → Multiset Packet
  | .forwarded => {(A.door c.door, c.line)}
  | .relayed w => {(A.node, c.answer w)}
  | _ => 0

/-- The hub has taken the command and not its answer. -/
def AtHub : Stage → Prop
  | .forwarded => True
  | .answered _ => True
  | _ => False

/-- What the bridge has emitted for the command. -/
def emitted (c : Command σ) : Stage → List (σ × NodeEvent)
  | .done w => [(c.socket, .commandFeedback c.door.name c.cmdid "D0".toList w)]
  | _ => []

end Stage

/-- The command that an event answers. -/
def eventCmdid : NodeEvent → Option ℤ
  | .commandFeedback _ cmdid _ _ => some cmdid
  | .commandError _ => none

/-- The direct answers to the command `k`, to whatever socket. -/
def answersTo (k : ℕ) (events : List (σ × NodeEvent)) : List (σ × NodeEvent) :=
  events.filter (fun p => eventCmdid p.2 = some (k : ℤ))

/-- The datagrams about the command `k`. -/
abbrev aboutCmd (k : ℕ) (bag : Multiset Packet) : Multiset Packet :=
  about Packet.cmdid (k : ℤ) bag

/-- A datagram about one command is about no other. -/
theorem Packet.cmdid_ne {p : Packet} {k k' : ℕ} (h : Packet.cmdid p = some (k : ℤ))
    (h_ne : k' ≠ k) : Packet.cmdid p ≠ some (k' : ℤ) := by
  rw [h]
  intro h_eq
  exact h_ne (Nat.cast_injective (Option.some.inj h_eq)).symm

/-- The quiet datagrams of the doors. -/
def QuietPacket (A : Addresses) (p : Packet) : Prop :=
  ∃ d : DoorId, p.1 = A.door d ∧ QuietLine d.name p.2

/-- They are about no command. -/
theorem about_quiet {bag : Multiset Packet} (h : ∀ p ∈ bag, QuietPacket A p) (k : ℕ) :
    aboutCmd k bag = 0 := by
  refine about_eq_zero (fun p h_p => ?_)
  obtain ⟨d, -, h_quiet⟩ := h p h_p
  show cmdidOf p.2 ≠ some (k : ℤ)
  rw [h_quiet.cmdidOf]
  simp

/-- The lines that a door sends. -/
theorem quietPacket_of_mem {d : DoorId} {lines : List CStr}
    (h : ∀ line ∈ lines, QuietLine d.name line) {p : Packet}
    (h_p : p ∈ (↑(lines.map (fun line => (A.door d, line))) : Multiset Packet)) :
    QuietPacket A p := by
  obtain ⟨line, h_line, rfl⟩ := List.mem_map.mp (Multiset.mem_coe.mp h_p)
  exact ⟨d, rfl, h line h_line⟩

/-- The bridge has nothing to do with the command `k`. -/
structure Unknown (bridge : Bridge σ) (k : ℕ) : Prop where
  sending : bridge.sending k = none
  pending : bridge.pending k = none
  timers : bridge.timers k = none

/-- The bridge waits for the answer, or for the callback after which it waits. -/
def Waits (bridge : Bridge σ) (c : Command σ) : Prop :=
  (bridge.sending c.cmdid = some c.socket ∧ bridge.pending c.cmdid = none ∧
      bridge.timers c.cmdid = none) ∨
    (bridge.sending c.cmdid = none ∧ bridge.pending c.cmdid = some c.socket ∧
      bridge.timers c.cmdid = some c.socket)

/-- **The stage of a command**: what is in flight, what the tables hold and what was emitted. -/
structure InStage (A : Addresses) (n : Net σ) (c : Command σ) (st : Stage) : Prop where
  known : st.Known
  toHub : aboutCmd c.cmdid n.toHub = st.toHub A c
  fromHub : aboutCmd c.cmdid n.fromHub = st.fromHub A c
  entry : st.AtHub → Entry A n.hub.gPendingCmds c
  noEntry : ¬ st.AtHub → ∀ i, (n.hub.gPendingCmds i).cmdid ≠ c.cmdid
  outstanding : (c.cmdid : ℤ) ∈ n.outstanding ↔ st.AtHub
  waits : st.level < 4 → Waits n.bridge c
  served : 4 ≤ st.level → Unknown n.bridge c.cmdid
  emitted : answersTo c.cmdid n.emitted = st.emitted c

/-- Nothing is known of the command `k`. -/
structure Untouched (n : Net σ) (k : ℕ) : Prop where
  toHub : aboutCmd k n.toHub = 0
  fromHub : aboutCmd k n.fromHub = 0
  table : ∀ i, (n.hub.gPendingCmds i).cmdid ≠ k
  outstanding : (k : ℤ) ∉ n.outstanding
  bridge : Unknown n.bridge k
  emitted : answersTo k n.emitted = []

/-- The two states are the same for the command `k`. -/
structure SameFor (k : ℕ) (n n' : Net σ) : Prop where
  toHub : aboutCmd k n'.toHub = aboutCmd k n.toHub
  fromHub : aboutCmd k n'.fromHub = aboutCmd k n.fromHub
  table : ∀ i, n'.hub.gPendingCmds i = n.hub.gPendingCmds i ∨
    ((n.hub.gPendingCmds i).cmdid ≠ k ∧ (n'.hub.gPendingCmds i).cmdid ≠ k)
  outstanding : (k : ℤ) ∈ n'.outstanding ↔ (k : ℤ) ∈ n.outstanding
  sending : n'.bridge.sending k = n.bridge.sending k
  pending : n'.bridge.pending k = n.bridge.pending k
  timers : n'.bridge.timers k = n.bridge.timers k
  emitted : answersTo k n'.emitted = answersTo k n.emitted

theorem SameFor.cmdid_iff {k : ℕ} {n n' : Net σ} (h : SameFor k n n')
    (i : Fin HUB_MAX_PENDING_CMDS) :
    (n'.hub.gPendingCmds i).cmdid = k ↔ (n.hub.gPendingCmds i).cmdid = k := by
  rcases h.table i with h_eq | ⟨h_old, h_new⟩
  · rw [h_eq]
  · exact iff_of_false h_new h_old

theorem SameFor.unknown {k : ℕ} {n n' : Net σ} (h : SameFor k n n') (h_k : Unknown n.bridge k) :
    Unknown n'.bridge k := by
  refine ⟨?_, ?_, ?_⟩
  · rw [h.sending]
    exact h_k.sending
  · rw [h.pending]
    exact h_k.pending
  · rw [h.timers]
    exact h_k.timers

/-- A stage is told by the two directions in which a datagram may be in flight and by the hub. -/
theorem Stage.level_eq {c : Command σ} {st st' : Stage}
    (h_to : st.toHub A c = 0 ↔ st'.toHub A c = 0)
    (h_from : st.fromHub A c = 0 ↔ st'.fromHub A c = 0) (h_at : st.AtHub ↔ st'.AtHub) :
    st.level = st'.level := by
  cases st <;> cases st' <;>
    simp_all [Stage.toHub, Stage.fromHub, Stage.AtHub, Stage.level]

/-- A command is in one stage. -/
theorem InStage.level_eq {n : Net σ} {c : Command σ} {st st' : Stage} (h : InStage A n c st)
    (h' : InStage A n c st') : st.level = st'.level := by
  refine Stage.level_eq (A := A) (c := c) ?_ ?_ (h.outstanding.symm.trans h'.outstanding)
  · rw [← h.toHub, ← h'.toHub]
  · rw [← h.fromHub, ← h'.fromHub]

/-- **Frame.** What is the same for a command leaves it in its stage. -/
theorem InStage.frame {n n' : Net σ} {c : Command σ} {st : Stage} (h : InStage A n c st)
    (h_same : SameFor c.cmdid n n') : InStage A n' c st where
  known := h.known
  toHub := h_same.toHub.trans h.toHub
  fromHub := h_same.fromHub.trans h.fromHub
  entry h_at := by
    -- the entry of the command is not one of those that may differ
    obtain ⟨i, h_match, h_client, h_only⟩ := h.entry h_at
    rcases h_same.table i with h_eq | ⟨h_old, -⟩
    · refine ⟨i, ?_, ?_, fun j h_j => h_only j ((h_same.cmdid_iff j).mp h_j)⟩
      · unfold Matches
        rw [h_eq]
        exact h_match
      · rw [h_eq]
        exact h_client
    · exact absurd h_match.1 h_old
  noEntry h_at i h_i := h.noEntry h_at i ((h_same.cmdid_iff i).mp h_i)
  outstanding := h_same.outstanding.trans h.outstanding
  waits h_level := by
    unfold Waits
    rw [h_same.sending, h_same.pending, h_same.timers]
    exact h.waits h_level
  served h_level := h_same.unknown (h.served h_level)
  emitted := h_same.emitted.trans h.emitted

theorem Untouched.frame {n n' : Net σ} {k : ℕ} (h : Untouched n k) (h_same : SameFor k n n') :
    Untouched n' k where
  toHub := h_same.toHub.trans h.toHub
  fromHub := h_same.fromHub.trans h.fromHub
  table i h_i := h.table i ((h_same.cmdid_iff i).mp h_i)
  outstanding h_mem := h.outstanding (h_same.outstanding.mp h_mem)
  bridge := h_same.unknown h.bridge
  emitted := h_same.emitted.trans h.emitted

/-! ### The invariant -/

/-- **The invariant.** -/
structure NetInv (A : Addresses) (n : Net σ) : Prop where
  started : 0 < n.bridge.cmdCounter
  ids : ∀ c ∈ n.issued, 0 < c.cmdid ∧ c.cmdid < n.bridge.cmdCounter ∧ c.cmdid < 2 ^ 31
  distinct : ∀ c ∈ n.issued, ∀ c' ∈ n.issued, c.cmdid = c'.cmdid → c = c'
  fresh : ∀ k, n.bridge.cmdCounter ≤ k → Untouched n k
  staged : ∀ c ∈ n.issued, ∃ st, InStage A n c st
  /-- What is on the way to the hub comes from a door and is quiet, or is about a command. -/
  toHub : ∀ p ∈ n.toHub, QuietPacket A p ∨
    ∃ c ∈ n.issued, Packet.cmdid p = some (c.cmdid : ℤ)
  fromHub : ∀ p ∈ n.fromHub, ∃ c ∈ n.issued, Packet.cmdid p = some (c.cmdid : ℤ)
  table : ∀ i, (n.hub.gPendingCmds i).cmdid ≠ 0 →
    ∃ c ∈ n.issued, (n.hub.gPendingCmds i).cmdid = c.cmdid
  ready : HubReady A n.hub
  doors : ∀ d : DoorId, Listening d.name (n.doors d).module

/-- Every command is still there, and at least as far as it was. -/
def LevelsKept (A : Addresses) (n n' : Net σ) : Prop :=
  ∀ c ∈ n.issued, c ∈ n'.issued ∧
    ∀ st, InStage A n c st → ∃ st', InStage A n' c st' ∧ st.level ≤ st'.level

/-- What `n'` holds comes from the doors and from the commands of `n`. -/
structure Accounted (A : Addresses) (n n' : Net σ) : Prop where
  issued : n'.issued = n.issued
  counter : n'.bridge.cmdCounter = n.bridge.cmdCounter
  toHub : ∀ p ∈ n'.toHub, QuietPacket A p ∨
    ∃ c ∈ n.issued, Packet.cmdid p = some (c.cmdid : ℤ)
  fromHub : ∀ p ∈ n'.fromHub, ∃ c ∈ n.issued, Packet.cmdid p = some (c.cmdid : ℤ)
  table : ∀ i, (n'.hub.gPendingCmds i).cmdid ≠ 0 →
    ∃ c ∈ n.issued, (n'.hub.gPendingCmds i).cmdid = c.cmdid
  ready : HubReady A n'.hub
  doors : ∀ d : DoorId, Listening d.name (n'.doors d).module

/-- An event about at most the command `k₀` keeps the invariant. -/
theorem NetInv.advance {n n' : Net σ} (inv : NetInv A n) (acc : Accounted A n n') {k₀ : ℕ}
    (h_k₀ : k₀ < n.bridge.cmdCounter) (h_same : ∀ k, 0 < k → k ≠ k₀ → SameFor k n n')
    (h_own : ∀ c ∈ n.issued, c.cmdid = k₀ →
      ∃ st st', InStage A n c st ∧ InStage A n' c st' ∧ st.level ≤ st'.level) :
    NetInv A n' ∧ LevelsKept A n n' := by
  have h_kept : LevelsKept A n n' := by
    intro c h_c
    refine ⟨by rw [acc.issued]; exact h_c, fun st h_st => ?_⟩
    -- the command that moved has a later stage, every other one the same
    by_cases h_k : c.cmdid = k₀
    · obtain ⟨st₀, st', h_st₀, h_st', h_le⟩ := h_own c h_c h_k
      exact ⟨st', h_st', (h_st.level_eq h_st₀).trans_le h_le⟩
    · exact ⟨st, h_st.frame (h_same _ (inv.ids c h_c).1 h_k), le_rfl⟩
  refine ⟨⟨?_, ?_, ?_, ?_, ?_, ?_, ?_, ?_, acc.ready, acc.doors⟩, h_kept⟩
  · rw [acc.counter]
    exact inv.started
  · rw [acc.issued, acc.counter]
    exact inv.ids
  · rw [acc.issued]
    exact inv.distinct
  · intro k h_k
    rw [acc.counter] at h_k
    exact (inv.fresh k h_k).frame
      (h_same k (inv.started.trans_le h_k) (h_k₀.trans_le h_k).ne')
  · intro c h_c
    rw [acc.issued] at h_c
    obtain ⟨st, h_st⟩ := inv.staged c h_c
    obtain ⟨st', h_st', -⟩ := (h_kept c h_c).2 st h_st
    exact ⟨st', h_st'⟩
  · rw [acc.issued]
    exact acc.toHub
  · rw [acc.issued]
    exact acc.fromHub
  · rw [acc.issued]
    exact acc.table

/-- An event that takes a command from one stage to a later one. -/
theorem NetInv.advanceStage {n n' : Net σ} (inv : NetInv A n) (acc : Accounted A n n')
    {c : Command σ} (h_c : c ∈ n.issued) (h_same : ∀ k, k ≠ c.cmdid → 0 < k → SameFor k n n')
    {st st' : Stage} (h_st : InStage A n c st) (h_st' : InStage A n' c st')
    (h_level : st.level ≤ st'.level) : NetInv A n' ∧ LevelsKept A n n' := by
  refine inv.advance acc (inv.ids c h_c).2.1 (fun k h_k h_ne => h_same k h_ne h_k) ?_
  intro c' h_c' h_eq
  -- no other command has the number
  obtain rfl := inv.distinct c' h_c' c h_c h_eq
  exact ⟨st, st', h_st, h_st', h_level⟩

/-- An event about no command. -/
theorem NetInv.advanceQuiet {n n' : Net σ} (inv : NetInv A n) (acc : Accounted A n n')
    (h_same : ∀ k, SameFor k n n') : NetInv A n' ∧ LevelsKept A n n' := by
  refine inv.advance acc inv.started (fun k _ _ => h_same k) ?_
  intro c h_c h_zero
  -- the numbers of commands start at 1
  exact absurd h_zero (inv.ids c h_c).1.ne'

/-- With at most 128 commands outstanding, a new command finds a free entry. -/
theorem NetInv.exists_free {n : Net σ} (inv : NetInv A n)
    (h_room : n.outstanding.card < HUB_MAX_PENDING_CMDS) :
    ∃ i, (n.hub.gPendingCmds i).cmdid = 0 := by
  by_contra h_full
  -- the entries of a full table belong to different commands, and all these are outstanding
  have h_taken : ∀ i, ∃ c ∈ n.issued, (n.hub.gPendingCmds i).cmdid = c.cmdid ∧
      (c.cmdid : ℤ) ∈ n.outstanding ∧ Entry A n.hub.gPendingCmds c := by
    intro i
    obtain ⟨c, h_c, h_i⟩ := inv.table i (fun h_zero => h_full ⟨i, h_zero⟩)
    obtain ⟨st, h_st⟩ := inv.staged c h_c
    have h_at : st.AtHub := by
      by_contra h_not
      exact h_st.noEntry h_not i h_i
    exact ⟨c, h_c, h_i, h_st.outstanding.mpr h_at, h_st.entry h_at⟩
  -- so there would be 128 outstanding commands
  have h_inj : Function.Injective (fun i => (n.hub.gPendingCmds i).cmdid) := by
    intro i j h_ij
    obtain ⟨c, -, h_i, -, e, -, -, h_only⟩ := h_taken i
    -- both entries are the one of the command
    calc i = e := h_only i h_i
      _ = j := (h_only j (h_ij.symm.trans h_i)).symm
  have h_sub : Finset.univ.image (fun i => (n.hub.gPendingCmds i).cmdid) ⊆ n.outstanding := by
    intro k h_k
    obtain ⟨i, -, rfl⟩ := Finset.mem_image.mp h_k
    obtain ⟨c, -, h_i, h_out, -⟩ := h_taken i
    rw [h_i]
    exact h_out
  have h_card := Finset.card_le_card h_sub
  rw [Finset.card_image_of_injective _ h_inj, Finset.card_univ, Fintype.card_fin] at h_card
  omega

end System

end DoorSystem
