import DoorSystem.System.Stages

/-!
# One event of the network

The four `InStage.…` lemmas are the deliveries that take a command to the next stage. The other
events leave every command in its stage. `NetInv.step` puts them together: where only what is in
flight is delivered, and under the assumptions on the bridge and on the number of commands, every
event keeps the invariant, and no command falls back.
-/

namespace DoorSystem

open CLib

namespace System

open Door Hub Node

variable {σ : Type*} {A : Addresses}

/-! ### The lines of a command -/

namespace Command

variable {c : Command σ}

theorem bookOutstanding_line (h_id : c.cmdid < 2 ^ 31) (outstanding : Finset ℤ) :
    bookOutstanding c.line outstanding = insert (c.cmdid : ℤ) outstanding := by
  unfold bookOutstanding
  dsimp only
  rw [commandOf_line h_id]
  rfl

theorem bookOutstanding_answer (h_id : c.cmdid < 2 ^ 31) {w : CStr} (h_w : PlainWord w)
    (outstanding : Finset ℤ) :
    bookOutstanding (c.answer w) outstanding = outstanding.erase (c.cmdid : ℤ) := by
  have h_words := feedbackOf_answer h_id h_w
  unfold bookOutstanding
  dsimp only
  rw [commandOf_of_feedback h_words, h_words]
  rfl

/-- A COMMAND says nothing about its module. -/
theorem honest_line (h_id : c.cmdid < 2 ^ 31) (src : SockAddr) (t tReg : ℤ) :
    Honest A (.datagram c.line src t tReg) := by
  intro mod type args h_words h_type
  obtain ⟨cmdidS, rest, h_eq, -⟩ := cmdWords_eq_some (commandOf_line h_id)
  exact absurd (List.cons.inj (List.cons.inj (h_words.symm.trans h_eq)).2).1 h_type

/-- The answer names the door that it comes from. -/
theorem honest_answer (h_id : c.cmdid < 2 ^ 31) {w : CStr} (h_w : PlainWord w) (t tReg : ℤ) :
    Honest A (.datagram (c.answer w) (A.door c.door) t tReg) := by
  intro mod type args h_words _
  obtain ⟨cmdidS, rest, h_eq, -⟩ := cmdWords_eq_some (feedbackOf_answer h_id h_w)
  exact ⟨c.door, (List.cons.inj (h_words.symm.trans h_eq)).1, rfl⟩

end Command

/-! ### What the hub does for a command -/

/-- An entry that is free or belongs to the command `c`. -/
def FreeOrOwn (c : Command σ) (e : PendingClientCmd) : Prop := e.cmdid = 0 ∨ e.cmdid = c.cmdid

/-- The hub takes the datagram `p` and sends the datagram `q`, both about the command `c`. -/
structure HubMoves (n n' : Net σ) (c : Command σ) (p q : Packet) : Prop where
  toHub : n'.toHub = n.toHub.erase p
  fromHub : n'.fromHub = q ::ₘ n.fromHub
  key : Packet.cmdid p = some (c.cmdid : ℤ)
  key' : Packet.cmdid q = some (c.cmdid : ℤ)
  table : ∀ i, n'.hub.gPendingCmds i = n.hub.gPendingCmds i ∨
    FreeOrOwn c (n.hub.gPendingCmds i) ∧ FreeOrOwn c (n'.hub.gPendingCmds i)
  outstanding : ∀ k : ℤ, k ≠ c.cmdid → (k ∈ n'.outstanding ↔ k ∈ n.outstanding)
  bridge : n'.bridge = n.bridge
  emitted : n'.emitted = n.emitted
  issued : n'.issued = n.issued
  doors : n'.doors = n.doors

/-- The other commands see nothing of it. -/
theorem HubMoves.sameFor {n n' : Net σ} {c : Command σ} {p q : Packet} (moves : HubMoves n n' c p q)
    {k : ℕ} (h_ne : k ≠ c.cmdid) (h_k : 0 < k) : SameFor k n n' := by
  refine ⟨?_, ?_, fun i => ?_, moves.outstanding k (by omega), ?_, ?_, ?_, ?_⟩
  · rw [moves.toHub]
    exact about_erase_of_ne (Packet.cmdid_ne moves.key h_ne)
  · rw [moves.fromHub]
    exact about_cons_of_ne (Packet.cmdid_ne moves.key' h_ne)
  · rcases moves.table i with h_eq | ⟨h_old, h_new⟩
    · exact Or.inl h_eq
    · -- `k` is neither 0 nor the number of `c`
      have h_own : ∀ e : PendingClientCmd, FreeOrOwn c e → e.cmdid ≠ k := by
        rintro e (h_e | h_e)
        · omega
        · omega
      exact Or.inr ⟨h_own _ h_old, h_own _ h_new⟩
  · rw [moves.bridge]
  · rw [moves.bridge]
  · rw [moves.bridge]
  · rw [moves.emitted]

theorem HubMoves.accounted {n n' : Net σ} {c : Command σ} {p q : Packet}
    (moves : HubMoves n n' c p q) (inv : NetInv A n) (h_c : c ∈ n.issued)
    (h_ready : HubReady A n'.hub) : Accounted A n n' := by
  refine ⟨moves.issued, by rw [moves.bridge], ?_, ?_, ?_, h_ready, ?_⟩
  · intro p' h_p
    rw [moves.toHub] at h_p
    exact inv.toHub p' (Multiset.mem_of_mem_erase h_p)
  · intro p' h_p
    rw [moves.fromHub, Multiset.mem_cons] at h_p
    -- the new datagram is about `c`, the others were accounted for
    rcases h_p with rfl | h_p
    · exact ⟨c, h_c, moves.key'⟩
    · exact inv.fromHub p' h_p
  · intro i h_i
    -- an entry that was written is free or holds `c`
    rcases moves.table i with h_eq | ⟨-, h_zero | h_own⟩
    · rw [h_eq] at h_i ⊢
      exact inv.table i h_i
    · exact absurd h_zero h_i
    · exact ⟨c, h_c, h_own⟩
  · rw [moves.doors]
    exact inv.doors

/-! ### Deliveries -/

/-- **The hub takes the COMMAND.** -/
theorem InStage.command {n : Net σ} (inv : NetInv A n) {c : Command σ} (h_c : c ∈ n.issued)
    (h : InStage A n c .sent) (t tReg : ℤ)
    (h_room : (bookOutstanding c.line n.outstanding).card ≤ HUB_MAX_PENDING_CMDS) :
    (NetInv A (stepNet A n (.hubRecv (A.node, c.line) t tReg)) ∧
        LevelsKept A n (stepNet A n (.hubRecv (A.node, c.line) t tReg))) ∧
      InStage A (stepNet A n (.hubRecv (A.node, c.line) t tReg)) c .forwarded := by
  obtain ⟨-, -, h_id⟩ := inv.ids c h_c
  obtain ⟨h_pend, h_packets⟩ := hub_command inv.ready h_id t tReg
  -- a command that is on its way counts as one more
  have h_out : (c.cmdid : ℤ) ∉ n.outstanding := fun h_mem => h.outstanding.mp h_mem
  rw [Command.bookOutstanding_line h_id, Finset.card_insert_of_notMem h_out] at h_room
  -- the entry that is written was free
  obtain ⟨h_free, -⟩ := registerSlot_of_free (inv.exists_free h_room)
  let slot := registerSlot n.hub.gPendingCmds
  let n' := stepNet A n (.hubRecv (A.node, c.line) t tReg)
  show (NetInv A n' ∧ LevelsKept A n n') ∧ InStage A n' c .forwarded
  have h_slot : n'.hub.gPendingCmds slot = ⟨c.cmdid, A.node, snprintf _ c.door.name, tReg⟩ := by
    show (Hub.step n.hub _).gPendingCmds slot = _
    rw [h_pend]
    exact Function.update_self ..
  have h_other : ∀ i, i ≠ slot → n'.hub.gPendingCmds i = n.hub.gPendingCmds i := by
    intro i h_i
    show (Hub.step n.hub _).gPendingCmds i = _
    rw [h_pend]
    exact Function.update_of_ne h_i _ _
  have h_outstanding : n'.outstanding = insert (c.cmdid : ℤ) n.outstanding :=
    Command.bookOutstanding_line h_id _
  have moves : HubMoves n n' c (A.node, c.line) (A.door c.door, c.line) := by
    refine ⟨rfl, ?_, Command.cmdidOf_line h_id, Command.cmdidOf_line h_id, fun i => ?_,
      fun k h_k => ?_, rfl, rfl, rfl, rfl⟩
    · show packetsOf _ + n.fromHub = _
      rw [h_packets, Multiset.singleton_add]
    · -- the entry that is written, or another one
      by_cases h_i : i = slot
      · rw [h_i, h_slot]
        exact Or.inr ⟨Or.inl h_free, Or.inr rfl⟩
      · exact Or.inl (h_other i h_i)
    · rw [h_outstanding, Finset.mem_insert]
      exact or_iff_right h_k
  have h_new : InStage A n' c .forwarded := by
    refine ⟨trivial, ?_, ?_, fun _ => ?_, fun h_not => absurd trivial h_not, ?_, fun _ => ?_,
      fun h_level => absurd h_level (by decide), h.emitted⟩
    · rw [moves.toHub]
      exact about_erase_of_key h.toHub moves.key
    · rw [moves.fromHub]
      exact about_cons_eq_singleton h.fromHub moves.key'
    · refine ⟨slot, ?_, by rw [h_slot], fun j h_j => ?_⟩
      · unfold Matches
        rw [h_slot]
        exact ⟨rfl, snprintf_of_fits c.door.isText_name.2⟩
      · -- no other entry has the number
        by_contra h_ne
        rw [h_other j h_ne] at h_j
        exact h.noEntry (fun h_at => h_at) j h_j
    · rw [h_outstanding]
      exact iff_of_true (Finset.mem_insert_self _ _) trivial
    · exact h.waits (by decide)
  have h_ready : HubReady A n'.hub := inv.ready.step (Command.honest_line h_id _ _ _)
  exact ⟨inv.advanceStage (moves.accounted inv h_c h_ready) h_c (fun k => moves.sameFor) h h_new
    (show 0 ≤ 1 by decide), h_new⟩

/-- **The hub takes the answer.** -/
theorem InStage.answer {n : Net σ} (inv : NetInv A n) {c : Command σ} (h_c : c ∈ n.issued)
    {w : CStr} (h : InStage A n c (.answered w)) (t tReg : ℤ) :
    (NetInv A (stepNet A n (.hubRecv (A.door c.door, c.answer w) t tReg)) ∧
        LevelsKept A n (stepNet A n (.hubRecv (A.door c.door, c.answer w) t tReg))) ∧
      InStage A (stepNet A n (.hubRecv (A.door c.door, c.answer w) t tReg)) c (.relayed w) := by
  obtain ⟨h_pos, -, h_id⟩ := inv.ids c h_c
  have h_plain : PlainWord w := plainWord_answer h.known
  obtain ⟨⟨i, h_i, h_only, h_pend⟩, h_packets⟩ :=
    hub_answer inv.ready h_id h_plain (h.entry trivial) (A.door c.door) t tReg
  let n' := stepNet A n (.hubRecv (A.door c.door, c.answer w) t tReg)
  show (NetInv A n' ∧ LevelsKept A n n') ∧ InStage A n' c (.relayed w)
  -- the entry of the command is free again
  have h_slot : (n'.hub.gPendingCmds i).cmdid = 0 := by
    show ((Hub.step n.hub _).gPendingCmds i).cmdid = 0
    rw [h_pend, Function.update_self]
  have h_other : ∀ j, j ≠ i → n'.hub.gPendingCmds j = n.hub.gPendingCmds j := by
    intro j h_j
    show (Hub.step n.hub _).gPendingCmds j = _
    rw [h_pend]
    exact Function.update_of_ne h_j _ _
  have h_outstanding : n'.outstanding = n.outstanding.erase (c.cmdid : ℤ) :=
    Command.bookOutstanding_answer h_id h_plain _
  have moves : HubMoves n n' c (A.door c.door, c.answer w) (A.node, c.answer w) := by
    refine ⟨rfl, ?_, Command.cmdidOf_answer h_id h_plain, Command.cmdidOf_answer h_id h_plain,
      fun j => ?_, fun k h_k => ?_, rfl, rfl, rfl, rfl⟩
    · show packetsOf _ + n.fromHub = _
      rw [h_packets, Multiset.singleton_add]
    · by_cases h_j : j = i
      · rw [h_j]
        exact Or.inr ⟨Or.inr h_i, Or.inl h_slot⟩
      · exact Or.inl (h_other j h_j)
    · rw [h_outstanding, Finset.mem_erase]
      exact and_iff_right h_k
  have h_new : InStage A n' c (.relayed w) := by
    refine ⟨h.known, ?_, ?_, fun h_at => absurd h_at (fun h_at => h_at), fun _ j h_j => ?_, ?_,
      fun _ => h.waits (show 2 < 4 by decide),
      fun h_level => absurd h_level (show ¬ 4 ≤ 3 by decide), h.emitted⟩
    · rw [moves.toHub]
      exact about_erase_of_key h.toHub moves.key
    · rw [moves.fromHub]
      exact about_cons_eq_singleton h.fromHub moves.key'
    · -- the entry was the only one of its number
      by_cases h_ji : j = i
      · rw [h_ji, h_slot] at h_j
        omega
      · rw [h_other j h_ji] at h_j
        exact h_ji (h_only j h_j)
    · rw [h_outstanding]
      exact iff_of_false (Finset.notMem_erase _ _) (fun h_at => h_at)
  have h_ready : HubReady A n'.hub := inv.ready.step (Command.honest_answer h_id h_plain _ _)
  exact ⟨inv.advanceStage (moves.accounted inv h_c h_ready) h_c (fun k => moves.sameFor) h h_new
    (show 2 ≤ 3 by decide), h_new⟩

/-- **The door takes the command** and answers. -/
theorem InStage.door {n : Net σ} (inv : NetInv A n) {c : Command σ} (h_c : c ∈ n.issued)
    (h : InStage A n c .forwarded) (env : CallEnv) :
    (NetInv A (stepNet A n (.doorRecv c.door c.line env)) ∧
        LevelsKept A n (stepNet A n (.doorRecv c.door c.line env))) ∧
      ∃ w, InStage A (stepNet A n (.doorRecv c.door c.line env)) c (.answered w) := by
  obtain ⟨-, -, h_id⟩ := inv.ids c h_c
  obtain ⟨w, h_w, lines, h_lines, h_quiet, h_listening⟩ :=
    (inv.doors c.door).doorCmdDatagram h_id env
  have h_plain : PlainWord w := plainWord_answer h_w
  have h_key : Packet.cmdid (A.door c.door, c.line) = some (c.cmdid : ℤ) :=
    Command.cmdidOf_line h_id
  have h_key' : Packet.cmdid (A.door c.door, c.answer w) = some (c.cmdid : ℤ) :=
    Command.cmdidOf_answer h_id h_plain
  let n' := stepNet A n (.doorRecv c.door c.line env)
  show (NetInv A n' ∧ LevelsKept A n n') ∧ ∃ w, InStage A n' c (.answered w)
  -- the answer goes out after the reports
  let reports : Multiset Packet := ↑(lines.map (fun line => (A.door c.door, line)))
  have h_reports : ∀ p ∈ reports, QuietPacket A p := fun p => quietPacket_of_mem h_quiet
  have h_toHub : n'.toHub = (A.door c.door, c.answer w) ::ₘ (reports + n.toHub) := by
    show ((sentLines (Door.doorCmdDatagram c.line env _).2).map
      (fun line => (A.door c.door, line)) : Multiset Packet) + n.toHub = _
    rw [h_lines, List.map_append, ← Multiset.coe_add, add_assoc, ← Multiset.add_cons]
    rfl
  have h_fromHub : n'.fromHub = n.fromHub.erase (A.door c.door, c.line) := rfl
  -- the reports are about no command
  have h_about : ∀ k : ℕ, aboutCmd k (reports + n.toHub) = aboutCmd k n.toHub := by
    intro k
    have h_none : about Packet.cmdid (k : ℤ) reports = 0 := about_quiet h_reports k
    rw [aboutCmd, about_add, h_none, zero_add]
  have h_new : InStage A n' c (.answered w) := by
    refine ⟨h_w, ?_, ?_, fun _ => h.entry trivial, fun h_not => absurd trivial h_not,
      h.outstanding, fun _ => h.waits (show 1 < 4 by decide),
      fun h_level => absurd h_level (show ¬ 4 ≤ 2 by decide), h.emitted⟩
    · rw [h_toHub]
      exact about_cons_eq_singleton ((h_about c.cmdid).trans h.toHub) h_key'
    · rw [h_fromHub]
      exact about_erase_of_key h.fromHub h_key
  -- to the other commands the door has only sent reports
  have h_same : ∀ k, k ≠ c.cmdid → 0 < k → SameFor k n n' := by
    intro k h_ne _
    refine ⟨?_, ?_, fun _ => Or.inl rfl, Iff.rfl, rfl, rfl, rfl, rfl⟩
    · rw [h_toHub]
      exact (about_cons_of_ne (Packet.cmdid_ne h_key' h_ne)).trans (h_about k)
    · rw [h_fromHub]
      exact about_erase_of_ne (Packet.cmdid_ne h_key h_ne)
  have acc : Accounted A n n' := by
    refine ⟨rfl, rfl, ?_, ?_, inv.table, inv.ready, ?_⟩
    · intro p h_p
      rw [h_toHub, Multiset.mem_cons, Multiset.mem_add] at h_p
      rcases h_p with rfl | h_p | h_p
      · exact Or.inr ⟨c, h_c, h_key'⟩
      · exact Or.inl (h_reports p h_p)
      · exact inv.toHub p h_p
    · intro p h_p
      rw [h_fromHub] at h_p
      exact inv.fromHub p (Multiset.mem_of_mem_erase h_p)
    · intro d
      show Listening _ (Function.update n.doors c.door _ d).module
      by_cases h_d : d = c.door
      · rw [h_d, Function.update_self]
        exact h_listening
      · rw [Function.update_of_ne h_d]
        exact inv.doors d
  exact ⟨inv.advanceStage acc h_c h_same h h_new (show 1 ≤ 2 by decide), w, h_new⟩

/-- The bridge emits the answer of a command that it waits for. -/
theorem stepNet_answer {n : Net σ} {c : Command σ} (h_id : c.cmdid < 2 ^ 31) {w : CStr}
    (h_w : PlainWord w) (h_pending : n.bridge.pending c.cmdid = some c.socket) :
    stepNet A n (.nodeRecv (c.answer w)) = { n with
      bridge := { n.bridge with
        timers := Function.update n.bridge.timers c.cmdid none
        pending := Function.update n.bridge.pending c.cmdid none }
      fromHub := n.fromHub.erase (A.node, c.answer w)
      emitted := n.emitted ++
        [(c.socket, .commandFeedback c.door.name c.cmdid "D0".toList w)] } := by
  have h_message := feedbackMessage_feedbackLine (h_id.trans (by decide)) c.door.plainWord_name.2.1
    (show IsToken Js.isWhite "D0".toList by decide) h_w.2.1 h_pending
  -- the bridge reads the answer as the door has printed it
  rw [← Command.answer_eq h_id h_w] at h_message
  unfold stepNet
  dsimp only
  rw [h_message]
  rfl

theorem answersTo_append (k : ℕ) (xs ys : List (σ × NodeEvent)) :
    answersTo k (xs ++ ys) = answersTo k xs ++ answersTo k ys := List.filter_append _ _

/-- An answer counts for its own command only. -/
theorem answersTo_singleton (k k' : ℕ) (socket : σ) (mod target action : CStr) :
    answersTo k [(socket, .commandFeedback mod k' target action)]
      = if k' = k then [(socket, .commandFeedback mod k' target action)] else [] := by
  unfold answersTo
  rw [List.filter_singleton]
  simp [eventCmdid]

/-- **The bridge takes the answer** and emits it. -/
theorem InStage.node {n : Net σ} (inv : NetInv A n) {c : Command σ} (h_c : c ∈ n.issued)
    {w : CStr} (h : InStage A n c (.relayed w)) (h_sent : n.bridge.sending c.cmdid = none) :
    (NetInv A (stepNet A n (.nodeRecv (c.answer w))) ∧
        LevelsKept A n (stepNet A n (.nodeRecv (c.answer w)))) ∧
      InStage A (stepNet A n (.nodeRecv (c.answer w))) c (.done w) := by
  obtain ⟨-, -, h_id⟩ := inv.ids c h_c
  have h_plain : PlainWord w := plainWord_answer h.known
  have h_key : Packet.cmdid (A.node, c.answer w) = some (c.cmdid : ℤ) :=
    Command.cmdidOf_answer h_id h_plain
  -- the callback has run, so the bridge waits
  have h_pending : n.bridge.pending c.cmdid = some c.socket := by
    rcases h.waits (show 3 < 4 by decide) with ⟨h_sending, -, -⟩ | ⟨-, h_pending, -⟩
    · rw [h_sent] at h_sending
      exact absurd h_sending (by simp)
    · exact h_pending
  rw [stepNet_answer h_id h_plain h_pending]
  have h_new : InStage A { n with
      bridge := { n.bridge with
        timers := Function.update n.bridge.timers c.cmdid none
        pending := Function.update n.bridge.pending c.cmdid none }
      fromHub := n.fromHub.erase (A.node, c.answer w)
      emitted := n.emitted ++
        [(c.socket, .commandFeedback c.door.name c.cmdid "D0".toList w)] } c (.done w) := by
    refine ⟨h.known, h.toHub, about_erase_of_key h.fromHub h_key,
      fun h_at => absurd h_at (fun h_at => h_at), h.noEntry, h.outstanding,
      fun h_level => absurd h_level (show ¬ 4 < 4 by decide), fun _ => ?_, ?_⟩
    · exact ⟨h_sent, Function.update_self .., Function.update_self ..⟩
    · -- nothing has been emitted for the command so far
      have h_old : answersTo c.cmdid n.emitted = [] := h.emitted
      rw [answersTo_append, h_old, answersTo_singleton, if_pos rfl]
      rfl
  refine ⟨inv.advanceStage ⟨rfl, rfl, inv.toHub, fun p h_p => ?_, inv.table, inv.ready, inv.doors⟩
    h_c (fun k h_ne _ => ?_) h h_new (show 3 ≤ 4 by decide), h_new⟩
  · exact inv.fromHub p (Multiset.mem_of_mem_erase h_p)
  · -- the other commands
    refine ⟨rfl, about_erase_of_ne (Packet.cmdid_ne h_key h_ne), fun _ => Or.inl rfl, Iff.rfl, rfl,
      Function.update_of_ne h_ne _ _, Function.update_of_ne h_ne _ _, ?_⟩
    rw [answersTo_append, answersTo_singleton, if_neg h_ne.symm, List.append_nil]

/-! ### Events about no command -/

/-- A hub event that is neither a COMMAND nor a FEEDBACK. Where it is a datagram, `toHub` is what is
left in flight. -/
theorem NetInv.atHub {n : Net σ} (inv : NetInv A n) {e : HubEv} (h_c : commandOf e.words = none)
    (h_f : feedbackOf e.words = none) (h_e : Honest A e) {toHub : Multiset Packet}
    (h_sub : ∀ p ∈ toHub, p ∈ n.toHub) (h_about : ∀ k : ℕ, aboutCmd k toHub = aboutCmd k n.toHub) :
    NetInv A ({ n with toHub := toHub }.atHub e) ∧
      LevelsKept A n ({ n with toHub := toHub }.atHub e) := by
  obtain ⟨h_pend, h_packets⟩ := hub_quiet h_c h_f n.hub
  let n' := { n with toHub := toHub }.atHub e
  show NetInv A n' ∧ LevelsKept A n n'
  have h_fromHub : n'.fromHub = n.fromHub := by
    -- neither a command nor a feedback: nothing is sent, and the table stays
    show packetsOf _ + n.fromHub = _
    rw [h_packets, zero_add]
  have h_table : n'.hub.gPendingCmds = n.hub.gPendingCmds := h_pend
  have acc : Accounted A n n' := by
    refine ⟨rfl, rfl, fun p h_p => inv.toHub p (h_sub p h_p), ?_, ?_, inv.ready.step h_e, inv.doors⟩
    · rw [h_fromHub]
      exact inv.fromHub
    · rw [h_table]
      exact inv.table
  refine inv.advanceQuiet acc (fun k => ?_)
  refine ⟨h_about k, ?_, fun i => Or.inl ?_, Iff.rfl, rfl, rfl, rfl, rfl⟩
  · rw [h_fromHub]
  · rw [h_table]

/-- A quiet line arrives at the hub. -/
theorem NetInv.hubRecv {n : Net σ} (inv : NetInv A n) {p : Packet} (h_p : QuietPacket A p)
    (t tReg : ℤ) :
    NetInv A (stepNet A n (.hubRecv p t tReg)) ∧
      LevelsKept A n (stepNet A n (.hubRecv p t tReg)) := by
  obtain ⟨d, h_src, h_quiet⟩ := h_p
  obtain ⟨h_c, h_f⟩ := h_quiet.cmdWords
  have h_none : Packet.cmdid p = none := h_quiet.cmdidOf
  have h_book : bookOutstanding p.2 n.outstanding = n.outstanding := by
    unfold bookOutstanding
    dsimp only
    rw [h_c, h_f]
  -- the line names the door that it comes from
  have h_honest : Honest A (.datagram p.2 p.1 t tReg) := by
    intro mod type args h_words _
    obtain ⟨type', args', h_line, -, -⟩ := h_quiet
    exact ⟨d, (List.cons.inj (h_words.symm.trans h_line)).1, h_src⟩
  have h_hub := inv.atHub (e := .datagram p.2 p.1 t tReg) h_c h_f h_honest
    (fun q (h_q : q ∈ n.toHub.erase p) => Multiset.mem_of_mem_erase h_q)
    (fun k => about_erase_of_ne (by rw [h_none]; simp))
  have h_state : stepNet A n (.hubRecv p t tReg)
      = { n with toHub := n.toHub.erase p }.atHub (.datagram p.2 p.1 t tReg) := by
    unfold stepNet
    dsimp only
    rw [h_book]
  rw [h_state]
  exact h_hub

/-- The other threads of a door. -/
theorem NetInv.doorEv {n : Net σ} (inv : NetInv A n) (d : DoorId) (e : DoorEv) :
    NetInv A (stepNet A n (.doorEv d e)) ∧ LevelsKept A n (stepNet A n (.doorEv d e)) := by
  have h_reports := (inv.doors d).execEv d.isText_name.1 e
  let n' := stepNet A n (.doorEv d e)
  show NetInv A n' ∧ LevelsKept A n n'
  let reports : Multiset Packet :=
    ↑((sentLines (execEv (n.doors d) e).2).map (fun line => (A.door d, line)))
  have h_quiet : ∀ p ∈ reports, QuietPacket A p := fun p => quietPacket_of_mem h_reports.quiet
  have h_toHub : n'.toHub = reports + n.toHub := rfl
  have acc : Accounted A n n' := by
    refine ⟨rfl, rfl, fun p h_p => ?_, inv.fromHub, inv.table, inv.ready, fun d' => ?_⟩
    · rw [h_toHub, Multiset.mem_add] at h_p
      rcases h_p with h_p | h_p
      · exact Or.inl (h_quiet p h_p)
      · exact inv.toHub p h_p
    · show Listening _ (Function.update n.doors d _ d').module
      by_cases h_d : d' = d
      · rw [h_d, Function.update_self]
        exact h_reports.listening
      · rw [Function.update_of_ne h_d]
        exact inv.doors d'
  refine inv.advanceQuiet acc (fun k => ?_)
  refine ⟨?_, rfl, fun _ => Or.inl rfl, Iff.rfl, rfl, rfl, rfl, rfl⟩
  -- what the door sends is about no command
  have h_none : about Packet.cmdid (k : ℤ) reports = 0 := about_quiet h_quiet k
  rw [h_toHub, aboutCmd, about_add, h_none, zero_add]

theorem stepNet_sendDone_none {n : Net σ} {k : ℕ} (h_sending : n.bridge.sending k = none) :
    stepNet A n (.sendDone k none) = n := by
  have h_done : n.bridge.sendDone k none = (n.bridge, []) := by
    unfold Bridge.sendDone
    rw [h_sending]
  show n.atNode (n.bridge.sendDone k none).1 (n.bridge.sendDone k none).2 = n
  rw [h_done]
  unfold Net.atNode
  rw [List.append_nil]

theorem stepNet_sendDone_some {n : Net σ} {k : ℕ} {socket : σ}
    (h_sending : n.bridge.sending k = some socket) :
    stepNet A n (.sendDone k none) = { n with
      bridge := { n.bridge with
        sending := Function.update n.bridge.sending k none
        timers := Function.update n.bridge.timers k (some socket)
        pending := Function.update n.bridge.pending k (some socket) } } := by
  have h_done : n.bridge.sendDone k none = ({ n.bridge with
      sending := Function.update n.bridge.sending k none
      timers := Function.update n.bridge.timers k (some socket)
      pending := Function.update n.bridge.pending k (some socket) }, []) := by
    unfold Bridge.sendDone
    rw [h_sending]
  show n.atNode (n.bridge.sendDone k none).1 (n.bridge.sendDone k none).2 = _
  rw [h_done]
  unfold Net.atNode
  rw [List.append_nil]

/-- The callback of a datagram that went out: from now on the bridge waits. -/
theorem NetInv.sendDone {n : Net σ} (inv : NetInv A n) (k : ℕ) :
    NetInv A (stepNet A n (.sendDone k none)) ∧
      LevelsKept A n (stepNet A n (.sendDone k none)) := by
  cases h_sending : n.bridge.sending k with
  | none =>
    rw [stepNet_sendDone_none h_sending]
    exact ⟨inv, fun c h_c => ⟨h_c, fun st h_st => ⟨st, h_st, le_rfl⟩⟩⟩
  | some socket =>
    rw [stepNet_sendDone_some h_sending]
    -- a callback is owed only for a number that was taken
    have h_k : k < n.bridge.cmdCounter := by
      by_contra h_not
      rw [(inv.fresh k (Nat.le_of_not_lt h_not)).bridge.sending] at h_sending
      exact absurd h_sending (by simp)
    refine inv.advance ⟨rfl, rfl, inv.toHub, inv.fromHub, inv.table, inv.ready, inv.doors⟩ h_k
      (fun k' _ h_ne => ?_) ?_
    · exact ⟨rfl, rfl, fun _ => Or.inl rfl, Iff.rfl, Function.update_of_ne h_ne _ _,
        Function.update_of_ne h_ne _ _, Function.update_of_ne h_ne _ _, rfl⟩
    · -- the command stays in its stage, and the bridge waits in the other way
      rintro c h_c rfl
      obtain ⟨st, h_st⟩ := inv.staged c h_c
      refine ⟨st, st, h_st, ⟨h_st.known, h_st.toHub, h_st.fromHub, h_st.entry, h_st.noEntry,
        h_st.outstanding, fun h_level => ?_, fun h_level => ?_, h_st.emitted⟩, le_rfl⟩
      · -- the callback puts the socket from `sending` into `pending`
        rcases h_st.waits h_level with ⟨h_socket, -, -⟩ | ⟨h_no, -, -⟩
        · obtain rfl : socket = c.socket := Option.some.inj (h_sending.symm.trans h_socket)
          exact Or.inr ⟨Function.update_self .., Function.update_self .., Function.update_self ..⟩
        · rw [h_sending] at h_no
          exact absurd h_no (by simp)
      · rw [(h_st.served h_level).sending] at h_sending
        exact absurd h_sending (by simp)

/-- The state after a call of `sendCommand`. -/
theorem stepNet_issue (n : Net σ) (socket : σ) (d : DoorId) (a : KnownAction) :
    stepNet A n (.issue socket d a) = { n with
      bridge := { n.bridge with
        cmdCounter := n.bridge.cmdCounter + 1
        sending := Function.update n.bridge.sending n.bridge.cmdCounter (some socket) }
      toHub := (A.node, Command.line ⟨n.bridge.cmdCounter, socket, d, a⟩) ::ₘ n.toHub
      issued := n.issued ++ [⟨n.bridge.cmdCounter, socket, d, a⟩] } := by
  have h_call : n.bridge.sendCommand d.name "D0".toList a.text socket
      = ({ n.bridge with
          cmdCounter := n.bridge.cmdCounter + 1
          sending := Function.update n.bridge.sending n.bridge.cmdCounter (some socket) },
        Command.line ⟨n.bridge.cmdCounter, socket, d, a⟩) := by
    -- neither the module nor the target is empty
    have h_name : d.name ≠ [] := by
      cases d <;> decide
    unfold Bridge.sendCommand
    dsimp only
    rw [if_neg h_name, if_neg (by decide)]
    rfl
  unfold stepNet
  dsimp only
  rw [h_call]

/-- **A new command.** -/
theorem NetInv.issue {n : Net σ} (inv : NetInv A n) (h_id : n.bridge.cmdCounter < 2 ^ 31)
    (socket : σ) (d : DoorId) (a : KnownAction) :
    NetInv A (stepNet A n (.issue socket d a)) ∧
      LevelsKept A n (stepNet A n (.issue socket d a)) := by
  let c : Command σ := ⟨n.bridge.cmdCounter, socket, d, a⟩
  have h_key : Packet.cmdid (A.node, c.line) = some (c.cmdid : ℤ) := Command.cmdidOf_line h_id
  -- nothing is about the number yet
  have h_fresh := inv.fresh c.cmdid le_rfl
  rw [stepNet_issue]
  let n' : Net σ := { n with
    bridge := { n.bridge with
      cmdCounter := n.bridge.cmdCounter + 1
      sending := Function.update n.bridge.sending c.cmdid (some socket) }
    toHub := (A.node, c.line) ::ₘ n.toHub
    issued := n.issued ++ [c] }
  show NetInv A n' ∧ LevelsKept A n n'
  have h_same : ∀ k, k ≠ c.cmdid → SameFor k n n' := fun k h_k =>
    ⟨about_cons_of_ne (Packet.cmdid_ne h_key h_k), rfl, fun _ => Or.inl rfl, Iff.rfl,
      Function.update_of_ne h_k _ _, rfl, rfl, rfl⟩
  have h_old : ∀ c' ∈ n.issued, SameFor c'.cmdid n n' :=
    fun c' h_c' => h_same _ (inv.ids c' h_c').2.1.ne
  have h_new : InStage A n' c .sent := by
    refine ⟨trivial, about_cons_eq_singleton h_fresh.toHub h_key, h_fresh.fromHub,
      fun h_at => absurd h_at (fun h_at => h_at), fun _ => h_fresh.table,
      iff_of_false h_fresh.outstanding (fun h_at => h_at), fun _ => ?_,
      fun h_level => absurd h_level (by decide), h_fresh.emitted⟩
    exact Or.inl ⟨Function.update_self .., h_fresh.bridge.pending, h_fresh.bridge.timers⟩
  -- the commands are the old ones and the new one
  have h_cases : ∀ c' ∈ n'.issued, c' ∈ n.issued ∨ c' = c := by
    intro c' h_c'
    exact (List.mem_append.mp h_c').imp_right List.mem_singleton.mp
  have h_mem : ∀ c' ∈ n.issued, c' ∈ n'.issued := fun c' => List.mem_append_left _
  have h_mem_c : c ∈ n'.issued := List.mem_append_right _ (List.mem_singleton_self c)
  refine ⟨⟨Nat.succ_pos _, ?_, ?_, ?_, ?_, ?_, ?_, ?_, inv.ready, inv.doors⟩, ?_⟩
  · intro c' h_c'
    rcases h_cases c' h_c' with h_c' | rfl
    · obtain ⟨h_pos, h_lt, h_max⟩ := inv.ids c' h_c'
      exact ⟨h_pos, h_lt.trans (Nat.lt_succ_self _), h_max⟩
    · exact ⟨inv.started, Nat.lt_succ_self _, h_id⟩
  · -- the old numbers are smaller than the new one
    intro c₁ h_c₁ c₂ h_c₂ h_eq
    rcases h_cases c₁ h_c₁ with h_c₁ | rfl <;> rcases h_cases c₂ h_c₂ with h_c₂ | rfl
    · exact inv.distinct c₁ h_c₁ c₂ h_c₂ h_eq
    · exact absurd h_eq (inv.ids c₁ h_c₁).2.1.ne
    · exact absurd h_eq.symm (inv.ids c₂ h_c₂).2.1.ne
    · rfl
  · intro k h_k
    have h_lt : n.bridge.cmdCounter < k := h_k
    exact (inv.fresh k h_lt.le).frame (h_same k h_lt.ne')
  · intro c' h_c'
    rcases h_cases c' h_c' with h_c' | rfl
    · obtain ⟨st, h_st⟩ := inv.staged c' h_c'
      exact ⟨st, h_st.frame (h_old c' h_c')⟩
    · exact ⟨.sent, h_new⟩
  · intro p h_p
    rcases Multiset.mem_cons.mp h_p with rfl | h_p
    · exact Or.inr ⟨c, h_mem_c, h_key⟩
    · rcases inv.toHub p h_p with h_quiet | ⟨c', h_c', h_eq⟩
      · exact Or.inl h_quiet
      · exact Or.inr ⟨c', h_mem c' h_c', h_eq⟩
  · intro p h_p
    obtain ⟨c', h_c', h_eq⟩ := inv.fromHub p h_p
    exact ⟨c', h_mem c' h_c', h_eq⟩
  · intro i h_i
    obtain ⟨c', h_c', h_eq⟩ := inv.table i h_i
    exact ⟨c', h_mem c' h_c', h_eq⟩
  · exact fun c' h_c' => ⟨h_mem c' h_c', fun st h_st => ⟨st, h_st.frame (h_old c' h_c'), le_rfl⟩⟩

/-! ### Steps -/

/-- The event delivers the datagram `p` to the hub. -/
def NetEv.HubTakes (p : Packet) : NetEv σ → Prop
  | .hubRecv q _ _ => q = p
  | _ => False

/-- The event delivers the datagram `p` of the hub. -/
def NetEv.PartyTakes (A : Addresses) (p : Packet) : NetEv σ → Prop
  | .doorRecv d line _ => (A.door d, line) = p
  | .nodeRecv line => (A.node, line) = p
  | _ => False

/-- Only what is in flight is delivered. -/
structure Possible (A : Addresses) (n : Net σ) (e : NetEv σ) : Prop where
  toHub : ∀ p, e.HubTakes p → p ∈ n.toHub
  fromHub : ∀ p, e.PartyTakes A p → p ∈ n.fromHub

/-- The assumptions: every datagram of the bridge goes out, and its callback runs before the answer
comes; no timer runs out; there are fewer than 2^31 commands, and never more than 128 outstanding at
the hub. -/
def Assumed (n : Net σ) : NetEv σ → Prop
  | .issue _ _ _ => n.bridge.cmdCounter < 2 ^ 31
  | .sendDone _ error => error = none
  | .timeout _ => False
  | .hubRecv p _ _ => (bookOutstanding p.2 n.outstanding).card ≤ HUB_MAX_PENDING_CMDS
  | .nodeRecv line => ∀ k : ℕ, cmdidOf line = some (k : ℤ) → n.bridge.sending k = none
  | _ => True

/-- The hub takes a datagram about a command. -/
theorem NetInv.hubTakes {n : Net σ} (inv : NetInv A n) {c : Command σ} (h_c : c ∈ n.issued)
    {st : Stage} (h_st : InStage A n c st) {p : Packet} (h_p : p ∈ n.toHub)
    (h_key : Packet.cmdid p = some (c.cmdid : ℤ)) {e : NetEv σ} (h_e : e.HubTakes p)
    (h_assumed : Assumed n e) :
    (NetInv A (stepNet A n e) ∧ LevelsKept A n (stepNet A n e)) ∧
      ∃ st', InStage A (stepNet A n e) c st' ∧ st.level < st'.level := by
  cases e with
  | hubRecv q t tReg =>
    obtain rfl : q = p := h_e
    -- a datagram about the command is on the way, which leaves two stages
    have h_nothing : st.toHub A c ≠ 0 := by
      intro h_zero
      have h_mem : q ∈ aboutCmd c.cmdid n.toHub := mem_about.mpr ⟨h_p, h_key⟩
      rw [h_st.toHub, h_zero] at h_mem
      exact absurd h_mem (Multiset.notMem_zero q)
    cases st with
    | sent =>
      obtain rfl := eq_of_about_eq_singleton h_st.toHub h_p h_key
      obtain ⟨h_kept, h_next⟩ := InStage.command inv h_c h_st t tReg h_assumed
      exact ⟨h_kept, _, h_next, show 0 < 1 by decide⟩
    | answered w =>
      obtain rfl := eq_of_about_eq_singleton h_st.toHub h_p h_key
      obtain ⟨h_kept, h_next⟩ := InStage.answer inv h_c h_st t tReg
      exact ⟨h_kept, _, h_next, show 2 < 3 by decide⟩
    | forwarded => exact absurd rfl h_nothing
    | relayed w => exact absurd rfl h_nothing
    | done w => exact absurd rfl h_nothing
  | _ => exact absurd h_e (fun h => h)

/-- A door or the bridge takes a datagram of the hub. -/
theorem NetInv.partyTakes {n : Net σ} (inv : NetInv A n) {c : Command σ} (h_c : c ∈ n.issued)
    {st : Stage} (h_st : InStage A n c st) {p : Packet} (h_p : p ∈ n.fromHub)
    (h_key : Packet.cmdid p = some (c.cmdid : ℤ)) {e : NetEv σ} (h_e : e.PartyTakes A p)
    (h_assumed : Assumed n e) :
    (NetInv A (stepNet A n e) ∧ LevelsKept A n (stepNet A n e)) ∧
      ∃ st', InStage A (stepNet A n e) c st' ∧ st.level < st'.level := by
  -- the datagram is the one of the stage, and its address says who takes it
  have h_mem : p ∈ aboutCmd c.cmdid n.fromHub := mem_about.mpr ⟨h_p, h_key⟩
  rw [h_st.fromHub] at h_mem
  cases st with
  | forwarded =>
    obtain rfl := Multiset.mem_singleton.mp h_mem
    cases e with
    | doorRecv d line env =>
      obtain ⟨h_addr, h_line⟩ := Prod.mk.inj h_e
      -- the address is that of the door itself
      obtain rfl := A.door_injective h_addr
      subst h_line
      obtain ⟨h_kept, w, h_next⟩ := InStage.door inv h_c h_st env
      exact ⟨h_kept, _, h_next, show 1 < 2 by decide⟩
    | nodeRecv line => exact absurd (Prod.mk.inj h_e).1.symm (A.door_ne_node c.door)
    | _ => exact absurd h_e (fun h => h)
  | relayed w =>
    obtain rfl := Multiset.mem_singleton.mp h_mem
    cases e with
    | doorRecv d line env => exact absurd (Prod.mk.inj h_e).1 (A.door_ne_node d)
    | nodeRecv line =>
      obtain rfl := (Prod.mk.inj h_e).2
      obtain ⟨h_kept, h_next⟩ := InStage.node inv h_c h_st (h_assumed c.cmdid h_key)
      exact ⟨h_kept, _, h_next, show 3 < 4 by decide⟩
    | _ => exact absurd h_e (fun h => h)
  | sent => exact absurd h_mem (Multiset.notMem_zero p)
  | answered w => exact absurd h_mem (Multiset.notMem_zero p)
  | done w => exact absurd h_mem (Multiset.notMem_zero p)

/-- **Step.** -/
theorem NetInv.step {n : Net σ} (inv : NetInv A n) {e : NetEv σ} (h_e : Possible A n e)
    (h_assumed : Assumed n e) :
    NetInv A (stepNet A n e) ∧ LevelsKept A n (stepNet A n e) := by
  -- what comes from the hub is about some command
  have h_party : ∀ p, e.PartyTakes A p →
      NetInv A (stepNet A n e) ∧ LevelsKept A n (stepNet A n e) := by
    intro p h_p
    have h_mem := h_e.fromHub p h_p
    obtain ⟨c, h_c, h_key⟩ := inv.fromHub p h_mem
    obtain ⟨st, h_st⟩ := inv.staged c h_c
    exact (inv.partyTakes h_c h_st h_mem h_key h_p h_assumed).1
  cases e with
  | issue socket d a => exact inv.issue h_assumed socket d a
  | sendDone cmdid error =>
    obtain rfl : error = none := h_assumed
    exact inv.sendDone cmdid
  | timeout cmdid => exact absurd h_assumed (fun h => h)
  | hubRecv p t tReg =>
    have h_mem := h_e.toHub p rfl
    -- a quiet line, or a datagram about a command
    rcases inv.toHub p h_mem with h_quiet | ⟨c, h_c, h_key⟩
    · exact inv.hubRecv h_quiet t tReg
    · obtain ⟨st, h_st⟩ := inv.staged c h_c
      exact (inv.hubTakes (e := .hubRecv p t tReg) h_c h_st h_mem h_key rfl h_assumed).1
  | check now =>
    -- a check has no words
    have h_honest : Honest A (.check now) :=
      fun mod type args h_words _ => absurd h_words (by simp [HubEv.words])
    exact inv.atHub (e := .check now) rfl rfl h_honest (fun p h_p => h_p) (fun k => rfl)
  | doorRecv d line env => exact h_party _ rfl
  | doorEv d e => exact inv.doorEv d e
  | nodeRecv line => exact h_party _ rfl

end System

end DoorSystem
