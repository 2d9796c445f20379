import DoorSystem.System.Delivery

/-!
# Every web command is executed once

A door runs its handler for each COMMAND datagram that it gets, and keeps no record of the numbers.
That a web command is nevertheless carried out once is a property of the whole path: in a
`DeliveryRun` its line reaches the door once, between the call and the answer, and the answer is the
word of that execution (`commands_executed`). In particular a STATUS answer is what the door found
at a moment between the question and the answer.

What is in flight about a command, and what has been emitted, tells its stage (`InStage.unique`). An
event that takes no datagram about the command changes none of this (`NetInv.sameTraffic`), so its
stage, with the word of the answer, moves in four events only.
-/

namespace DoorSystem

open CLib

namespace System

open Door Hub Node

variable {σ : Type*} {A : Addresses}

/-! ### What tells the stage -/

/-- The traffic about the command `k` is the same. -/
structure SameTraffic (k : ℕ) (n n' : Net σ) : Prop where
  toHub : aboutCmd k n'.toHub = aboutCmd k n.toHub
  fromHub : aboutCmd k n'.fromHub = aboutCmd k n.fromHub
  emitted : answersTo k n'.emitted = answersTo k n.emitted

/-- The word can be read from the answer. -/
theorem Command.answer_inj {c : Command σ} (h_id : c.cmdid < 2 ^ 31) {w w' : CStr}
    (h_w : PlainWord w) (h_w' : PlainWord w') (h : c.answer w = c.answer w') : w = w' := by
  have h_words := Command.feedbackOf_answer h_id h_w
  rw [h, Command.feedbackOf_answer h_id h_w'] at h_words
  exact (congrArg CmdWords.action (Option.some.inj h_words)).symm

theorem Stage.word_eq {c : Command σ} (h_id : c.cmdid < 2 ^ 31) {w w' : CStr}
    (h_w : w ∈ answerWords) (h_w' : w' ∈ answerWords) {src src' : SockAddr}
    (h : ({(src, c.answer w)} : Multiset Packet) = {(src', c.answer w')}) : w = w' :=
  Command.answer_inj h_id (plainWord_answer h_w) (plainWord_answer h_w')
    (Prod.mk.inj (Multiset.singleton_inj.mp h)).2

/-- **The stage** is told by what is in flight and by what has been emitted. -/
theorem Stage.eq_of_traffic {c : Command σ} (h_id : c.cmdid < 2 ^ 31) {st st' : Stage}
    (h : st.Known) (h' : st'.Known) (h_to : st.toHub A c = st'.toHub A c)
    (h_from : st.fromHub A c = st'.fromHub A c) (h_emitted : st.emitted c = st'.emitted c) :
    st = st' := by
  have h_some : ∀ p : Packet, ({p} : Multiset Packet) ≠ 0 := Multiset.singleton_ne_zero
  cases st with
  | sent =>
    cases st' with
    | sent => rfl
    | answered w =>
      exact absurd (Prod.mk.inj (Multiset.singleton_inj.mp h_to)).1.symm (A.door_ne_node c.door)
    | _ => exact absurd h_to (h_some _)
  | forwarded =>
    cases st' with
    | forwarded => rfl
    | relayed w =>
      exact absurd (Prod.mk.inj (Multiset.singleton_inj.mp h_from)).1 (A.door_ne_node c.door)
    | _ => exact absurd h_from (h_some _)
  | answered w =>
    cases st' with
    | answered w' => rw [Stage.word_eq h_id h h' h_to]
    | sent =>
      exact absurd (Prod.mk.inj (Multiset.singleton_inj.mp h_to)).1 (A.door_ne_node c.door)
    | _ => exact absurd h_to (h_some _)
  | relayed w =>
    cases st' with
    | relayed w' => rw [Stage.word_eq h_id h h' h_from]
    | forwarded =>
      exact absurd (Prod.mk.inj (Multiset.singleton_inj.mp h_from)).1.symm (A.door_ne_node c.door)
    | _ => exact absurd h_from (h_some _)
  | done w =>
    cases st' with
    | done w' =>
      -- the word has been emitted
      have h_event := (Prod.mk.inj (List.singleton_inj.mp h_emitted)).2
      rw [(NodeEvent.commandFeedback.inj h_event).2.2.2]
    | _ => exact absurd h_emitted (List.cons_ne_nil _ _)

theorem InStage.eq_of_traffic {n n' : Net σ} {c : Command σ} (h_id : c.cmdid < 2 ^ 31)
    {st st' : Stage} (h : InStage A n c st) (h' : InStage A n' c st')
    (h_same : SameTraffic c.cmdid n n') : st' = st := by
  refine Stage.eq_of_traffic (A := A) h_id h'.known h.known ?_ ?_ ?_
  · rw [← h'.toHub, ← h.toHub, h_same.toHub]
  · rw [← h'.fromHub, ← h.fromHub, h_same.fromHub]
  · rw [← h'.emitted, ← h.emitted, h_same.emitted]

/-- A command is in one stage, with one word. -/
theorem InStage.unique {n : Net σ} {c : Command σ} (h_id : c.cmdid < 2 ^ 31) {st st' : Stage}
    (h : InStage A n c st) (h' : InStage A n c st') : st' = st :=
  h.eq_of_traffic h_id h' ⟨rfl, rfl, rfl⟩

/-! ### Events about other commands -/

/-- The event delivers a datagram about the command `k`. -/
def NetEv.Takes (A : Addresses) (k : ℕ) (e : NetEv σ) : Prop :=
  ∃ p : Packet, (e.HubTakes p ∨ e.PartyTakes A p) ∧ p.cmdid = some (k : ℤ)

/-- The hub sends nothing about a command unless it takes a datagram about it. -/
theorem NetInv.packetsOf_hubRecv {n : Net σ} (inv : NetInv A n) {p : Packet} (h_p : p ∈ n.toHub)
    {k : ℕ} (h_key : p.cmdid ≠ some (k : ℤ)) (t tReg : ℤ) :
    aboutCmd k (packetsOf (exec n.hub (.datagram p.2 p.1 t tReg)).2) = 0 := by
  rcases inv.toHub p h_p with ⟨d, -, h_quiet⟩ | ⟨c, h_c, h_c_key⟩
  · obtain ⟨h_command, h_feedback⟩ := h_quiet.cmdWords
    rw [(hub_quiet (e := .datagram p.2 p.1 t tReg) h_command h_feedback n.hub).2]
    rfl
  · -- what it sends is about the same command
    obtain ⟨-, -, h_id⟩ := inv.ids c h_c
    obtain ⟨st, h_st⟩ := inv.staged c h_c
    have h_one : ∀ q : Packet, q.cmdid = some (c.cmdid : ℤ) → aboutCmd k {q} = 0 := by
      intro q h_q
      refine about_eq_zero fun q' h_q' => ?_
      rw [Multiset.mem_singleton.mp h_q', h_q, ← h_c_key]
      exact h_key
    have h_about : aboutCmd c.cmdid n.toHub = st.toHub A c := h_st.toHub
    have h_mem : p ∈ aboutCmd c.cmdid n.toHub := mem_about.mpr ⟨h_p, h_c_key⟩
    rw [h_about] at h_mem
    cases st with
    | sent =>
      obtain rfl := Multiset.mem_singleton.mp h_mem
      rw [(hub_command inv.ready h_id t tReg).2]
      exact h_one _ (Command.cmdidOf_line h_id)
    | answered w =>
      obtain rfl := Multiset.mem_singleton.mp h_mem
      have h_plain : PlainWord w := plainWord_answer h_st.known
      rw [(hub_answer inv.ready h_id h_plain (h_st.entry trivial) _ t tReg).2]
      exact h_one _ (Command.cmdidOf_answer h_id h_plain)
    | forwarded => exact absurd h_mem (Multiset.notMem_zero p)
    | relayed w => exact absurd h_mem (Multiset.notMem_zero p)
    | done w => exact absurd h_mem (Multiset.notMem_zero p)

/-- What a party takes is the line of a command for the door, or an answer for the bridge. -/
theorem NetInv.party_cases {n : Net σ} (inv : NetInv A n) {p : Packet} (h_p : p ∈ n.fromHub) :
    ∃ c ∈ n.issued, (InStage A n c .forwarded ∧ p = (A.door c.door, c.line)) ∨
      ∃ w, InStage A n c (.relayed w) ∧ p = (A.node, c.answer w) := by
  obtain ⟨c, h_c, h_key⟩ := inv.fromHub p h_p
  obtain ⟨st, h_st⟩ := inv.staged c h_c
  have h_mem : p ∈ aboutCmd c.cmdid n.fromHub := mem_about.mpr ⟨h_p, h_key⟩
  rw [h_st.fromHub] at h_mem
  refine ⟨c, h_c, ?_⟩
  cases st with
  | forwarded => exact Or.inl ⟨h_st, Multiset.mem_singleton.mp h_mem⟩
  | relayed w => exact Or.inr ⟨w, h_st, Multiset.mem_singleton.mp h_mem⟩
  | sent => exact absurd h_mem (Multiset.notMem_zero p)
  | answered w => exact absurd h_mem (Multiset.notMem_zero p)
  | done w => exact absurd h_mem (Multiset.notMem_zero p)

/-- A door takes only commands for itself. -/
theorem NetInv.doorRecv_cases {n : Net σ} (inv : NetInv A n) {d : DoorId} {line : CStr}
    (h_p : (A.door d, line) ∈ n.fromHub) :
    ∃ c ∈ n.issued, InStage A n c .forwarded ∧ d = c.door ∧ line = c.line := by
  obtain ⟨c, h_c, ⟨h_st, h_eq⟩ | ⟨w, -, h_eq⟩⟩ := inv.party_cases h_p
  · obtain ⟨h_addr, h_line⟩ := Prod.mk.inj h_eq
    exact ⟨c, h_c, h_st, A.door_injective h_addr, h_line⟩
  · exact absurd (Prod.mk.inj h_eq).1 (A.door_ne_node d)

/-- The bridge takes only answers that it waits for. -/
theorem NetInv.nodeRecv_cases {n : Net σ} (inv : NetInv A n) {line : CStr}
    (h_p : (A.node, line) ∈ n.fromHub) :
    ∃ c ∈ n.issued, ∃ w, InStage A n c (.relayed w) ∧ line = c.answer w := by
  obtain ⟨c, h_c, ⟨-, h_eq⟩ | ⟨w, h_st, h_eq⟩⟩ := inv.party_cases h_p
  · exact absurd (Prod.mk.inj h_eq).1.symm (A.door_ne_node c.door)
  · exact ⟨c, h_c, w, h_st, (Prod.mk.inj h_eq).2⟩

theorem NetInv.sameTraffic_issue {n : Net σ} (h_id : n.bridge.cmdCounter < 2 ^ 31)
    {k : ℕ} (h_k : k < n.bridge.cmdCounter) (socket : σ) (d : DoorId) (a : KnownAction) :
    SameTraffic k n (stepNet A n (.issue socket d a)) := by
  have h_key : Packet.cmdid (A.node, Command.line ⟨n.bridge.cmdCounter, socket, d, a⟩)
      = some (n.bridge.cmdCounter : ℤ) :=
    Command.cmdidOf_line (c := ⟨n.bridge.cmdCounter, socket, d, a⟩) h_id
  rw [stepNet_issue]
  exact ⟨about_cons_of_ne (Packet.cmdid_ne h_key h_k.ne), rfl, rfl⟩

theorem sameTraffic_sendDone (n : Net σ) (k k' : ℕ) :
    SameTraffic k n (stepNet A n (.sendDone k' none)) := by
  cases h_sending : n.bridge.sending k' with
  | none =>
    rw [stepNet_sendDone_none h_sending]
    exact ⟨rfl, rfl, rfl⟩
  | some socket =>
    rw [stepNet_sendDone_some h_sending]
    exact ⟨rfl, rfl, rfl⟩

/-- What a door sends besides an answer is about no command. -/
theorem about_reports {d : DoorId} {lines : List CStr}
    (h_quiet : ∀ line ∈ lines, QuietLine d.name line) (k : ℕ) (bag : Multiset Packet) :
    aboutCmd k (↑(lines.map (fun line => (A.door d, line))) + bag) = aboutCmd k bag := by
  rw [aboutCmd, about_add]
  have h_none : about Packet.cmdid (k : ℤ)
      (↑(lines.map (fun line => (A.door d, line))) : Multiset Packet) = 0 :=
    about_quiet (fun p => quietPacket_of_mem h_quiet) k
  rw [h_none, zero_add]

/-- What the door sends for a command: reports and the answer. -/
theorem NetInv.toHub_doorRecv {n : Net σ} (inv : NetInv A n) {c : Command σ}
    (h_id : c.cmdid < 2 ^ 31) (env : CallEnv) (k : ℕ) :
    aboutCmd k (stepNet A n (.doorRecv c.door c.line env)).toHub
      = aboutCmd k ((A.door c.door,
          c.answer (handlerOp c.action.text env (n.doors c.door).module).2) ::ₘ n.toHub) := by
  have h_listening := inv.doors c.door
  -- the door reads the line as its own command
  let door : ListeningDoor := ⟨(n.doors c.door).module, h_listening.sockOpen, h_listening.handler⟩
  have h_heard := doorCmdDatagram_heard (s := door) (Command.commandOf_line h_id)
    h_listening.id.symm env
  have h_reports := (h_listening.handlerOp c.door.isText_name.1 c.action env).2
  have h_sends : ∀ effects : List DoorEffect, ∀ o : DoorOut,
      sentLines (effects ++ [.send o]) = sentLines effects ++ [o.line] :=
    fun effects o => sentLines_append _ _
  have h_toHub : (stepNet A n (.doorRecv c.door c.line env)).toHub
      = ↑((sentLines (Door.handlerOp c.action.text env (n.doors c.door).module).1.effects).map
          (fun line => (A.door c.door, line))) +
        ((A.door c.door,
          c.answer (Door.handlerOp c.action.text env (n.doors c.door).module).2) ::ₘ n.toHub) := by
    show ((sentLines (Door.doorCmdDatagram c.line env door.module).2).map
      (fun line => (A.door c.door, line)) : Multiset Packet) + n.toHub = _
    rw [h_heard, h_sends, List.map_append, ← Multiset.coe_add, add_assoc]
    rfl
  -- what the operation reports carries no number
  rw [h_toHub]
  exact about_reports h_reports.quiet k _

/-- **An event about another command**, or about none, leaves the traffic as it is. -/
theorem NetInv.sameTraffic {n : Net σ} (inv : NetInv A n) {e : NetEv σ} (h_e : Possible A n e)
    (h_assumed : Assumed n e) {k : ℕ} (h_k : k < n.bridge.cmdCounter) (h_not : ¬ e.Takes A k) :
    SameTraffic k n (stepNet A n e) := by
  cases e with
  | issue socket d a => exact NetInv.sameTraffic_issue h_assumed h_k socket d a
  | sendDone k' error =>
    obtain rfl : error = none := h_assumed
    exact sameTraffic_sendDone n k k'
  | timeout k' => exact absurd h_assumed (fun h => h)
  | hubRecv p t tReg =>
    have h_key : p.cmdid ≠ some (k : ℤ) := fun h_key => h_not ⟨p, Or.inl rfl, h_key⟩
    refine ⟨about_erase_of_ne h_key, ?_, rfl⟩
    show aboutCmd k (packetsOf _ + n.fromHub) = _
    rw [aboutCmd, about_add]
    have h_none := inv.packetsOf_hubRecv (h_e.toHub p rfl) h_key t tReg
    rw [aboutCmd] at h_none
    rw [h_none, zero_add]
  | check now =>
    refine ⟨rfl, ?_, rfl⟩
    show aboutCmd k (packetsOf (exec n.hub (.check now)).2 + n.fromHub) = _
    rw [(hub_quiet (e := .check now) rfl rfl n.hub).2, zero_add]
  | doorRecv d line env =>
    obtain ⟨c, h_c, -, rfl, rfl⟩ := inv.doorRecv_cases (h_e.fromHub _ rfl)
    obtain ⟨-, -, h_id⟩ := inv.ids c h_c
    have h_key : Packet.cmdid (A.door c.door, c.line) = some (c.cmdid : ℤ) :=
      Command.cmdidOf_line h_id
    have h_ne : k ≠ c.cmdid := by
      rintro rfl
      exact h_not ⟨_, Or.inr rfl, h_key⟩
    have h_w := ((inv.doors c.door).handlerOp c.door.isText_name.1 c.action env).1
    refine ⟨?_, about_erase_of_ne (Packet.cmdid_ne h_key h_ne), rfl⟩
    rw [inv.toHub_doorRecv h_id env k]
    exact about_cons_of_ne
      (Packet.cmdid_ne (Command.cmdidOf_answer h_id (plainWord_answer h_w)) h_ne)
  | doorEv d e =>
    exact ⟨about_reports ((inv.doors d).execEv d.isText_name.1 e).quiet k n.toHub, rfl, rfl⟩
  | nodeRecv line =>
    obtain ⟨c, h_c, w, h_st, rfl⟩ := inv.nodeRecv_cases (h_e.fromHub _ rfl)
    obtain ⟨-, -, h_id⟩ := inv.ids c h_c
    have h_plain : PlainWord w := plainWord_answer h_st.known
    have h_key : Packet.cmdid (A.node, c.answer w) = some (c.cmdid : ℤ) :=
      Command.cmdidOf_answer h_id h_plain
    have h_ne : k ≠ c.cmdid := by
      rintro rfl
      exact h_not ⟨_, Or.inr rfl, h_key⟩
    have h_pending : n.bridge.pending c.cmdid = some c.socket := by
      rcases h_st.waits (show 3 < 4 by decide) with ⟨h_sending, -, -⟩ | ⟨-, h_pending, -⟩
      · -- the callback has run before the answer
        rw [h_assumed c.cmdid h_key] at h_sending
        exact absurd h_sending (by simp)
      · exact h_pending
    rw [stepNet_answer h_id h_plain h_pending]
    refine ⟨rfl, about_erase_of_ne (Packet.cmdid_ne h_key h_ne), ?_⟩
    rw [answersTo_append, answersTo_singleton, if_neg h_ne.symm, List.append_nil]

/-! ### Executions -/

/-- The door of the command takes its line, and runs the handler. -/
def NetEv.Executes (c : Command σ) : NetEv σ → Prop
  | .doorRecv d line _ => d = c.door ∧ line = c.line
  | _ => False

/-- The word that the handler answers with when the event executes the command. -/
def executedWord (n : Net σ) (c : Command σ) : NetEv σ → CStr
  | .doorRecv _ _ env => (handlerOp c.action.text env (n.doors c.door).module).2
  | _ => []

/-- The word of the answer, once the door has answered. -/
def Stage.word : Stage → Option CStr
  | .sent => none
  | .forwarded => none
  | .answered w => some w
  | .relayed w => some w
  | .done w => some w

/-- What an event does to the word of the answer. -/
inductive WordMove (n : Net σ) (c : Command σ) (e : NetEv σ) (st st' : Stage) : Prop
  | keep (h_not : ¬ e.Executes c) (h_word : st'.word = st.word)
  | execute (h_e : e.Executes c) (h_none : st.word = none)
      (h_word : st'.word = some (executedWord n c e))

/-- An execution takes the line of the command. -/
theorem NetEv.Executes.takes {c : Command σ} (h_id : c.cmdid < 2 ^ 31) {e : NetEv σ}
    (h : e.Executes c) : e.Takes A c.cmdid := by
  cases e with
  | doorRecv d line env =>
    obtain ⟨rfl, rfl⟩ := h
    exact ⟨_, Or.inr rfl, Command.cmdidOf_line h_id⟩
  | _ => exact absurd h (fun h => h)

/-- The door answers with the word of the execution. -/
theorem NetInv.word_doorRecv {n : Net σ} (inv : NetInv A n) {c : Command σ} (h_c : c ∈ n.issued)
    (h_st : InStage A n c .forwarded) (env : CallEnv) {st' : Stage}
    (h_st' : InStage A (stepNet A n (.doorRecv c.door c.line env)) c st') :
    st' = .answered (handlerOp c.action.text env (n.doors c.door).module).2 := by
  obtain ⟨-, -, h_id⟩ := inv.ids c h_c
  obtain ⟨-, w, h_w⟩ := InStage.door inv h_c h_st env
  have h_word := ((inv.doors c.door).handlerOp c.door.isText_name.1 c.action env).1
  -- the only datagram about the command is the answer that the handler has printed
  have h_about := (inv.toHub_doorRecv h_id env c.cmdid).trans (about_cons_eq_singleton h_st.toHub
    (Command.cmdidOf_answer h_id (plainWord_answer h_word)))
  have h_eq := Stage.word_eq h_id h_word h_w.known (h_about.symm.trans h_w.toHub)
  rw [h_w.unique h_id h_st', h_eq]

/-- **Step.** -/
theorem NetInv.wordMove {n : Net σ} (inv : NetInv A n) {e : NetEv σ} (h_e : Possible A n e)
    (h_assumed : Assumed n e) {c : Command σ} (h_c : c ∈ n.issued) {st st' : Stage}
    (h_st : InStage A n c st) (h_st' : InStage A (stepNet A n e) c st') :
    WordMove n c e st st' := by
  obtain ⟨-, h_k, h_id⟩ := inv.ids c h_c
  by_cases h_takes : e.Takes A c.cmdid
  · obtain ⟨p, h_hub | h_party, h_key⟩ := h_takes
    · -- the hub takes the line or the answer
      have h_mem : p ∈ aboutCmd c.cmdid n.toHub := mem_about.mpr ⟨h_e.toHub p h_hub, h_key⟩
      rw [h_st.toHub] at h_mem
      cases e with
      | hubRecv q t tReg =>
        obtain rfl : q = p := h_hub
        cases st with
        | sent =>
          obtain rfl := Multiset.mem_singleton.mp h_mem
          have h_next := (InStage.command inv h_c h_st t tReg h_assumed).2
          rw [h_next.unique h_id h_st']
          exact .keep (fun h => h) rfl
        | answered w =>
          obtain rfl := Multiset.mem_singleton.mp h_mem
          have h_next := (InStage.answer inv h_c h_st t tReg).2
          rw [h_next.unique h_id h_st']
          exact .keep (fun h => h) rfl
        | forwarded => exact absurd h_mem (Multiset.notMem_zero q)
        | relayed w => exact absurd h_mem (Multiset.notMem_zero q)
        | done w => exact absurd h_mem (Multiset.notMem_zero q)
      | _ => exact absurd h_hub (fun h => h)
    · have h_from := h_e.fromHub p h_party
      cases e with
      | doorRecv d line env =>
        obtain rfl : (A.door d, line) = p := h_party
        obtain ⟨c', h_c', h_forwarded, rfl, rfl⟩ := inv.doorRecv_cases h_from
        -- the line has the number of the command
        have h_eq : some (c'.cmdid : ℤ) = some (c.cmdid : ℤ) :=
          (Command.cmdidOf_line (inv.ids c' h_c').2.2).symm.trans h_key
        obtain rfl := inv.distinct c' h_c' c h_c (Nat.cast_injective (Option.some.inj h_eq))
        rw [inv.word_doorRecv h_c h_forwarded env h_st', h_forwarded.unique h_id h_st]
        exact .execute ⟨rfl, rfl⟩ rfl rfl
      | nodeRecv line =>
        obtain rfl : (A.node, line) = p := h_party
        obtain ⟨c', h_c', w, h_relayed, rfl⟩ := inv.nodeRecv_cases h_from
        have h_eq : some (c'.cmdid : ℤ) = some (c.cmdid : ℤ) :=
          (Command.cmdidOf_answer (inv.ids c' h_c').2.2
            (plainWord_answer h_relayed.known)).symm.trans h_key
        obtain rfl := inv.distinct c' h_c' c h_c (Nat.cast_injective (Option.some.inj h_eq))
        have h_next := (InStage.node inv h_c h_relayed (h_assumed c'.cmdid h_key)).2
        rw [h_next.unique h_id h_st', h_relayed.unique h_id h_st]
        exact .keep (fun h => h) rfl
      | _ => exact absurd h_party (fun h => h)
  · have h_same := inv.sameTraffic h_e h_assumed h_k h_takes
    rw [h_st.eq_of_traffic h_id h_st' h_same]
    exact .keep (fun h => h_takes (h.takes h_id)) rfl

/-! ### Runs -/

/-- The command is executed at the time `s`. -/
def DeliveryRun.ExecutedAt (R : DeliveryRun σ) (c : Command σ) (s : ℕ) : Prop :=
  (R.events s).Executes c

/-- What has been executed before the time `t`, when the answer has the word. -/
def DeliveryRun.WordAt (R : DeliveryRun σ) (c : Command σ) (t : ℕ) : Option CStr → Prop
  | none => ∀ s < t, ¬ R.ExecutedAt c s
  | some w => ∃ s < t, R.ExecutedAt c s ∧ c ∈ (R.state s).issued ∧
      w = executedWord (R.state s) c (R.events s) ∧ ∀ s' < t, R.ExecutedAt c s' → s' = s

theorem DeliveryRun.issued_mono (R : DeliveryRun σ) {c : Command σ} {t t' : ℕ} (h_t : t ≤ t')
    (h_c : c ∈ (R.state t).issued) : c ∈ (R.state t').issued := by
  induction t', h_t using Nat.le_induction with
  | base => exact h_c
  | succ t' _ ih => exact (R.levelsKept t' c ih).1

/-- What is executed has been issued. -/
theorem DeliveryRun.issued_of_executed (R : DeliveryRun σ) {c : Command σ} {s t : ℕ}
    (h_s : R.ExecutedAt c s) (h_t : s ≤ t) (h_c : c ∈ (R.state t).issued) :
    c ∈ (R.state s).issued := by
  have h_possible := R.possible s
  unfold DeliveryRun.ExecutedAt at h_s
  generalize R.events s = e at h_s h_possible
  cases e with
  | doorRecv d line env =>
    obtain ⟨rfl, rfl⟩ := h_s
    obtain ⟨c', h_c', -, -, h_line⟩ := (R.inv s).doorRecv_cases (h_possible.fromHub _ rfl)
    -- two commands with one line have one number
    have h_eq : some (c.cmdid : ℤ) = some (c'.cmdid : ℤ) := by
      rw [← Command.cmdidOf_line ((R.inv t).ids c h_c).2.2,
        ← Command.cmdidOf_line ((R.inv s).ids c' h_c').2.2, h_line]
    rw [(R.inv t).distinct c h_c c' (R.issued_mono h_t h_c')
      (Nat.cast_injective (Option.some.inj h_eq))]
    exact h_c'
  | _ => exact absurd h_s (fun h => h)

theorem DeliveryRun.wordAt_succ (R : DeliveryRun σ) {c : Command σ} {t : ℕ}
    (h_c : c ∈ (R.state t).issued) {st st' : Stage} (h : R.WordAt c t st.word)
    (h_move : WordMove (R.state t) c (R.events t) st st') : R.WordAt c (t + 1) st'.word := by
  cases h_move with
  | keep h_not h_word =>
    -- nothing has been executed at the time `t`
    rw [h_word]
    cases h_st : st.word with
    | none =>
      rw [h_st] at h
      intro s h_s
      rcases Nat.lt_succ_iff_lt_or_eq.mp h_s with h_s | rfl
      · exact h s h_s
      · exact h_not
    | some w =>
      rw [h_st] at h
      obtain ⟨s, h_s, h_executed, h_issued, h_w, h_only⟩ := h
      refine ⟨s, Nat.lt_succ_of_lt h_s, h_executed, h_issued, h_w, fun s' h_s' h_executed' => ?_⟩
      rcases Nat.lt_succ_iff_lt_or_eq.mp h_s' with h_s' | rfl
      · exact h_only s' h_s' h_executed'
      · exact absurd h_executed' h_not
  | execute h_e h_none h_word =>
    rw [h_none] at h
    rw [h_word]
    refine ⟨t, Nat.lt_succ_self t, h_e, h_c, rfl, fun s' h_s' h_executed' => ?_⟩
    rcases Nat.lt_succ_iff_lt_or_eq.mp h_s' with h_s' | rfl
    · exact absurd h_executed' (h s' h_s')
    · rfl

/-- Only a call of `sendCommand` issues a command. -/
theorem issued_stepNet {n : Net σ} {e : NetEv σ} {c : Command σ}
    (h_c : c ∈ (stepNet A n e).issued) :
    c ∈ n.issued ∨
      ∃ socket d a, e = .issue socket d a ∧ c = ⟨n.bridge.cmdCounter, socket, d, a⟩ := by
  cases e with
  | issue socket d a =>
    rw [stepNet_issue] at h_c
    refine (List.mem_append.mp h_c).imp_right fun h_new => ?_
    exact ⟨socket, d, a, rfl, List.mem_singleton.mp h_new⟩
  | _ => exact Or.inl h_c

/-- A command that has just been issued has no answer. -/
theorem NetInv.word_issue {n : Net σ} (inv : NetInv A n) (h_id : n.bridge.cmdCounter < 2 ^ 31)
    {socket : σ} {d : DoorId} {a : KnownAction} {st : Stage}
    (h_st : InStage A (stepNet A n (.issue socket d a)) ⟨n.bridge.cmdCounter, socket, d, a⟩ st) :
    st.word = none := by
  let c : Command σ := ⟨n.bridge.cmdCounter, socket, d, a⟩
  have h_fresh := inv.fresh c.cmdid le_rfl
  have h_to := h_st.toHub
  have h_from := h_st.fromHub
  have h_emitted := h_st.emitted
  rw [stepNet_issue] at h_to h_from h_emitted
  have h_line : aboutCmd c.cmdid ((A.node, c.line) ::ₘ n.toHub) = {(A.node, c.line)} :=
    about_cons_eq_singleton h_fresh.toHub (Command.cmdidOf_line h_id)
  have h_sent : Stage.sent = st := by
    -- its line is under way, and nothing else is about it
    refine Stage.eq_of_traffic (A := A) (c := c) h_id trivial h_st.known ?_ ?_ ?_
    · exact h_line.symm.trans h_to
    · exact h_fresh.fromHub.symm.trans h_from
    · exact h_fresh.emitted.symm.trans h_emitted
  rw [← h_sent]
  rfl

/-- **Run.** -/
theorem DeliveryRun.wordAt (R : DeliveryRun σ) (t : ℕ) : ∀ c ∈ (R.state t).issued, ∀ st,
    InStage R.start.addrs (R.state t) c st → R.WordAt c t st.word := by
  induction t with
  | zero => exact fun c h_c => absurd h_c List.not_mem_nil
  | succ t ih =>
    intro c h_c st' h_st'
    by_cases h_old : c ∈ (R.state t).issued
    · obtain ⟨st, h_st⟩ := (R.inv t).staged c h_old
      exact R.wordAt_succ h_old (ih c h_old st h_st)
        ((R.inv t).wordMove (R.possible t) (R.assumed t) h_old h_st h_st')
    · -- a new command: it has no answer, and what is executed was issued before
      have h_word : st'.word = none := by
        have h_assumed := R.assumed t
        change InStage R.start.addrs (stepNet R.start.addrs (R.state t) (R.events t)) c st' at h_st'
        rcases issued_stepNet (A := R.start.addrs) (n := R.state t) (e := R.events t) h_c with
          h_c | ⟨socket, d, a, h_e, rfl⟩
        · exact absurd h_c h_old
        · rw [h_e] at h_st' h_assumed
          exact (R.inv t).word_issue h_assumed h_st'
      rw [h_word]
      intro s h_s h_executed
      have h_s_le : s ≤ t := Nat.le_of_lt_succ h_s
      exact h_old (R.issued_mono h_s_le
        (R.issued_of_executed h_executed (h_s_le.trans (Nat.le_succ t)) h_c))

/-- Every command comes to its last stage. -/
theorem DeliveryRun.exists_done (R : DeliveryRun σ) {c : Command σ} {t : ℕ}
    (h_c : c ∈ (R.state t).issued) :
    ∃ T ≥ t, ∃ w, InStage R.start.addrs (R.state T) c (.done w) := by
  obtain ⟨st, h_st⟩ := (R.inv t).staged c h_c
  obtain ⟨T, h_T, h_reached⟩ := eventually_of_rises (R.Reached c) (fun i t => R.reached_succ)
    (fun i t => R.rises) ⟨h_c, st, h_st, Nat.zero_le _⟩
  obtain ⟨-, st', h_st', h_level⟩ := h_reached T le_rfl
  refine ⟨T, h_T, ?_⟩
  cases st' with
  | done w => exact ⟨w, h_st'⟩
  | sent => exact absurd h_level (show ¬ 4 ≤ 0 by decide)
  | forwarded => exact absurd h_level (show ¬ 4 ≤ 1 by decide)
  | answered w => exact absurd h_level (show ¬ 4 ≤ 2 by decide)
  | relayed w => exact absurd h_level (show ¬ 4 ≤ 3 by decide)

/-! ### The result -/

/-- **Exactly one execution** of each command, which its answer reports. -/
structure DeliveryRun.ExecutedOnce (R : DeliveryRun σ) : Prop where
  /-- What a door takes from the hub is a command that has been issued to it. -/
  issued : ∀ s d line env, R.events s = .doorRecv d line env →
    ∃ c ∈ (R.state s).issued, c.door = d ∧ c.line = line
  once : ∀ t, ∀ c ∈ (R.state t).issued, ∃! s, R.ExecutedAt c s
  /-- The answer is the word of the execution, between the call and the answer. -/
  answer : ∀ t, ∀ c ∈ (R.state t).issued, ∀ w,
    (c.socket, NodeEvent.commandFeedback c.door.name c.cmdid "D0".toList w) ∈ (R.state t).emitted →
    ∃ s < t, R.ExecutedAt c s ∧ c ∈ (R.state s).issued ∧
      w = executedWord (R.state s) c (R.events s)

/-- What has been emitted for a command is the word of its last stage. -/
theorem InStage.done_of_emitted {n : Net σ} {c : Command σ} {st : Stage} (h : InStage A n c st)
    {w : CStr} (h_w : (c.socket, NodeEvent.commandFeedback c.door.name c.cmdid "D0".toList w)
      ∈ n.emitted) : st = .done w := by
  have h_mem : (c.socket, NodeEvent.commandFeedback c.door.name c.cmdid "D0".toList w)
      ∈ answersTo c.cmdid n.emitted := by
    refine List.mem_filter.mpr ⟨h_w, ?_⟩
    simp [eventCmdid]
  rw [h.emitted] at h_mem
  cases st with
  | done w' =>
    have h_event := (Prod.mk.inj (List.mem_singleton.mp h_mem)).2
    rw [(NodeEvent.commandFeedback.inj h_event).2.2.2]
  | sent => exact absurd h_mem List.not_mem_nil
  | forwarded => exact absurd h_mem List.not_mem_nil
  | answered w' => exact absurd h_mem List.not_mem_nil
  | relayed w' => exact absurd h_mem List.not_mem_nil

/-- **Every web command is executed once**, between its call and its answer, and the answer is the
word of that execution. -/
theorem commands_executed (R : DeliveryRun σ) : R.ExecutedOnce := by
  refine ⟨fun s d line env h_e => ?_, fun t c h_c => ?_, fun t c h_c w h_w => ?_⟩
  · have h_possible := R.possible s
    rw [h_e] at h_possible
    obtain ⟨c, h_c, -, rfl, rfl⟩ := (R.inv s).doorRecv_cases (h_possible.fromHub _ rfl)
    exact ⟨c, h_c, rfl, rfl⟩
  · obtain ⟨T, h_T, w, h_done⟩ := R.exists_done h_c
    obtain ⟨s, -, h_s, -⟩ := R.wordAt T c (R.issued_mono h_T h_c) _ h_done
    refine ⟨s, h_s, fun s' h_s' => ?_⟩
    -- a time after both executions, at which the command is done as well
    obtain ⟨T', h_T', w', h_done'⟩ := R.exists_done
      (R.issued_mono (h_T.trans (le_max_left T (max s s' + 1))) h_c)
    obtain ⟨s₀, -, -, -, -, h_only⟩ := R.wordAt T' c
      (R.issued_mono ((h_T.trans (le_max_left T _)).trans h_T') h_c) _ h_done'
    have h_later := (le_max_right T (max s s' + 1)).trans h_T'
    have h_max := max_lt_iff.mp (Nat.lt_of_succ_le h_later)
    rw [h_only s' h_max.2 h_s', h_only s h_max.1 h_s]
  · obtain ⟨st, h_st⟩ := (R.inv t).staged c h_c
    obtain rfl := h_st.done_of_emitted h_w
    obtain ⟨s, h_s, h_executed, h_issued, h_word, -⟩ := R.wordAt t c h_c _ h_st
    exact ⟨s, h_s, h_executed, h_issued, h_word⟩

theorem commands_executed_lockRun : ∃! s, lockRun.ExecutedAt firstCommand s :=
  (commands_executed lockRun).once 1 firstCommand firstCommand_issued

end System

end DoorSystem
