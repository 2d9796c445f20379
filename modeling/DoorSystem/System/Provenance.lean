import DoorSystem.Door.Handler
import DoorSystem.Hub.Relay
import DoorSystem.Hub.SendCommand

/-!
# Who gets the FEEDBACK

Clients and the hub's own calls number their commands independently, and the hub knows a pending
command by its module and number alone. The ledger below runs beside the hub and keeps what the
hub does not: who issued which command, and for which command each slot of `g_pending_cmds` was
last written.

A FEEDBACK that answers the `n`-th command is relayed to whoever stands first in the table under
its module and number. `feedback_attributed_iff`: in a run every such FEEDBACK goes to the issuer
of its command if and only if each of them is traceable when it comes in. An entry of somebody else
that was never answered is what makes it untraceable.
-/

namespace DoorSystem

open CLib

namespace System

open Door Hub

/-! ### The ledger -/

/-- Who issues commands. -/
inductive Party
  | client (addr : SockAddr)
  /-- A local call of `hub_udp_send_command`. -/
  | hub
deriving DecidableEq

/-- A command: who issued it, and the datagram that the door gets. -/
structure Issue where
  party : Party
  line : CStr
deriving DecidableEq

/-- The hub, and the commands that were issued. -/
structure Ledger where
  hub : HubState
  issues : List Issue
  /-- The command that a slot of `g_pending_cmds` was written for, until the slot is cleared. -/
  owner : Fin HUB_MAX_PENDING_CMDS → Option ℕ
  /-- The commands whose slot was written again before it was cleared. -/
  evicted : List ℕ

/-- A FEEDBACK that a door sends in answer to the `n`-th command. -/
structure Answer where
  n : ℕ
  data : CStr
  src : SockAddr
  t : ℤ
  tReg : ℤ

/-- What happens in the system. -/
inductive LedgerEv
  /-- Any datagram comes in. -/
  | line (data : List Char) (src : SockAddr) (t tReg : ℤ)
  /-- An answer comes in. -/
  | answer (a : Answer)
  | check (now : ℤ)
  /-- A local call takes a number and sends its command. -/
  | call (c : SendCall)

/-- The slot `slot` is written for a new command. -/
def Ledger.register (L : Ledger) (slot : Fin HUB_MAX_PENDING_CMDS) (issue : Issue) : Ledger :=
  { L with
    issues := L.issues ++ [issue]
    owner := Function.update L.owner slot (some L.issues.length)
    evicted := (L.owner slot).toList ++ L.evicted }

/-- The slot that is found for a FEEDBACK is cleared. -/
def Ledger.clear (L : Ledger) (f : CmdWords) : Ledger :=
  match findClientCmd f.mod f.cmdid L.hub.gPendingCmds with
  | some i => { L with owner := Function.update L.owner i none }
  | none => L

/-- What a datagram means for the book. -/
def Ledger.book (L : Ledger) (data : List Char) (src : SockAddr) : Ledger :=
  match feedbackOf (lineTokens (datagramLine data)) with
  | some f => L.clear f
  | none =>
    match commandOf (lineTokens (datagramLine data)) with
    | some c =>
      if HasSlot c.mod L.hub.gDoors then
        L.register (registerSlot L.hub.gPendingCmds) ⟨.client src, datagramLine data⟩
      else L
    | none => L

/-- A datagram is handled. -/
def Ledger.receive (L : Ledger) (data : List Char) (src : SockAddr) (t tReg : ℤ) : Ledger :=
  { L.book data src with hub := step L.hub (.datagram data src t tReg) }

/-- One event. -/
def stepLedger (L : Ledger) : LedgerEv → Ledger
  | .line data src t tReg => L.receive data src t tReg
  | .answer a => L.receive a.data a.src a.t a.tReg
  | .check now => { L with hub := step L.hub (.check now) }
  | .call c =>
    { L with
      hub := step L.hub .alloc
      issues := L.issues ++ [⟨.hub, sendLine c L.hub.gNextCmdid⟩] }

/-- The ledger of a hub that has just been started. -/
def Ledger.initial (url : CharBuf 512) : Ledger := ⟨HubState.initial url, [], fun _ => none, []⟩

/-- The ledger after the events `es`. -/
def ledgerAfter (url : CharBuf 512) (es : List LedgerEv) : Ledger :=
  run stepLedger (Ledger.initial url) es

/-! ### Attribution -/

/-- `a` is a door's answer to a command of `p` with the words `c`. -/
def Answer.IsFor (a : Answer) (L : Ledger) (p : Party) (c : CmdWords) : Prop :=
  ∃ line, L.issues[a.n]? = some ⟨p, line⟩ ∧ commandOf (lineTokens (datagramLine line)) = some c ∧
    IsFeedbackTo c.mod line a.data

/-- What the hub relays when the answer comes in. -/
def Answer.relays (a : Answer) (L : Ledger) : List (SockAddr × CStr) :=
  relaysOf (exec L.hub (.datagram a.data a.src a.t a.tReg)).2

/-- **Attribution** of one answer: the line goes to the client that issued the command unless its
registration was evicted, and to nobody else. -/
def Attributed (a : Answer) (L : Ledger) : Party → Prop
  | .client addr => (a.relays L = [] ∨ a.relays L = [(addr, a.data)]) ∧
    (a.n ∉ L.evicted → a.relays L = [(addr, a.data)])
  | .hub => a.relays L = []

/-- The registration of a client's command was not evicted. -/
def Kept (a : Answer) (L : Ledger) (p : Party) : Prop := p ≠ .hub ∧ a.n ∉ L.evicted

/-- A slot that matches the command and was written by its issuer. -/
def OwnEntry (L : Ledger) (p : Party) (c : CmdWords) (i : Fin HUB_MAX_PENDING_CMDS) : Prop :=
  Matches L.hub.gPendingCmds c.mod c.cmdid i ∧ p = .client (L.hub.gPendingCmds i).clientAddr

/-- An answer that the hub receives complete, with its target and action. -/
def Answer.Complete (a : Answer) : Prop := feedbackOf (lineTokens (datagramLine a.data)) ≠ none

/-- When the hub can tell from the table whom an answer is for. -/
structure Traceable (a : Answer) (L : Ledger) (p : Party) (c : CmdWords) : Prop where
  /-- The line is not cut before its action. -/
  complete : Kept a L p → a.Complete
  /-- An entry of somebody else stands behind one of the issuer. -/
  first : a.Complete → ∀ i, Matches L.hub.gPendingCmds c.mod c.cmdid i → ¬ OwnEntry L p c i →
      ∃ j < i, OwnEntry L p c j
  /-- When the command's own entry was cleared already, the issuer has another one. -/
  spare : Kept a L p → (∀ i, L.owner i ≠ some a.n) → ∃ i, OwnEntry L p c i

/-! ### What the ledger knows of the table -/

/-- The modules of the table's entries have door slots. -/
def EntriesHeld (h : HubState) : Prop :=
  ∀ i, (h.gPendingCmds i).moduleId.str ≠ [] →
    ∃ d, Holds h.gDoors (h.gPendingCmds i).moduleId.str d

theorem EntriesHeld.step {h : HubState} (h_held : EntriesHeld h) (e : HubEv) :
    EntriesHeld (step h e) := by
  -- door slots are never given back, so the old entries stay held
  have h_kept : ∀ i, (h.gPendingCmds i).moduleId.str ≠ [] →
      ∃ d, Holds (Hub.step h e).gDoors (h.gPendingCmds i).moduleId.str d := by
    intro i h_i
    obtain ⟨d, h_d⟩ := h_held i h_i
    exact ⟨d, h_d.step e⟩
  intro i h_i
  rcases exec_pending_cases h e with ⟨f, -, -, h_pend, -⟩ | ⟨c, tReg, h_c, h_slot, h_pend, -⟩ |
    ⟨-, -, h_pend, -⟩
  · -- a slot that is cleared keeps its module
    have h_mod : ((Hub.step h e).gPendingCmds i).moduleId = (h.gPendingCmds i).moduleId := by
      rw [h_pend]
      rcases getAndClearClientCmd_cases f.mod f.cmdid h.gPendingCmds with
        ⟨j, -, h_eq⟩ | ⟨-, h_eq⟩
      · rw [h_eq]
        by_cases h_ij : i = j
        · subst h_ij
          dsimp only
          rw [Function.update_self]
        · dsimp only
          rw [Function.update_of_ne h_ij]
      · rw [h_eq]
    rw [h_mod] at h_i ⊢
    exact h_kept i h_i
  · -- a slot that is written takes the module of the line, which has a slot by then
    rw [h_pend] at h_i ⊢
    unfold registerClientCommand at h_i ⊢
    by_cases h_ij : i = registerSlot h.gPendingCmds
    · subst h_ij
      rw [Function.update_self]
      obtain ⟨cmdidS, rest, h_words, -⟩ := cmdWords_eq_some h_c
      exact exists_holds_step h_words h_slot
    · rw [Function.update_of_ne h_ij] at h_i ⊢
      exact h_kept i h_i
  · rw [h_pend] at h_i ⊢
    exact h_kept i h_i

/-- The slot `i` holds the registration of the `n`-th command. -/
def WrittenFor (L : Ledger) (i : Fin HUB_MAX_PENDING_CMDS) (n : ℕ) : Prop :=
  ∃ addr line c, L.issues[n]? = some ⟨.client addr, line⟩ ∧
    commandOf (lineTokens (datagramLine line)) = some c ∧
    (L.hub.gPendingCmds i).cmdid = c.cmdid ∧ (L.hub.gPendingCmds i).clientAddr = addr ∧
    (L.hub.gPendingCmds i).moduleId.str = c.mod.take 15

theorem WrittenFor.congr {L L' : Ledger} {i : Fin HUB_MAX_PENDING_CMDS} {n : ℕ}
    (h : WrittenFor L i n) (h_issues : ∃ more, L'.issues = L.issues ++ more)
    (h_entry : L'.hub.gPendingCmds i = L.hub.gPendingCmds i) : WrittenFor L' i n := by
  obtain ⟨addr, line, c, h_n, h_rest⟩ := h
  obtain ⟨more, h_more⟩ := h_issues
  refine ⟨addr, line, c, ?_, ?_⟩
  · -- commands are only added, so the `n`-th one stays the `n`-th
    rw [h_more, List.getElem?_append_left (List.getElem?_eq_some_iff.mp h_n).1]
    exact h_n
  · rw [h_entry]
    exact h_rest

/-- The invariant of the ledger. -/
structure LedgerInv (L : Ledger) : Prop where
  held : EntriesHeld L.hub
  owner : ∀ i n, L.owner i = some n → WrittenFor L i n

/-- An event that carries no complete FEEDBACK or COMMAND line leaves the table alone. -/
theorem step_pending_of_none {h : HubState} {e : HubEv} (h_f : feedbackOf e.words = none)
    (h_c : ∀ c, commandOf e.words = some c → ¬ HasSlot c.mod h.gDoors) :
    (step h e).gPendingCmds = h.gPendingCmds := by
  rcases exec_pending_cases h e with ⟨f, h_f', -⟩ | ⟨c, tReg, h_c', h_slot, -⟩ | ⟨-, -, h_pend, -⟩
  · -- either case needs a complete line
    rw [h_f] at h_f'
    exact absurd h_f' (by simp)
  · exact absurd h_slot (h_c c h_c')
  · exact h_pend

/-- A FEEDBACK line clears at most the slot that is found for it. -/
theorem step_pending_of_feedback {h : HubState} {e : HubEv} {f : CmdWords}
    (h_f : feedbackOf e.words = some f) {i : Fin HUB_MAX_PENDING_CMDS}
    (h_i : findClientCmd f.mod f.cmdid h.gPendingCmds ≠ some i) :
    (step h e).gPendingCmds i = h.gPendingCmds i := by
  rcases exec_pending_cases h e with ⟨f', h_f', -, h_pend, -⟩ | ⟨c, tReg, h_c, -, -⟩ |
    ⟨-, -, h_pend, -⟩
  · -- the slot that is cleared is the one that was found, and `i` is another one
    obtain rfl : f = f' := Option.some.inj (h_f.symm.trans h_f')
    rw [h_pend]
    rcases getAndClearClientCmd_cases f.mod f.cmdid h.gPendingCmds with
      ⟨j, h_find, h_eq⟩ | ⟨-, h_eq⟩
    · rw [h_eq]
      refine Function.update_of_ne ?_ _ _
      rintro rfl
      exact h_i h_find
    · rw [h_eq]
  · rw [feedbackOf_of_command h_c] at h_f
    exact absurd h_f (by simp)
  · rw [h_pend]

/-- A FEEDBACK line clears a slot in the table and in the book. -/
theorem LedgerInv.clear {L : Ledger} (inv : LedgerInv L) {e : HubEv} {f : CmdWords}
    (h_f : feedbackOf e.words = some f) : LedgerInv { L.clear f with hub := step L.hub e } := by
  refine ⟨inv.held.step e, ?_⟩
  unfold Ledger.clear
  cases h_find : findClientCmd f.mod f.cmdid L.hub.gPendingCmds with
  | some j =>
    intro i n h_i
    dsimp only at h_i
    -- the cleared slot has no owner any more
    by_cases h_ij : i = j
    · subst h_ij
      rw [Function.update_self] at h_i
      exact absurd h_i (by simp)
    · rw [Function.update_of_ne h_ij] at h_i
      refine (inv.owner i n h_i).congr ⟨[], (List.append_nil _).symm⟩ ?_
      refine step_pending_of_feedback h_f ?_
      rw [h_find]
      exact fun h_eq => h_ij (Option.some.inj h_eq).symm
  | none =>
    intro i n h_i
    refine (inv.owner i n h_i).congr ⟨[], (List.append_nil _).symm⟩ ?_
    refine step_pending_of_feedback h_f ?_
    rw [h_find]
    simp

/-- A COMMAND line writes a slot in the table and in the book. -/
theorem LedgerInv.register {L : Ledger} (inv : LedgerInv L) {data : List Char} {src : SockAddr}
    {t tReg : ℤ} {c : CmdWords} (h_c : commandOf (lineTokens (datagramLine data)) = some c)
    (h_slot : HasSlot c.mod L.hub.gDoors) :
    LedgerInv { L.register (registerSlot L.hub.gPendingCmds) ⟨.client src, datagramLine data⟩ with
      hub := step L.hub (.datagram data src t tReg) } := by
  let e : HubEv := .datagram data src t tReg
  have h_e : commandOf e.words = some c := h_c
  obtain ⟨now, h_pend⟩ := step_pending_of_command h_e h_slot
  refine ⟨inv.held.step e, ?_⟩
  intro i n h_i
  unfold Ledger.register at h_i
  dsimp only at h_i
  -- the slot is written for the command that is about to be appended
  by_cases h_new : i = registerSlot L.hub.gPendingCmds
  · subst h_new
    rw [Function.update_self, Option.some.injEq] at h_i
    subst h_i
    refine ⟨src, datagramLine data, c, List.getElem?_concat_length, ?_, ?_⟩
    · rw [datagramLine_datagramLine]
      exact h_c
    · show ((step L.hub e).gPendingCmds _).cmdid = _ ∧ ((step L.hub e).gPendingCmds _).clientAddr
        = _ ∧ ((step L.hub e).gPendingCmds _).moduleId.str = _
      rw [h_pend]
      unfold registerClientCommand
      rw [Function.update_self]
      exact ⟨rfl, rfl, rfl⟩
  · rw [Function.update_of_ne h_new] at h_i
    refine (inv.owner i n h_i).congr ⟨_, rfl⟩ ?_
    show (step L.hub e).gPendingCmds i = _
    rw [h_pend]
    exact Function.update_of_ne h_new _ _

/-- Nothing else changes the table or the owners. -/
theorem LedgerInv.frame {L : Ledger} (inv : LedgerInv L) {e : HubEv}
    (h_pend : (step L.hub e).gPendingCmds = L.hub.gPendingCmds) (more : List Issue) :
    LedgerInv { L with hub := step L.hub e, issues := L.issues ++ more } :=
  ⟨inv.held.step e, fun i n h_i => (inv.owner i n h_i).congr ⟨more, rfl⟩ (congrFun h_pend i)⟩

theorem LedgerInv.receive {L : Ledger} (inv : LedgerInv L) (data : List Char) (src : SockAddr)
    (t tReg : ℤ) : LedgerInv (L.receive data src t tReg) := by
  let e : HubEv := .datagram data src t tReg
  -- a line that is not booked leaves the table alone
  have h_same : feedbackOf e.words = none → (∀ c, commandOf e.words = some c →
      ¬ HasSlot c.mod L.hub.gDoors) → LedgerInv { L with hub := step L.hub e } := by
    intro h_f h_c
    have h_frame := inv.frame (step_pending_of_none h_f h_c) []
    rw [List.append_nil] at h_frame
    exact h_frame
  unfold Ledger.receive Ledger.book
  cases h_f : feedbackOf (lineTokens (datagramLine data)) with
  | some f => exact inv.clear (e := e) h_f
  | none =>
    cases h_c : commandOf (lineTokens (datagramLine data)) with
    | some c =>
      dsimp only
      split_ifs with h_slot
      · exact inv.register h_c h_slot
      · refine h_same h_f (fun c' h_c' => ?_)
        rw [← Option.some.inj (h_c.symm.trans h_c')]
        exact h_slot
    | none =>
      refine h_same h_f (fun c' h_c' => ?_)
      exact absurd (h_c.symm.trans h_c') (by simp)

/-- **Step.** -/
theorem LedgerInv.step {L : Ledger} (inv : LedgerInv L) (ev : LedgerEv) :
    LedgerInv (stepLedger L ev) := by
  cases ev with
  | line data src t tReg => exact inv.receive data src t tReg
  | answer a => exact inv.receive a.data a.src a.t a.tReg
  | check now =>
    have h_frame := inv.frame (step_pending_of_none (h := L.hub) (e := .check now) rfl
      (by simp [HubEv.words, commandOf, cmdWords])) []
    rw [List.append_nil] at h_frame
    exact h_frame
  | call c =>
    exact inv.frame (step_pending_of_none (h := L.hub) (e := .alloc) rfl
      (by simp [HubEv.words, commandOf, cmdWords])) _

/-- **Run.** -/
theorem ledgerInv_after (url : CharBuf 512) (es : List LedgerEv) :
    LedgerInv (ledgerAfter url es) := by
  refine run_invariant (fun L : Ledger => LedgerInv L) (fun _ ev inv => inv.step ev) ?_ es
  -- the table is empty at the start
  refine ⟨fun i h_i => absurd rfl h_i, fun i n h_i => ?_⟩
  exact absurd h_i (by simp [Ledger.initial])

/-! ### What is relayed -/

/-- An answer is received with the module and the number of its command, if it is complete. -/
theorem Answer.IsFor.words {a : Answer} {L : Ledger} {p : Party} {c : CmdWords}
    (h : a.IsFor L p c) :
    c.mod.length ≤ 15 ∧ (feedbackOf (lineTokens (datagramLine a.data)) = none ∨
      ∃ f, feedbackOf (lineTokens (datagramLine a.data)) = some f ∧ f.mod = c.mod ∧
        f.cmdid = c.cmdid ∧ (snprintf 256 (feedbackLine f.mod f.cmdid f.target f.action)).str
          = a.data) := by
  obtain ⟨line, -, h_c, h_data⟩ := h
  obtain ⟨c', env, s, h_c', -, h_fits, h_data⟩ := h_data.words
  obtain rfl : c = c' := Option.some.inj (h_c.symm.trans h_c')
  obtain ⟨h_mod, h_target, h_action, h_id⟩ := isText_of_cmdWords h_c
  have h_out := (isText_handlerOp h_action env s).1
  refine ⟨Nat.le_of_lt_succ h_fits, ?_⟩
  -- the line is cut in its action, or not at all
  rcases feedbackOf_sent h_mod (Nat.le_of_lt_succ h_fits) h_id h_target h_out h_data.symm with
    h_none | ⟨act, h_f, h_again⟩
  · exact Or.inl h_none
  · exact Or.inr ⟨_, h_f, rfl, rfl, h_again⟩

/-- An incomplete answer is relayed to nobody. -/
theorem Answer.relays_of_incomplete {a : Answer} {L : Ledger}
    (h_none : feedbackOf (lineTokens (datagramLine a.data)) = none) : a.relays L = [] := by
  let e : HubEv := .datagram a.data a.src a.t a.tReg
  have h_e : feedbackOf e.words = none := h_none
  rcases exec_pending_cases L.hub e with ⟨f, h_f, -⟩ | ⟨c, tReg, -, -, -, h_out⟩ | ⟨-, -, -, h_out⟩
  · rw [h_e] at h_f
    exact absurd h_f (by simp)
  · exact h_out
  · exact h_out

/-- A complete FEEDBACK line is relayed to the entry that is found for it. -/
theorem Answer.relays_of_complete {a : Answer} {L : Ledger} (inv : LedgerInv L) {f : CmdWords}
    (h_f : feedbackOf (lineTokens (datagramLine a.data)) = some f)
    (h_again : (snprintf 256 (feedbackLine f.mod f.cmdid f.target f.action)).str = a.data) :
    a.relays L = match findClientCmd f.mod f.cmdid L.hub.gPendingCmds with
      | some i => [((L.hub.gPendingCmds i).clientAddr, a.data)]
      | none => [] := by
  let e : HubEv := .datagram a.data a.src a.t a.tReg
  have h_e : feedbackOf e.words = some f := h_f
  show relaysOf (exec L.hub e).2 = _
  rcases exec_pending_cases L.hub e with ⟨f', h_f', -, -, h_out⟩ | ⟨c, tReg, h_c, -⟩ |
    ⟨h_no, -, -, h_out⟩
  · obtain rfl : f = f' := Option.some.inj (h_e.symm.trans h_f')
    -- the relayed line is printed again from its words, and comes out the same
    rw [h_out]
    unfold getAndClearClientCmd feedbackRelay
    rw [h_again]
    cases findClientCmd f.mod f.cmdid L.hub.gPendingCmds with
    | some i => rfl
    | none => rfl
  · rw [feedbackOf_of_command h_c] at h_e
    exact absurd h_e (by simp)
  · rw [h_out]
    cases h_find : findClientCmd f.mod f.cmdid L.hub.gPendingCmds with
    | none => rfl
    | some i =>
      -- an entry with the module is only there when the module has a slot
      obtain ⟨-, h_mod⟩ := (findClientCmd_eq_some_iff.mp h_find).1
      have h_word : IsText f.mod := (isText_of_cmdWords h_f).1
      obtain ⟨d, h_d⟩ := inv.held i (by rw [h_mod]; exact h_word.1.1)
      rw [h_mod] at h_d
      exact absurd (hasSlot_of_holds h_d) (h_no f h_e)

/-- What becomes of a complete answer. -/
theorem Answer.relays_cases {a : Answer} {L : Ledger} (inv : LedgerInv L) {p : Party}
    {c : CmdWords} (h_for : a.IsFor L p c) (h_complete : a.Complete) :
    (findClientCmd c.mod c.cmdid L.hub.gPendingCmds = none ∧ a.relays L = []) ∨
      ∃ i, findClientCmd c.mod c.cmdid L.hub.gPendingCmds = some i ∧
        a.relays L = [((L.hub.gPendingCmds i).clientAddr, a.data)] := by
  rcases h_for.words.2 with h_none | ⟨f, h_f, h_mod, h_id, h_again⟩
  · exact absurd h_none h_complete
  · have h_relays := Answer.relays_of_complete inv h_f h_again
    rw [h_mod, h_id] at h_relays
    cases h_find : findClientCmd c.mod c.cmdid L.hub.gPendingCmds with
    | none =>
      rw [h_find] at h_relays
      exact Or.inl ⟨rfl, h_relays⟩
    | some i =>
      rw [h_find] at h_relays
      exact Or.inr ⟨i, rfl, h_relays⟩

/-! ### Traceable answers -/

/-- The entry that is found belongs to the issuer, when all others stand behind one of the
issuer's. -/
theorem Traceable.own {a : Answer} {L : Ledger} {p : Party} {c : CmdWords}
    (h_trace : Traceable a L p c) (h_complete : a.Complete) {i : Fin HUB_MAX_PENDING_CMDS}
    (h_find : findClientCmd c.mod c.cmdid L.hub.gPendingCmds = some i) : OwnEntry L p c i := by
  obtain ⟨h_match, h_least⟩ := findClientCmd_eq_some_iff.mp h_find
  -- the scan takes the first match, and one of the issuer would come before
  by_contra h_other
  obtain ⟨j, h_j, h_own⟩ := h_trace.first h_complete i h_match h_other
  exact h_least j h_j h_own.1

/-- While its registration is kept, the issuer has an entry. -/
theorem Traceable.exists_own {a : Answer} {L : Ledger} (inv : LedgerInv L) {p : Party}
    {c : CmdWords} (h_for : a.IsFor L p c) (h_trace : Traceable a L p c) (h_kept : Kept a L p) :
    ∃ i, OwnEntry L p c i := by
  by_cases h_owner : ∃ i, L.owner i = some a.n
  · -- the entry of the command itself, which carries its module, number and address
    obtain ⟨i, h_i⟩ := h_owner
    obtain ⟨line, h_n, h_c, -⟩ := id h_for
    obtain ⟨addr, line', c', h_n', h_c', h_id, h_addr, h_mod⟩ := inv.owner i a.n h_i
    obtain ⟨rfl, rfl⟩ := Issue.mk.inj (Option.some.inj (h_n.symm.trans h_n'))
    obtain rfl : c = c' := Option.some.inj (h_c.symm.trans h_c')
    rw [List.take_of_length_le h_for.words.1] at h_mod
    exact ⟨i, ⟨h_id, h_mod⟩, by rw [h_addr]⟩
  · exact h_trace.spare h_kept (not_exists.mp h_owner)

/-- A traceable answer goes where it should. -/
theorem Traceable.attributed {a : Answer} {L : Ledger} (inv : LedgerInv L) {p : Party}
    {c : CmdWords} (h_for : a.IsFor L p c) (h_trace : Traceable a L p c) : Attributed a L p := by
  -- silence is right unless the registration was kept
  have h_none : (Kept a L p → False) → a.relays L = [] → Attributed a L p := by
    intro h_lost h_relays
    cases p with
    | hub => exact h_relays
    | client addr => exact ⟨Or.inl h_relays, fun h_in => absurd ⟨by simp, h_in⟩ h_lost⟩
  by_cases h_complete : a.Complete
  · rcases Answer.relays_cases inv h_for h_complete with ⟨h_find, h_relays⟩ | ⟨i, h_find, h_relays⟩
    · -- no entry at all: the registration cannot have been kept
      refine h_none (fun h_kept => ?_) h_relays
      obtain ⟨i, h_own⟩ := h_trace.exists_own inv h_for h_kept
      exact findClientCmd_eq_none_iff.mp h_find i h_own.1
    · have h_party := (h_trace.own h_complete h_find).2
      rw [h_party]
      exact ⟨Or.inr h_relays, fun _ => h_relays⟩
  · -- an incomplete answer is relayed to nobody, and then none was owed
    exact h_none (fun h_kept => h_complete (h_trace.complete h_kept))
      (Answer.relays_of_incomplete (not_not.mp h_complete))

/-- Whoever gets an answer that goes where it should is its issuer. -/
theorem Attributed.party {a : Answer} {L : Ledger} {p : Party} (h_attr : Attributed a L p)
    {addr : SockAddr} (h_relays : a.relays L = [(addr, a.data)]) : p = .client addr := by
  cases p with
  | hub =>
    -- an answer to the hub is not relayed
    have h_silent : a.relays L = [] := h_attr
    rw [h_relays] at h_silent
    exact absurd h_silent (by simp)
  | client addr' =>
    rcases h_attr.1 with h_silent | h_sent
    · rw [h_relays] at h_silent
      exact absurd h_silent (by simp)
    · rw [h_relays, List.singleton_inj, Prod.mk.injEq] at h_sent
      rw [h_sent.1]

/-- An answer to a command whose registration is kept is relayed. -/
theorem Attributed.relays_ne_nil {a : Answer} {L : Ledger} {p : Party} (h_attr : Attributed a L p)
    (h_kept : Kept a L p) : a.relays L ≠ [] := by
  cases p with
  | hub => exact absurd rfl h_kept.1
  | client addr =>
    rw [h_attr.2 h_kept.2]
    simp

/-- An answer that goes where it should was traceable. -/
theorem Attributed.traceable {a : Answer} {L : Ledger} (inv : LedgerInv L) {p : Party}
    {c : CmdWords} (h_for : a.IsFor L p c) (h_attr : Attributed a L p) : Traceable a L p c := by
  have h_complete : Kept a L p → a.Complete := fun h_kept h_none =>
    h_attr.relays_ne_nil h_kept (Answer.relays_of_incomplete h_none)
  refine ⟨h_complete, fun h_some i h_match h_other => ?_, fun h_kept _ => ?_⟩
  · rcases Answer.relays_cases inv h_for h_some with ⟨h_find, -⟩ | ⟨j, h_find, h_relays⟩
    · exact absurd h_match (findClientCmd_eq_none_iff.mp h_find i)
    · -- the entry that was found is the issuer's, and stands before all others
      obtain ⟨h_j, h_least⟩ := findClientCmd_eq_some_iff.mp h_find
      have h_own : OwnEntry L p c j := ⟨h_j, h_attr.party h_relays⟩
      refine ⟨j, lt_of_le_of_ne (not_lt.mp (fun h_lt => h_least i h_lt h_match)) ?_, h_own⟩
      rintro rfl
      exact h_other h_own
  · rcases Answer.relays_cases inv h_for (h_complete h_kept) with ⟨-, h_relays⟩ |
      ⟨j, h_find, h_relays⟩
    · exact absurd h_relays (h_attr.relays_ne_nil h_kept)
    · exact ⟨j, (findClientCmd_eq_some_iff.mp h_find).1, h_attr.party h_relays⟩

/-- **Step.** An answer is attributed if and only if it is traceable. -/
theorem attributed_iff {a : Answer} {L : Ledger} (inv : LedgerInv L) {p : Party} {c : CmdWords}
    (h_for : a.IsFor L p c) : Attributed a L p ↔ Traceable a L p c :=
  ⟨fun h_attr => h_attr.traceable inv h_for, fun h_trace => h_trace.attributed inv h_for⟩

/-! ### Runs -/

/-- `P` holds of every answer of the run when it comes in. -/
def EveryAnswer (P : Answer → Ledger → Party → CmdWords → Prop) (url : CharBuf 512)
    (es : List LedgerEv) : Prop :=
  ∀ es₁ a es₂, es = es₁ ++ .answer a :: es₂ → ∀ p c, a.IsFor (ledgerAfter url es₁) p c →
    P a (ledgerAfter url es₁) p c

/-- **Who gets the FEEDBACK.** In every run, all answers are relayed to the issuers of their
commands, and to nobody else, if and only if all of them are traceable. -/
theorem feedback_attributed_iff (url : CharBuf 512) (es : List LedgerEv) :
    EveryAnswer (fun a L p _ => Attributed a L p) url es ↔ EveryAnswer Traceable url es := by
  -- each answer is judged in the ledger it meets
  have h_step : ∀ es₁ a p c, a.IsFor (ledgerAfter url es₁) p c →
      (Attributed a (ledgerAfter url es₁) p ↔ Traceable a (ledgerAfter url es₁) p c) :=
    fun es₁ a p c h_for => attributed_iff (ledgerInv_after url es₁) h_for
  constructor
  · intro h es₁ a es₂ h_split p c h_for
    exact (h_step es₁ a p c h_for).mp (h es₁ a es₂ h_split p c h_for)
  · intro h es₁ a es₂ h_split p c h_for
    exact (h_step es₁ a p c h_for).mpr (h es₁ a es₂ h_split p c h_for)

/-- A client and the same client after a restart, from another port. -/
def oldClient : SockAddr := ⟨1, 4001⟩
def newClient : SockAddr := ⟨1, 4002⟩

/-- The door's answer to a command 1 to lock, as the second command that was issued. -/
def lockAnswer : Answer := ⟨1, "D1 FEEDBACK 1 D0 LOCK\n".toList, ⟨2, 5000⟩, 0, 0⟩

/-- The old client's command 1 was never answered. -/
def restartedRun : List LedgerEv :=
  [.line "D1 COMMAND 1 D0 LOCK\n".toList oldClient 0 0,
    .line "D1 COMMAND 1 D0 LOCK\n".toList newClient 0 0]

/-- A client's command 1 was never answered, and the hub makes its first call. -/
def localRun : List LedgerEv :=
  [.line "D1 COMMAND 1 D0 LOCK\n".toList oldClient 0 0,
    .call ⟨"D1".toList, "D0".toList, "LOCK".toList⟩]

/-- The answer to the new client, and the one to the hub, go to the old client. -/
theorem not_attributed :
    ¬ EveryAnswer (fun a L p _ => Attributed a L p) (CharBuf.zero _)
        (restartedRun ++ [.answer lockAnswer]) ∧
      ¬ EveryAnswer (fun a L p _ => Attributed a L p) (CharBuf.zero _)
        (localRun ++ [.answer lockAnswer]) := by
  let c : CmdWords := ⟨"D1".toList, 1, "D0".toList, "LOCK".toList⟩
  let line := "D1 COMMAND 1 D0 LOCK\n".toList
  have h_c : commandOf (lineTokens (datagramLine line)) = some c := by decide +kernel
  -- a door whose sensor is dead answers all the same
  have h_sent : IsFeedbackTo c.mod line lockAnswer.data :=
    ⟨.started "D1".toList, deadEnv, 0, by decide +kernel, by decide +kernel⟩
  constructor
  · intro h_every
    have h_for : lockAnswer.IsFor (ledgerAfter (CharBuf.zero _) restartedRun)
        (.client newClient) c := ⟨line, by decide +kernel, h_c, h_sent⟩
    have h_attr := h_every restartedRun lockAnswer [] rfl _ c h_for
    have h_relays : lockAnswer.relays (ledgerAfter (CharBuf.zero _) restartedRun)
        = [(oldClient, lockAnswer.data)] := by decide +kernel
    exact absurd (h_attr.party h_relays) (by decide)
  · intro h_every
    have h_for : lockAnswer.IsFor (ledgerAfter (CharBuf.zero _) localRun) .hub c :=
      ⟨line, by decide +kernel, h_c, h_sent⟩
    have h_attr := h_every localRun lockAnswer [] rfl _ c h_for
    have h_relays : lockAnswer.relays (ledgerAfter (CharBuf.zero _) localRun)
        = [(oldClient, lockAnswer.data)] := by decide +kernel
    exact absurd (h_attr.party h_relays) (by decide)

end System

end DoorSystem
