import DoorSystem.Hub.SlotIdentity

/-!
# Relays and commands

How often FEEDBACK for a pair of module and command id is relayed, against how often a COMMAND with
that pair came in. While an entry of the pending table is taken, it owes one relay; registering a
command adds one, relaying takes one away. `step_relays` is this balance for one event and
`relayCount_le` its sum over a run.

Two kinds of pairs escape it. The id 0 marks a free slot, and a slot that is freed keeps its module
and client, so a command 0 is found again after its relay. And an id that was cut when its command
was registered answers for the cut id. `relaysConserved_iff` shows that there is no other way.
-/

namespace DoorSystem

open CLib

namespace Hub

/-! ### The counts -/

/-- The number of relays of one event for the pair `p`. -/
def relayed (p : CStr × ℤ) (h : HubState) (e : HubEv) : ℕ :=
  if (feedbackOf e.words).map CmdWords.pair = some p then (relaysOf (exec h e).2).length else 0

/-- The number of complete COMMAND lines with the pair `p` that one event brings. -/
def commanded (p : CStr × ℤ) (e : HubEv) : ℕ :=
  if (commandOf e.words).map CmdWords.pair = some p then 1 else 0

/-- The relays for `p` during a run. -/
def relayCount (p : CStr × ℤ) : HubState → List HubEv → ℕ
  | _, [] => 0
  | h, e :: es => relayed p h e + relayCount p (step h e) es

/-- The commands with the pair `p` during a run. -/
def commandCount (p : CStr × ℤ) (es : List HubEv) : ℕ := (es.map (commanded p)).sum

/-- **Conservation** on one run of the hub. -/
def RelaysConserved (url : CharBuf 512) (es : List HubEv) : Prop :=
  ∀ p, relayCount p (HubState.initial url) es ≤ commandCount p es

/-- The taken entries that owe a relay for `p`. -/
def owed (p : CStr × ℤ) (g : PendingTable) : ℕ :=
  (Finset.univ.filter (fun i => Matches g p.1 p.2 i)).card

/-! ### One entry -/

theorem matches_update_of_ne {g : PendingTable} {i j : Fin HUB_MAX_PENDING_CMDS} (h : j ≠ i)
    (c : PendingClientCmd) (m : CStr) (n : ℤ) :
    Matches (Function.update g i c) m n j ↔ Matches g m n j := by
  unfold Matches
  rw [Function.update_of_ne h]

theorem matches_update_self (g : PendingTable) (i : Fin HUB_MAX_PENDING_CMDS)
    (c : PendingClientCmd) (m : CStr) (n : ℤ) :
    Matches (Function.update g i c) m n i ↔ c.cmdid = n ∧ c.moduleId.str = m := by
  unfold Matches
  rw [Function.update_self]

/-- Registering a command owes at most one relay more, and only for the id it stores. -/
theorem owed_register (p : CStr × ℤ) (cmdid : ℤ) (m : CStr) (addr : SockAddr) (now : ℤ)
    (g : PendingTable) :
    owed p (registerClientCommand cmdid m addr now g)
      ≤ owed p g + if cmdid = p.2 ∧ m.take 15 = p.1 then 1 else 0 := by
  unfold owed registerClientCommand
  split_ifs with h_new
  · -- every other matching entry was there before
    refine (Finset.card_le_card (t := insert (registerSlot g)
      (Finset.univ.filter (fun i => Matches g p.1 p.2 i))) ?_).trans (Finset.card_insert_le _ _)
    intro j h_j
    rw [Finset.mem_filter] at h_j
    rw [Finset.mem_insert, Finset.mem_filter]
    by_cases h_eq : j = registerSlot g
    · exact Or.inl h_eq
    · exact Or.inr ⟨Finset.mem_univ j, (matches_update_of_ne h_eq _ _ _).mp h_j.2⟩
  · -- the new entry does not match either
    rw [Nat.add_zero]
    refine Finset.card_le_card ?_
    intro j h_j
    rw [Finset.mem_filter] at h_j ⊢
    refine ⟨Finset.mem_univ j, ?_⟩
    by_cases h_eq : j = registerSlot g
    · subst h_eq
      exact absurd ((matches_update_self _ _ _ _ _).mp h_j.2) h_new
    · exact (matches_update_of_ne h_eq _ _ _).mp h_j.2

/-- Clearing an entry owes nothing new, and one relay less for the pair it was found for. -/
theorem owed_clear {p : CStr × ℤ} (h_p : p.2 ≠ 0) (m : CStr) (cmdid : ℤ) (g : PendingTable) :
    owed p (getAndClearClientCmd m cmdid g).1
      + (if (m, cmdid) = p ∧ (getAndClearClientCmd m cmdid g).2 ≠ none then 1 else 0)
      ≤ owed p g := by
  rcases getAndClearClientCmd_cases m cmdid g with ⟨i, h_find, h_eq⟩ | ⟨-, h_eq⟩
  · rw [h_eq]
    -- the cleared entry has the id 0 and matches `p` no longer
    have h_sub : Finset.univ.filter (fun j => Matches (Function.update g i
          { g i with cmdid := 0 }) p.1 p.2 j)
        ⊆ (Finset.univ.filter (fun j => Matches g p.1 p.2 j)).erase i := by
      intro j h_j
      rw [Finset.mem_filter] at h_j
      rw [Finset.mem_erase, Finset.mem_filter]
      -- the cleared entry, or one that is as it was
      by_cases h_ji : j = i
      · subst h_ji
        exact absurd ((matches_update_self _ _ _ _ _).mp h_j.2).1.symm h_p
      · exact ⟨h_ji, Finset.mem_univ j, (matches_update_of_ne h_ji _ _ _).mp h_j.2⟩
    have h_le := Finset.card_le_card h_sub
    split_ifs with h_hit
    · -- it did match before
      have h_mem : i ∈ Finset.univ.filter (fun j => Matches g p.1 p.2 j) := by
        rw [← h_hit.1]
        exact Finset.mem_filter.mpr ⟨Finset.mem_univ i, (findClientCmd_eq_some_iff.mp h_find).1⟩
      calc _ ≤ ((Finset.univ.filter (fun j => Matches g p.1 p.2 j)).erase i).card + 1 :=
            Nat.add_le_add_right h_le 1
        _ = (Finset.univ.filter (fun j => Matches g p.1 p.2 j)).card :=
            Finset.card_erase_add_one h_mem
    · exact h_le.trans Finset.card_erase_le
  · rw [h_eq]
    simp

/-! ### One event -/

/-- Command words that were not cut when they were registered for the pair `p`. -/
def NotCut (p : CStr × ℤ) (e : HubEv) : Prop :=
  ∀ c, commandOf e.words = some c → c.cmdid = p.2 → c.mod.take 15 = p.1 → c.mod = p.1

theorem length_feedbackRelay (f : CmdWords) (client : Option SockAddr) :
    (feedbackRelay f client).length = if client = none then 0 else 1 := by
  cases client with
  | none => rfl
  | some addr => rfl

theorem relayed_of_silent {p : CStr × ℤ} {h : HubState} {e : HubEv}
    (h_out : relaysOf (exec h e).2 = []) : relayed p h e = 0 := by
  unfold relayed
  rw [h_out]
  split_ifs <;> rfl

/-- **Step.** The relays of an event are paid for by an entry or by the event's own command. -/
theorem step_relays {p : CStr × ℤ} (h_p : p.2 ≠ 0) {e : HubEv} (h_cut : NotCut p e)
    (h : HubState) :
    relayed p h e + owed p (step h e).gPendingCmds ≤ owed p h.gPendingCmds + commanded p e := by
  rcases exec_pending_cases h e with ⟨f, h_f, -, h_pend, h_out⟩ |
    ⟨c, tReg, h_c, -, h_pend, h_out⟩ | ⟨-, -, h_pend, h_out⟩
  · -- a FEEDBACK: the entry that is cleared pays for its relay
    unfold relayed
    rw [h_pend, h_out, h_f, length_feedbackRelay]
    have h_clear := owed_clear h_p f.mod f.cmdid h.gPendingCmds
    show (if some (f.mod, f.cmdid) = some p then _ else 0) + _ ≤ _
    by_cases h_pair : (f.mod, f.cmdid) = p
    · rw [if_pos (congrArg some h_pair)]
      -- an entry was found, or nothing is relayed
      by_cases h_client : (getAndClearClientCmd f.mod f.cmdid h.gPendingCmds).2 = none
      · rw [if_pos h_client]
        omega
      · rw [if_pos ⟨h_pair, h_client⟩] at h_clear
        rw [if_neg h_client]
        omega
    · rw [if_neg (fun h_some => h_pair (Option.some.inj h_some))]
      omega
  · -- a COMMAND: the entry that is registered is counted as commanded
    have h_register := owed_register p c.cmdid c.mod e.source tReg h.gPendingCmds
    unfold commanded
    rw [h_pend, relayed_of_silent h_out, h_c]
    show _ ≤ _ + if some (c.mod, c.cmdid) = some p then 1 else 0
    by_cases h_new : c.cmdid = p.2 ∧ c.mod.take 15 = p.1
    · have h_mod : c.mod = p.1 := h_cut c h_c h_new.1 h_new.2
      rw [if_pos h_new] at h_register
      rw [if_pos (by rw [h_mod, h_new.1])]
      omega
    · rw [if_neg h_new] at h_register
      omega
  · rw [h_pend, relayed_of_silent h_out]
    omega

/-- **Run.** -/
theorem relayCount_le {p : CStr × ℤ} (h_p : p.2 ≠ 0) {es : List HubEv}
    (h_cut : ∀ e ∈ es, NotCut p e) (h : HubState) :
    relayCount p h es ≤ owed p h.gPendingCmds + commandCount p es := by
  -- what is owed at the end of an event pays for the rest of the run
  induction es generalizing h with
  | nil => exact Nat.zero_le _
  | cons e es ih =>
    have h_step := step_relays h_p (h_cut e List.mem_cons_self) h
    have h_rest := ih (fun e' h_e' => h_cut e' (List.mem_cons_of_mem _ h_e')) (step h e)
    show relayed p h e + relayCount p (step h e) es ≤ _
    unfold commandCount at h_rest ⊢
    rw [List.map_cons, List.sum_cons]
    omega

/-! ### Pairs that escape -/

theorem hasSlot_of_holds {m : CStr} {g : DoorTable} {i : Fin HUB_MAX_DOORS} (h : Holds g m i) :
    HasSlot m g := by
  unfold HasSlot
  rcases findOrCreateDoor_cases m g with ⟨j, -, h_eq⟩ | ⟨j, -, -, h_eq⟩ | ⟨h_none, -, -⟩
  · rw [h_eq]
    simp
  · rw [h_eq]
    simp
  · exact absurd h_none h.findDoor_ne_none

theorem hasSlot_initial (url : CharBuf 512) (m : CStr) :
    HasSlot m (HubState.initial url).gDoors := by
  unfold HasSlot
  rcases findOrCreateDoor_cases m (HubState.initial url).gDoors with
    ⟨j, -, h_eq⟩ | ⟨j, -, -, h_eq⟩ | ⟨-, h_full, -⟩
  · rw [h_eq]
    simp
  · rw [h_eq]
    simp
  · -- the table is empty
    exact absurd (freeDoor_eq_none h_full 0) Bool.false_ne_true

/-- What stands in the hub after a first command with the words `c`. -/
theorem step_initial_command {url : CharBuf 512} {e : HubEv} {c : CmdWords}
    (h_c : commandOf e.words = some c) :
    Holds (step (HubState.initial url) e).gDoors (c.mod.take 15) 0 ∧
      Matches (step (HubState.initial url) e).gPendingCmds (c.mod.take 15) c.cmdid 0 := by
  obtain ⟨cmdidS, rest, h_words, -⟩ := cmdWords_eq_some h_c
  constructor
  · -- the first slot is taken for the module
    have h_create : (findOrCreateDoor c.mod (HubState.initial url).gDoors).1 0
        = HubDoorStatus.fresh c.mod := by
      have h_none : findDoor c.mod (HubState.initial url).gDoors = none := by
        rw [findDoor_eq_none_iff]
        rintro i ⟨h_known, -⟩
        exact absurd h_known Bool.false_ne_true
      have h_free : freeDoor (HubState.initial url).gDoors = some 0 := rfl
      unfold findOrCreateDoor
      rw [h_none, h_free]
      rfl
    obtain ⟨h_known, h_id⟩ := step_tag_of_words (HubState.initial url) h_words 0
    unfold Holds
    rw [h_known, h_id, h_create]
    exact ⟨rfl, rfl⟩
  · obtain ⟨tReg, h_pend⟩ := step_pending_of_command h_c (hasSlot_initial url c.mod)
    have h_free : registerSlot (HubState.initial url).gPendingCmds = 0 := rfl
    rw [h_pend]
    unfold registerClientCommand
    rw [h_free]
    exact (matches_update_self _ _ _ _ _).mpr ⟨rfl, rfl⟩

/-- A FEEDBACK line whose pair matches the entry 0 is relayed, and clears that entry's id. -/
theorem relayed_of_matches {h : HubState} {e : HubEv} {f : CmdWords}
    (h_f : feedbackOf e.words = some f) (h_slot : HasSlot f.mod h.gDoors)
    (h_match : Matches h.gPendingCmds f.mod f.cmdid 0) :
    relayed f.pair h e = 1 ∧ (step h e).gPendingCmds
      = Function.update h.gPendingCmds 0 { h.gPendingCmds 0 with cmdid := 0 } := by
  -- no entry comes before the entry 0
  have h_find : findClientCmd f.mod f.cmdid h.gPendingCmds = some 0 :=
    findClientCmd_eq_some_iff.mpr ⟨h_match, fun j h_j => absurd h_j (Fin.not_lt_zero j)⟩
  have h_clear : getAndClearClientCmd f.mod f.cmdid h.gPendingCmds
      = (Function.update h.gPendingCmds 0 { h.gPendingCmds 0 with cmdid := 0 },
        some (h.gPendingCmds 0).clientAddr) := by
    unfold getAndClearClientCmd
    rw [h_find]
  unfold relayed
  rcases exec_pending_cases h e with ⟨f', h_f', -, h_pend, h_out⟩ |
    ⟨c, tReg, h_c, -, -, -⟩ | ⟨h_no, -, -, -⟩
  · obtain rfl : f = f' := Option.some.inj (h_f.symm.trans h_f')
    rw [h_pend, h_out, h_f, h_clear, length_feedbackRelay]
    exact ⟨by simp, rfl⟩
  · rw [feedbackOf_of_command h_c] at h_f
    exact absurd h_f (by simp)
  · exact absurd h_slot (h_no f h_f)

/-- A pair that a complete COMMAND line can carry. -/
abbrev CommandPair :=
  {p : CStr × ℤ // ∃ data c, commandOf (lineTokens (datagramLine data)) = some c ∧ c.pair = p}

/-- A pair that a complete FEEDBACK line can carry. -/
abbrev FeedbackPair :=
  {p : CStr × ℤ // ∃ data f, feedbackOf (lineTokens (datagramLine data)) = some f ∧ f.pair = p}

/-- The complete COMMAND lines of the run have pairs in `C`, the complete FEEDBACK lines pairs in
`F`. -/
def PairsIn (C F : Set (CStr × ℤ)) (es : List HubEv) : Prop :=
  ∀ e ∈ es, (∀ c, commandOf e.words = some c → c.pair ∈ C) ∧
    ∀ f, feedbackOf e.words = some f → f.pair ∈ F

/-- Commands with pairs in `C` and answers with pairs in `F` that cannot be relayed unpaid. -/
structure Accountable (C F : Set (CStr × ℤ)) : Prop where
  /-- No answer is for the cut form of a longer id. -/
  uncut : ∀ p ∈ C, HUB_MODULE_ID_LEN ≤ p.1.length → (p.1.take 15, p.2) ∉ F
  /-- No module that answers its commands sends the id 0. -/
  nonzero : ∀ q ∈ F, q.1.length < HUB_MODULE_ID_LEN → q.2 = 0 → ∀ p ∈ C, p.1 = q.1 → p ∉ F

/-! ### Accountable pairs are conserved -/

theorem relayCount_eq_zero {p : CStr × ℤ} {es : List HubEv}
    (h_es : ∀ e ∈ es, ∀ h, relayed p h e = 0) (h : HubState) : relayCount p h es = 0 := by
  induction es generalizing h with
  | nil => rfl
  | cons e es ih =>
    show relayed p h e + relayCount p (step h e) es = 0
    rw [h_es e List.mem_cons_self h, Nat.zero_add]
    exact ih (fun e' h_e' => h_es e' (List.mem_cons_of_mem _ h_e')) _

/-- Without an entry that matches, nothing is relayed. -/
theorem relayed_of_forall_not_matches {p : CStr × ℤ} {h : HubState}
    (h_none : ∀ i, ¬ Matches h.gPendingCmds p.1 p.2 i) (e : HubEv) : relayed p h e = 0 := by
  rcases exec_pending_cases h e with ⟨f, h_f, -, -, h_out⟩ | ⟨c, tReg, -, -, -, h_out⟩ |
    ⟨-, -, -, h_out⟩
  · unfold relayed
    split_ifs with h_pair
    · -- the FEEDBACK is one for `p`, and the search finds no entry
      rw [h_f] at h_pair
      obtain rfl : f.pair = p := Option.some.inj h_pair
      have h_client : (getAndClearClientCmd f.mod f.cmdid h.gPendingCmds).2 = none := by
        rcases getAndClearClientCmd_cases f.mod f.cmdid h.gPendingCmds with
          ⟨i, h_find, -⟩ | ⟨-, h_eq⟩
        · exact absurd (findClientCmd_eq_some_iff.mp h_find).1 (h_none i)
        · rw [h_eq]
      rw [h_out, h_client]
      rfl
    · rfl
  · exact relayed_of_silent h_out
  · exact relayed_of_silent h_out

/-- Nothing is relayed for an id that does not fit. -/
theorem relayed_long {p : CStr × ℤ} (h_p : HUB_MODULE_ID_LEN ≤ p.1.length) (h : HubState)
    (e : HubEv) : relayed p h e = 0 := by
  refine relayed_of_forall_not_matches (fun i h_match => ?_) e
  -- the id of an entry fits in its buffer
  have h_fits := (h.gPendingCmds i).moduleId.fits
  rw [h_match.2] at h_fits
  exact absurd h_p (not_le.mpr h_fits)

theorem relayed_of_not_mem {C F : Set (CStr × ℤ)} {es : List HubEv} (h_es : PairsIn C F es)
    {p : CStr × ℤ} (h_p : p ∉ F) : ∀ e ∈ es, ∀ h, relayed p h e = 0 := by
  intro e h_e h
  unfold relayed
  split_ifs with h_pair
  · obtain ⟨f, h_f, h_eq⟩ := Option.map_eq_some_iff.mp h_pair
    rw [← h_eq] at h_p
    exact absurd ((h_es e h_e).2 f h_f) h_p
  · rfl

/-- The entries of module `m` are those of commands in `C`, with their ids. -/
def EntriesFrom (C : Set (CStr × ℤ)) (m : CStr) (g : PendingTable) : Prop :=
  ∀ i, (g i).moduleId.str = m → ∃ p ∈ C, p.1.take 15 = m ∧ p.2 = (g i).cmdid

/-- A module that sends the id 0 gets no entry that an answer could clear. -/
theorem Accountable.entry {C F : Set (CStr × ℤ)} (h_acc : Accountable C F) {m : CStr}
    (h_m : m.length < HUB_MODULE_ID_LEN) (h_zero : (m, 0) ∈ F) {p : CStr × ℤ} (h_p : p ∈ C)
    (h_take : p.1.take 15 = m) : (m, p.2) ∉ F := by
  by_cases h_long : HUB_MODULE_ID_LEN ≤ p.1.length
  · -- `m` is the cut form of the commanded id
    rw [← h_take]
    exact h_acc.uncut p h_p h_long
  · -- `m` is the commanded id itself
    rw [List.take_of_length_le (Nat.le_of_lt_succ (not_le.mp h_long))] at h_take
    rw [← h_take]
    exact h_acc.nonzero (m, 0) h_zero h_m rfl p h_p h_take

theorem Accountable.entriesFrom_step {C F : Set (CStr × ℤ)} (h_acc : Accountable C F) {m : CStr}
    (h_m : m.length < HUB_MODULE_ID_LEN) (h_zero : (m, 0) ∈ F) {e : HubEv}
    (h_C : ∀ c, commandOf e.words = some c → c.pair ∈ C)
    (h_F : ∀ f, feedbackOf e.words = some f → f.pair ∈ F) {h : HubState}
    (h_from : EntriesFrom C m h.gPendingCmds) : EntriesFrom C m (step h e).gPendingCmds := by
  rcases exec_pending_cases h e with ⟨f, h_f, -, h_pend, -⟩ | ⟨c, tReg, h_c, -, h_pend, -⟩ |
    ⟨-, -, h_pend, -⟩
  · rw [h_pend]
    rcases getAndClearClientCmd_cases f.mod f.cmdid h.gPendingCmds with
      ⟨i, h_find, h_eq⟩ | ⟨-, h_eq⟩
    · obtain ⟨h_id, h_mod⟩ := (findClientCmd_eq_some_iff.mp h_find).1
      rw [h_eq]
      intro j h_j
      by_cases h_ji : j = i
      · subst h_ji
        -- the entry that is cleared is one of `m`, so its answer is not in `F`
        dsimp only at h_j ⊢
        rw [Function.update_self] at h_j
        obtain ⟨p, h_p, h_take, h_cmdid⟩ := h_from j h_j
        have h_not := h_acc.entry h_m h_zero h_p h_take
        rw [h_cmdid, h_id, ← h_j, h_mod] at h_not
        exact absurd (h_F f h_f) h_not
      · dsimp only at h_j ⊢
        rw [Function.update_of_ne h_ji] at h_j ⊢
        exact h_from j h_j
    · rw [h_eq]
      exact h_from
  · rw [h_pend]
    unfold registerClientCommand
    intro j h_j
    by_cases h_ji : j = registerSlot h.gPendingCmds
    · subst h_ji
      rw [Function.update_self] at h_j ⊢
      exact ⟨c.pair, h_C c h_c, h_j, rfl⟩
    · rw [Function.update_of_ne h_ji] at h_j ⊢
      exact h_from j h_j
  · rw [h_pend]
    exact h_from

/-- Nothing is relayed for the id 0. -/
theorem Accountable.relayCount_zero {C F : Set (CStr × ℤ)} (h_acc : Accountable C F) {m : CStr}
    (h_m : m.length < HUB_MODULE_ID_LEN) (h_zero : (m, 0) ∈ F) {es : List HubEv}
    (h_es : PairsIn C F es) {h : HubState} (h_from : EntriesFrom C m h.gPendingCmds) :
    relayCount (m, 0) h es = 0 := by
  induction es generalizing h with
  | nil => rfl
  | cons e es ih =>
    obtain ⟨h_C, h_F⟩ := h_es e List.mem_cons_self
    -- an entry that matches would be one of `m`, whose answer is not in `F`
    have h_now : relayed (m, 0) h e = 0 := by
      refine relayed_of_forall_not_matches (fun i h_match => ?_) e
      obtain ⟨p, h_p, h_take, h_id⟩ := h_from i h_match.2
      have h_not := h_acc.entry h_m h_zero h_p h_take
      rw [h_id, h_match.1] at h_not
      exact h_not h_zero
    show relayed (m, 0) h e + relayCount (m, 0) (step h e) es = 0
    rw [h_now, Nat.zero_add]
    exact ih (fun e' h_e' => h_es e' (List.mem_cons_of_mem _ h_e'))
      (h_acc.entriesFrom_step h_m h_zero h_C h_F h_from)

/-- **Accountable pairs are conserved**, when no command or answer has an empty module. -/
theorem Accountable.relaysConserved {C F : Set (CStr × ℤ)} (h_acc : Accountable C F)
    (h_word : ∀ p ∈ F, p.1 ≠ []) (url : CharBuf 512) {es : List HubEv} (h_es : PairsIn C F es) :
    RelaysConserved url es := by
  rintro ⟨m, cmdid⟩
  -- pairs that cannot be answered: the module does not fit, or no FEEDBACK carries the pair
  by_cases h_long : HUB_MODULE_ID_LEN ≤ m.length
  · rw [relayCount_eq_zero (fun e _ h => relayed_long h_long h e)]
    exact Nat.zero_le _
  by_cases h_mem : (m, cmdid) ∈ F
  swap
  · rw [relayCount_eq_zero (relayed_of_not_mem h_es h_mem)]
    exact Nat.zero_le _
  rw [not_le] at h_long
  by_cases h_ne : cmdid = 0
  · -- the id 0, where entries are not consumed
    subst h_ne
    have h_from : EntriesFrom C m (HubState.initial url).gPendingCmds :=
      fun i h_i => absurd h_i.symm (h_word _ h_mem)
    rw [h_acc.relayCount_zero h_long h_mem h_es h_from]
    exact Nat.zero_le _
  -- all other pairs are counted
  have h_cut : ∀ e ∈ es, NotCut (m, cmdid) e := by
    intro e h_e c h_c h_id h_take
    by_cases h_c_long : HUB_MODULE_ID_LEN ≤ c.mod.length
    · have h_not := h_acc.uncut c.pair ((h_es e h_e).1 c h_c) h_c_long
      change (c.mod.take 15, c.cmdid) ∉ F at h_not
      rw [h_take, h_id] at h_not
      exact absurd h_mem h_not
    · rw [← h_take, List.take_of_length_le (Nat.le_of_lt_succ (not_le.mp h_c_long))]
  have h_le := relayCount_le h_ne h_cut (HubState.initial url)
  -- at the start nothing is owed
  have h_zero : owed (m, cmdid) (HubState.initial url).gPendingCmds = 0 := by
    unfold owed
    rw [Finset.card_eq_zero, Finset.filter_eq_empty_iff]
    rintro i - ⟨h_id, -⟩
    exact h_ne h_id.symm
  rw [h_zero, Nat.zero_add] at h_le
  exact h_le

/-! ### Pairs that are not accountable -/

theorem commanded_of_feedback (p : CStr × ℤ) {e : HubEv} {f : CmdWords}
    (h_f : feedbackOf e.words = some f) : commanded p e = 0 := by
  unfold commanded
  rw [commandOf_of_feedback h_f]
  rfl

/-- A FEEDBACK with the id 0 is relayed on the strength of a command that was answered already. -/
theorem not_relaysConserved_zero (url : CharBuf 512) {dc dp dq : List Char} {c f q : CmdWords}
    (h_c : commandOf (bareDatagram dc).words = some c)
    (h_f : feedbackOf (bareDatagram dp).words = some f) (h_pair : f.pair = c.pair)
    (h_q : feedbackOf (bareDatagram dq).words = some q) (h_mod : q.mod = c.mod)
    (h_zero : q.cmdid = 0) (h_short : c.mod.length < HUB_MODULE_ID_LEN) :
    ¬ RelaysConserved url [bareDatagram dc, bareDatagram dp, bareDatagram dq] := by
  intro h_conserved
  obtain ⟨h_f_mod, h_f_id⟩ : f.mod = c.mod ∧ f.cmdid = c.cmdid := Prod.ext_iff.mp h_pair
  let h₁ := step (HubState.initial url) (bareDatagram dc)
  obtain ⟨h_holds, h_match⟩ : Holds h₁.gDoors _ 0 ∧ Matches h₁.gPendingCmds _ _ 0 :=
    step_initial_command h_c
  rw [List.take_of_length_le (Nat.le_of_lt_succ h_short), ← h_f_mod] at h_holds h_match
  rw [← h_f_id] at h_match
  obtain ⟨h_once, h_pend⟩ := relayed_of_matches h_f (hasSlot_of_holds h_holds) h_match
  -- the freed entry still has the module, and its id is 0
  have h_again : Matches (step h₁ (bareDatagram dp)).gPendingCmds q.mod q.cmdid 0 := by
    rw [h_pend, h_mod, ← h_f_mod]
    exact (matches_update_self _ _ _ _ _).mpr ⟨h_zero.symm, h_match.2⟩
  have h_slot : HasSlot q.mod (step h₁ (bareDatagram dp)).gDoors := by
    rw [h_mod, ← h_f_mod]
    exact hasSlot_of_holds (h_holds.step (bareDatagram dp))
  have h_twice := (relayed_of_matches h_q h_slot h_again).1
  have h_le := h_conserved q.pair
  change _ + (relayed q.pair h₁ (bareDatagram dp)
      + (relayed q.pair (step h₁ (bareDatagram dp)) (bareDatagram dq) + 0))
    ≤ commanded q.pair (bareDatagram dc) + (commanded q.pair (bareDatagram dp)
      + (commanded q.pair (bareDatagram dq) + 0)) at h_le
  rw [h_twice, commanded_of_feedback _ h_f, commanded_of_feedback _ h_q] at h_le
  -- the command counts for `q` only if its own answer does
  have h_paid : commanded q.pair (bareDatagram dc) ≤ relayed q.pair h₁ (bareDatagram dp) := by
    unfold commanded
    rw [h_c]
    split_ifs with h_eq
    · rw [← Option.some.inj h_eq, ← h_pair, h_once]
    · exact Nat.zero_le _
  omega

/-- A FEEDBACK for the cut id is relayed to the client of the long one. -/
theorem not_relaysConserved_cut (url : CharBuf 512) {dc df : List Char} {c f : CmdWords}
    (h_c : commandOf (bareDatagram dc).words = some c)
    (h_f : feedbackOf (bareDatagram df).words = some f)
    (h_long : HUB_MODULE_ID_LEN ≤ c.mod.length) (h_mod : f.mod = c.mod.take 15)
    (h_id : f.cmdid = c.cmdid) :
    ¬ RelaysConserved url [bareDatagram dc, bareDatagram df] := by
  intro h_conserved
  let h₁ := step (HubState.initial url) (bareDatagram dc)
  obtain ⟨h_holds, h_match⟩ : Holds h₁.gDoors _ 0 ∧ Matches h₁.gPendingCmds _ _ 0 :=
    step_initial_command h_c
  rw [← h_mod] at h_holds h_match
  rw [← h_id] at h_match
  have h_once := (relayed_of_matches h_f (hasSlot_of_holds h_holds) h_match).1
  -- the command is one for the long id
  have h_none : commanded f.pair (bareDatagram dc) = 0 := by
    unfold commanded
    rw [h_c]
    refine if_neg (fun h_some => ?_)
    have h_len := congrArg (fun p : CStr × ℤ => p.1.length) (Option.some.inj h_some)
    change c.mod.length = f.mod.length at h_len
    rw [h_mod, List.length_take] at h_len
    have h_sixteen : 16 ≤ c.mod.length := h_long
    omega
  have h_le := h_conserved f.pair
  change _ + (relayed f.pair h₁ (bareDatagram df) + 0)
    ≤ commanded f.pair (bareDatagram dc) + (commanded f.pair (bareDatagram df) + 0) at h_le
  rw [h_once, h_none, commanded_of_feedback _ h_f] at h_le
  omega

theorem pairsIn_of_command {C F : Set (CStr × ℤ)} {e : HubEv} {c : CmdWords}
    (h_c : commandOf e.words = some c) (h_mem : c.pair ∈ C) :
    (∀ c', commandOf e.words = some c' → c'.pair ∈ C) ∧
      ∀ f, feedbackOf e.words = some f → f.pair ∈ F := by
  refine ⟨fun c' h_c' => ?_, fun f h_f => ?_⟩
  · rw [← Option.some.inj (h_c.symm.trans h_c')]
    exact h_mem
  · rw [feedbackOf_of_command h_c] at h_f
    exact absurd h_f (by simp)

theorem pairsIn_of_feedback {C F : Set (CStr × ℤ)} {e : HubEv} {f : CmdWords}
    (h_f : feedbackOf e.words = some f) (h_mem : f.pair ∈ F) :
    (∀ c, commandOf e.words = some c → c.pair ∈ C) ∧
      ∀ f', feedbackOf e.words = some f' → f'.pair ∈ F := by
  refine ⟨fun c h_c => ?_, fun f' h_f' => ?_⟩
  · rw [commandOf_of_feedback h_f] at h_c
    exact absurd h_c (by simp)
  · rw [← Option.some.inj (h_f.symm.trans h_f')]
    exact h_mem

/-- **When relays are conserved.** Let commands carry pairs in `C` and answers pairs in `F`. Every
such run relays at most as often as it was commanded if and only if no answer is for the cut form
of a longer id, and no module that answers its commands sends the id 0. -/
theorem relaysConserved_iff (C : Set CommandPair) (F : Set FeedbackPair) :
    (∀ url es, PairsIn (Subtype.val '' C) (Subtype.val '' F) es → RelaysConserved url es) ↔
      Accountable (Subtype.val '' C) (Subtype.val '' F) := by
  constructor
  · -- a pair that violates the condition gives a run that relays once too often
    intro h_runs
    constructor
    · rintro _ ⟨⟨_, dc, c, h_c, rfl⟩, h_p, rfl⟩ h_long ⟨⟨_, df, f, h_f, rfl⟩, h_q, h_cut⟩
      obtain ⟨h_mod, h_id⟩ := Prod.ext_iff.mp h_cut
      refine not_relaysConserved_cut (CharBuf.zero _) h_c h_f h_long h_mod h_id (h_runs _ _ ?_)
      intro e h_e
      rcases List.mem_pair.mp h_e with rfl | rfl
      · exact pairsIn_of_command h_c ⟨_, h_p, rfl⟩
      · exact pairsIn_of_feedback h_f ⟨_, h_q, rfl⟩
    · rintro _ ⟨⟨_, dq, q, h_q, rfl⟩, h_qF, rfl⟩ h_short h_zero _
        ⟨⟨_, dc, c, h_c, rfl⟩, h_p, rfl⟩ h_mod ⟨⟨_, df, f, h_f, rfl⟩, h_fF, h_pair⟩
      change c.mod = q.mod at h_mod
      change q.mod.length < _ at h_short
      rw [← h_mod] at h_short
      refine not_relaysConserved_zero (CharBuf.zero _) h_c h_f h_pair h_q h_mod.symm h_zero h_short
        (h_runs _ _ ?_)
      intro e h_e
      rcases List.mem_cons.mp h_e with rfl | h_e
      · exact pairsIn_of_command h_c ⟨_, h_p, rfl⟩
      · rcases List.mem_pair.mp h_e with rfl | rfl
        · exact pairsIn_of_feedback h_f ⟨_, h_fF, rfl⟩
        · exact pairsIn_of_feedback h_q ⟨_, h_qF, rfl⟩
  · intro h_acc url es h_es
    -- the module of a FEEDBACK is a word
    refine h_acc.relaysConserved ?_ url h_es
    rintro _ ⟨⟨_, df, f, h_f, rfl⟩, -, rfl⟩
    exact (isText_of_cmdWords h_f).1.1.1

/-- A command without a numeric id and two answers to it. -/
theorem not_relaysConserved_nonnumeric :
    ¬ RelaysConserved (CharBuf.zero _)
      [bareDatagram "D1 COMMAND x D0 LOCK\n".toList, bareDatagram "D1 FEEDBACK 0 D0 LOCK\n".toList,
        bareDatagram "D1 FEEDBACK 0 D0 LOCK\n".toList] :=
  not_relaysConserved_zero _ (c := ⟨"D1".toList, 0, "D0".toList, "LOCK".toList⟩)
    (f := ⟨"D1".toList, 0, "D0".toList, "LOCK".toList⟩)
    (q := ⟨"D1".toList, 0, "D0".toList, "LOCK".toList⟩) (by decide +kernel) (by decide +kernel)
    rfl (by decide +kernel) rfl rfl (by decide)

end Hub

end DoorSystem
