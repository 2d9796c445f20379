import DoorSystem.Hub.Log
import DoorSystem.Hub.Offline

/-!
# The offline flag and its two events

`check_offline_modules` notes an event when it turns the flag of a slot, so the notes on one slot
(`slotJournal`) are OFFLINE and ONLINE in turn. The parity of their number is the flag
(`FlagInv`): lines never touch it, and a slot that is taken starts without it.
`offline_online_alternate` also says that these notes are all SYSTEM texts that reach the history.
-/

namespace DoorSystem

open CLib

namespace Hub

/-! ### The notes on one slot -/

/-- What follows the module id in the text of a SYSTEM event. -/
def systemText (online : Bool) : CStr :=
  if online then " EVENT SYSTEM ONLINE\n".toList else " EVENT SYSTEM OFFLINE\n".toList

/-- The text of a SYSTEM event, of whatever module. -/
def IsSystemText (line : CStr) : Prop :=
  systemText false <:+ line ∨ systemText true <:+ line

instance (line : CStr) : Decidable (IsSystemText line) :=
  inferInstanceAs (Decidable (_ ∨ _))

/-- The notes of an event on slot `i`. -/
def slotNotes (i : Fin HUB_MAX_DOORS) (h : HubState) : HubEv → List HistoryCall
  | .check now => (slotCall now (h.gDoors i)).toList
  | _ => []

/-- The notes of a run on slot `i`. -/
def slotJournal (i : Fin HUB_MAX_DOORS) : HubState → List HubEv → List HistoryCall
  | _, [] => []
  | h, e :: es => slotNotes i h e ++ slotJournal i (step h e) es

theorem slotJournal_append (i : Fin HUB_MAX_DOORS) (h : HubState) (es es' : List HubEv) :
    slotJournal i h (es ++ es') = slotJournal i h es ++ slotJournal i (run step h es) es' := by
  induction es generalizing h with
  | nil => rfl
  | cons e es ih =>
    show slotNotes i h e ++ slotJournal i (step h e) (es ++ es') = _
    rw [ih, ← List.append_assoc]
    rfl

theorem slotJournal_concat (i : Fin HUB_MAX_DOORS) (url : CharBuf 512) (es : List HubEv)
    (e : HubEv) :
    slotJournal i (HubState.initial url) (es ++ [e])
      = slotJournal i (HubState.initial url) es ++ slotNotes i (reached url es) e := by
  rw [slotJournal_append]
  show _ ++ (slotNotes i (reached url es) e ++ []) = _
  rw [List.append_nil]

/-- The flag of slot `i` and its events in a run that starts with `hub_udp_init`. -/
structure Alternates (url : CharBuf 512) (es : List HubEv) (i : Fin HUB_MAX_DOORS) : Prop where
  /-- The events are OFFLINE, ONLINE, OFFLINE and so on, each with the id of the slot. -/
  texts : ∀ k c, (slotJournal i (HubState.initial url) es)[k]? = some c →
    c.event.moduleId.str = ((reached url es).gDoors i).moduleId.str ∧
      c.event.line.str = ((reached url es).gDoors i).moduleId.str ++ systemText (k % 2 = 1)
  /-- One event for each flip of the flag. -/
  flips : ∀ pre e post, es = pre ++ e :: post →
    (slotNotes i (reached url pre) e).length =
      if ((reached url (pre ++ [e])).gDoors i).offline = ((reached url pre).gDoors i).offline
      then 0 else 1
  /-- The flag after a check. -/
  checked : ∀ pre now post, es = pre ++ .check now :: post →
    ((reached url pre).gDoors i).known = true →
    ((reached url (pre ++ [.check now])).gDoors i).offline = decide (HUB_OFFLINE_TIMEOUT_MS
      < now - ((reached url (pre ++ [.check now])).gDoors i).lastHeartbeatMs)

/-- The SYSTEM texts that reach the history are those of the slots. -/
def SystemTextsOfSlots (url : CharBuf 512) (es : List HubEv) : Prop :=
  ∀ pre e post, es = pre ++ e :: post →
    (historyCalls (reached url pre) e).filter (fun c => IsSystemText c.event.line.str)
      = (List.finRange HUB_MAX_DOORS).flatMap (fun i => slotNotes i (reached url pre) e)

/-! ### What one event does to a flag -/

/-- A slot that is not in use has no flag. -/
def FreeUnflagged (g : DoorTable) : Prop := ∀ i, (g i).known = false → (g i).offline = false

/-- A line never touches a flag. -/
theorem lineDoors_offline (mod type : CStr) (args : List CStr) (src : SockAddr) (t : ℤ)
    {g : DoorTable} (h_free : FreeUnflagged g) (i : Fin HUB_MAX_DOORS) :
    (lineDoors mod type args src t g i).offline = (g i).offline := by
  rw [(lineDoors_stamps mod type args src t g i).2]
  rcases findOrCreateDoor_stamps mod g i with h_same | ⟨h_unknown, -, h_flag⟩
  · rw [h_same]
  · rw [h_flag, h_free i h_unknown]

theorem step_offline_of_datagram {h : HubState} (h_free : FreeUnflagged h.gDoors)
    (data : List Char) (src : SockAddr) (t tReg : ℤ) (i : Fin HUB_MAX_DOORS) :
    ((step h (.datagram data src t tReg)).gDoors i).offline = (h.gDoors i).offline := by
  rcases words_cases (lineTokens (datagramLine data)) with ⟨mod, type, args, h_words⟩ | h_words
  · rw [step_datagram_gDoors h_words]
    exact lineDoors_offline mod type args src t h_free i
  · rw [step_datagram_short h_words]

/-- The flag that the check leaves. -/
theorem checkedStatus_offline (now : ℤ) {s : HubDoorStatus} (h_known : s.known = true) :
    (checkedStatus now s).offline = decide (Silent now s) := by
  unfold checkedStatus
  rw [if_neg (by simp [h_known])]
  by_cases h_silent : Silent now s
  · cases h_flag : s.offline <;> simp [h_silent, h_flag]
  · cases h_flag : s.offline <;> simp [h_silent, h_flag]

theorem checkedStatus_of_free (now : ℤ) {s : HubDoorStatus} (h_free : s.known = false) :
    checkedStatus now s = s := if_pos h_free

/-- The note of the check names the new value of the flag. -/
theorem slotCall_cases (now : ℤ) (s : HubDoorStatus) :
    slotCall now s = none ∧ (checkedStatus now s).offline = s.offline ∨
    ∃ c, slotCall now s = some c ∧ s.known = true ∧
      (checkedStatus now s).offline = !s.offline ∧ c.event.moduleId.str = s.moduleId.str ∧
      c.event.line.str = s.moduleId.str ++ systemText s.offline := by
  have h_shown := slotCall_shown now s
  unfold flipLog at h_shown
  by_cases h_same : (checkedStatus now s).offline = s.offline
  · rw [if_pos h_same] at h_shown
    exact Or.inl ⟨Option.map_eq_none_iff.mp h_shown, h_same⟩
  · right
    have h_known : s.known = true := by
      by_contra h_unknown
      rw [checkedStatus_of_free now (by simpa using h_unknown)] at h_same
      exact h_same rfl
    have h_flip : (checkedStatus now s).offline = !s.offline := by
      simpa [Bool.eq_not_iff] using h_same
    have h_id : s.moduleId.str.take 15 = s.moduleId.str :=
      List.take_of_length_le (Nat.le_of_lt_succ s.moduleId.fits)
    -- the two texts, by the new value
    have h_entry : (slotCall now s).map (fun c => c.event.shown)
        = some (now, s.moduleId.str, s.moduleId.str ++ systemText s.offline) := by
      rw [h_shown, if_neg h_same, h_flip]
      cases s.offline
      · rw [if_pos (by simp), Option.map_some, LogEntry.shown, h_id]
        rfl
      · rw [if_neg (by simp), Option.map_some, LogEntry.shown, h_id]
        rfl
    obtain ⟨c, h_c, h_text⟩ := Option.map_eq_some_iff.mp h_entry
    obtain ⟨-, h_mod, h_line⟩ := Prod.mk.injEq .. ▸ Prod.mk.injEq .. ▸ h_text
    exact ⟨c, h_c, h_known, h_flip, h_mod, h_line⟩

/-- **Step.** An event leaves the flag of a slot and notes nothing about it, or turns the flag and
notes that. -/
theorem slotNotes_cases {h : HubState} (h_free : FreeUnflagged h.gDoors) (e : HubEv)
    (i : Fin HUB_MAX_DOORS) :
    slotNotes i h e = [] ∧ ((step h e).gDoors i).offline = (h.gDoors i).offline ∨
    ∃ c, slotNotes i h e = [c] ∧ (h.gDoors i).known = true ∧
      ((step h e).gDoors i).offline = !(h.gDoors i).offline ∧
      c.event.moduleId.str = (h.gDoors i).moduleId.str ∧
      c.event.line.str = (h.gDoors i).moduleId.str ++ systemText (h.gDoors i).offline := by
  cases e with
  | datagram data src t tReg =>
    exact Or.inl ⟨rfl, step_offline_of_datagram h_free data src t tReg i⟩
  | check now =>
    rw [step_check_gDoors]
    rcases slotCall_cases now (h.gDoors i) with ⟨h_none, h_same⟩ | ⟨c, h_c, h_rest⟩
    · exact Or.inl ⟨by rw [slotNotes, h_none]; rfl, h_same⟩
    · exact Or.inr ⟨c, by rw [slotNotes, h_c]; rfl, h_rest⟩
  | alloc => exact Or.inl ⟨rfl, rfl⟩

theorem FreeUnflagged.step {h : HubState} (h_free : FreeUnflagged h.gDoors) (e : HubEv) :
    FreeUnflagged (Hub.step h e).gDoors := by
  intro i h_i
  have h_before := free_of_step h_i
  rcases slotNotes_cases h_free e i with ⟨-, h_same⟩ | ⟨-, -, h_known, -⟩
  · rw [h_same, h_free i h_before]
  · rw [h_before] at h_known
    exact absurd h_known (by simp)

theorem freeUnflagged_reached (url : CharBuf 512) (es : List HubEv) :
    FreeUnflagged (reached url es).gDoors :=
  run_invariant (fun h : HubState => FreeUnflagged h.gDoors) (fun _ e h_free => h_free.step e)
    (fun _ _ => rfl) es

/-! ### The invariant -/

/-- The notes on a slot so far, and its flag. -/
structure FlagInv (s : HubDoorStatus) (notes : List HistoryCall) : Prop where
  parity : s.offline = decide (notes.length % 2 = 1)
  /-- Only a slot in use has notes, so its id does not change any more. -/
  known : notes ≠ [] → s.known = true
  texts : ∀ k c, notes[k]? = some c → c.event.moduleId.str = s.moduleId.str ∧
    c.event.line.str = s.moduleId.str ++ systemText (k % 2 = 1)

theorem FlagInv.step {h : HubState} (h_free : FreeUnflagged h.gDoors) {i : Fin HUB_MAX_DOORS}
    {notes : List HistoryCall} (inv : FlagInv (h.gDoors i) notes) (e : HubEv) :
    FlagInv ((Hub.step h e).gDoors i) (notes ++ slotNotes i h e) := by
  -- a slot in use stays in use under its id
  have h_kept : (h.gDoors i).known = true →
      ((Hub.step h e).gDoors i).known = true ∧
        ((Hub.step h e).gDoors i).moduleId.str = (h.gDoors i).moduleId.str :=
    fun h_known => Holds.step ⟨h_known, rfl⟩ e
  rcases slotNotes_cases h_free e i with ⟨h_none, h_same⟩ | ⟨c, h_c, h_known, h_flip, h_id, h_text⟩
  · rw [h_none, List.append_nil]
    refine ⟨h_same.trans inv.parity, fun h_some => (h_kept (inv.known h_some)).1, ?_⟩
    intro k c h_k
    have h_some : notes ≠ [] := List.ne_nil_of_mem (List.mem_of_getElem? h_k)
    rw [(h_kept (inv.known h_some)).2]
    exact inv.texts k c h_k
  · obtain ⟨h_known', h_id'⟩ := h_kept h_known
    rw [h_c]
    refine ⟨?_, fun _ => h_known', ?_⟩
    · rw [h_flip, inv.parity, List.length_append, List.length_singleton, ← decide_not]
      exact decide_eq_decide.mpr (by omega)
    · intro k c' h_k
      rw [h_id']
      rcases lt_trichotomy k notes.length with h_old | rfl | h_out
      · rw [List.getElem?_append_left h_old] at h_k
        exact inv.texts k c' h_k
      · -- the new note, whose place is the flag's parity
        rw [List.getElem?_concat_length] at h_k
        obtain rfl := Option.some.inj h_k
        rw [← inv.parity]
        exact ⟨h_id, h_text⟩
      · rw [List.getElem?_eq_none (by rw [List.length_append, List.length_singleton]; omega)]
          at h_k
        exact absurd h_k (by simp)

theorem flagInv_reached (url : CharBuf 512) (es : List HubEv) (i : Fin HUB_MAX_DOORS) :
    FlagInv ((reached url es).gDoors i) (slotJournal i (HubState.initial url) es) := by
  induction es using List.reverseRecOn with
  | nil => exact ⟨rfl, fun h => absurd rfl h, fun k c h_k => absurd h_k (by simp [slotJournal])⟩
  | append_singleton es e ih =>
    rw [reached_concat, slotJournal_concat]
    exact ih.step (freeUnflagged_reached url es) e

/-! ### SYSTEM texts -/

theorem newline_mem_of_isSystemText {line : CStr} (h_line : IsSystemText line) : '\n' ∈ line := by
  rcases h_line with h_suffix | h_suffix
  · exact h_suffix.subset (by decide)
  · exact h_suffix.subset (by decide)

theorem isSystemText_of_slotCall {now : ℤ} {s : HubDoorStatus} {c : HistoryCall}
    (h_c : slotCall now s = some c) : IsSystemText c.event.line.str := by
  rcases slotCall_cases now s with ⟨h_none, -⟩ | ⟨c', h_c', -, -, -, h_text⟩
  · rw [h_none] at h_c
    exact absurd h_c (by simp)
  · rw [h_c'] at h_c
    obtain rfl := Option.some.inj h_c
    rw [h_text]
    cases s.offline
    · exact Or.inl (List.suffix_append _ _)
    · exact Or.inr (List.suffix_append _ _)

/-- Lines note no SYSTEM texts, and the check notes nothing else. -/
theorem filter_historyCalls (h : HubState) (e : HubEv) :
    (historyCalls h e).filter (fun c => IsSystemText c.event.line.str)
      = (List.finRange HUB_MAX_DOORS).flatMap (fun i => slotNotes i h e) := by
  cases e with
  | datagram data src t tReg =>
    -- lines keep no newline, which the texts of the check end in
    have h_none : (List.finRange HUB_MAX_DOORS).flatMap
        (fun i => slotNotes i h (.datagram data src t tReg)) = [] := by simp [slotNotes]
    rw [h_none]
    refine List.filter_eq_nil_iff.mpr (fun c h_c h_system => ?_)
    exact no_newline_of_mem_datagram h_c (newline_mem_of_isSystemText (of_decide_eq_true h_system))
  | check now =>
    have h_all : ∀ c ∈ historyCalls h (.check now), IsSystemText c.event.line.str := by
      -- all entries of a check are such texts
      intro c h_c
      obtain ⟨i, -, h_call⟩ := List.mem_filterMap.mp h_c
      exact isSystemText_of_slotCall h_call
    rw [List.filter_eq_self.mpr (fun c h_c => decide_eq_true (h_all c h_c))]
    exact List.filterMap_eq_flatMap_toList _ _
  | alloc =>
    show [] = _
    simp [slotNotes]

/-! ### The result -/

/-- **OFFLINE and ONLINE alternate**, for every slot and every sequence of datagrams and checks. -/
theorem offline_online_alternate (url : CharBuf 512) (es : List HubEv) :
    (∀ i, Alternates url es i) ∧ SystemTextsOfSlots url es := by
  refine ⟨fun i => ⟨(flagInv_reached url es i).texts, ?_, ?_⟩, ?_⟩
  · intro pre e post _
    rw [reached_concat]
    rcases slotNotes_cases (freeUnflagged_reached url pre) e i with
      ⟨h_none, h_same⟩ | ⟨c, h_c, -, h_flip, -⟩
    · rw [h_none, h_same, if_pos rfl]
      rfl
    · rw [h_c, h_flip, if_neg (by cases ((reached url pre).gDoors i).offline <;> decide)]
      rfl
  · intro pre now post _ h_known
    rw [reached_concat, step_check_gDoors, checkedStatus_offline now h_known]
    -- the check leaves the heartbeat stamp
    have h_stamp : (checkedStatus now ((reached url pre).gDoors i)).lastHeartbeatMs
        = ((reached url pre).gDoors i).lastHeartbeatMs := by
      unfold checkedStatus
      split_ifs <;> rfl
    rw [h_stamp]
    rfl
  · intro pre e post _
    exact filter_historyCalls (reached url pre) e

end Hub

end DoorSystem
