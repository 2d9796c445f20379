import DoorSystem.Hub.Effects
import DoorSystem.Hub.History

/-!
# What one event notes in the history

`historyCalls h e` are the `add_history` calls of the event `e`: one or two for a line, and one for
every slot that the offline check finds changed. `step_gHistory` says that the ring takes these
calls and no others, so that the ring represents the journal of the run (`represents_journal`) and
`hub_udp_get_history` reads the journal's end.

`offline_recorded_iff` singles out the OFFLINE events: each of them comes from the check, and from a
slot that is taken, not yet offline, and silent for too long.
-/

namespace DoorSystem

open CLib

namespace Hub

/-! ### The calls of one event -/

/-- The second note of a complete FEEDBACK line. -/
def feedbackCalls (mod type : CStr) (args : List CStr) (t : ℤ) : List HistoryCall :=
  if type = "FEEDBACK".toList then
    match args with
    | cmdidS :: target :: action :: _ =>
      [⟨mod, (snprintf HUB_LINE_LEN
        (spaced ["FEEDBACK".toList, fmtInt (atoi cmdidS), target, action])).str, t⟩]
    | _ => []
  else []

/-- The notes of a line: module and type, or that the table is full. -/
def lineCalls (mod type : CStr) (args : List CStr) (t : ℤ) (g : DoorTable) : List HistoryCall :=
  match findOrCreateDoor mod g with
  | (_, none) => [⟨mod, "<NO-STATE> (untracked)".toList, t⟩]
  | (_, some _) =>
    ⟨mod, (snprintf HUB_LINE_LEN (spaced [mod, type])).str, t⟩ :: feedbackCalls mod type args t

/-- A slot has been silent for longer than the timeout. -/
def Silent (now : ℤ) (s : HubDoorStatus) : Prop := HUB_OFFLINE_TIMEOUT_MS < now - s.lastHeartbeatMs

instance (now : ℤ) (s : HubDoorStatus) : Decidable (Silent now s) :=
  inferInstanceAs (Decidable (_ < _))

/-- A slot as the check leaves it. -/
def checkedStatus (now : ℤ) (s : HubDoorStatus) : HubDoorStatus :=
  if s.known = false then s
  else if Silent now s ∧ s.offline = false then { s with offline := true, lastOnlineMs := now }
  else if ¬ Silent now s ∧ s.offline = true then { s with offline := false }
  else s

/-- The text of an OFFLINE event. -/
def offlineText (m : CStr) : CStr := (snprintf 256 (m ++ " EVENT SYSTEM OFFLINE\n".toList)).str

/-- The text of an ONLINE event. -/
def onlineText (m : CStr) : CStr := (snprintf 256 (m ++ " EVENT SYSTEM ONLINE\n".toList)).str

/-- The note of the check on a slot. -/
def slotCall (now : ℤ) (s : HubDoorStatus) : Option HistoryCall :=
  if s.known = false then none
  else if Silent now s ∧ s.offline = false then
    some ⟨s.moduleId.str, offlineText s.moduleId.str, now⟩
  else if ¬ Silent now s ∧ s.offline = true then
    some ⟨s.moduleId.str, onlineText s.moduleId.str, now⟩
  else none

/-- The `add_history` calls of an event. -/
def historyCalls (h : HubState) : HubEv → List HistoryCall
  | .datagram data _ t _ =>
    match lineTokens (datagramLine data) with
    | mod :: type :: args => lineCalls mod type args t h.gDoors
    | _ => []
  | .check now => (List.finRange HUB_MAX_DOORS).filterMap (fun i => slotCall now (h.gDoors i))
  | .alloc => []

/-! ### The ring takes these calls -/

theorem addHistories_nil (g : History) : addHistories g [] = g := rfl

theorem addHistories_append (g : History) (cs cs' : List HistoryCall) :
    addHistories g (cs ++ cs') = addHistories (addHistories g cs) cs' := run_append _ _ _ _

theorem commandBranch_gHistory (mod : CStr) (args : List CStr) (raw : CStr) (src : SockAddr)
    (tReg : ℤ) (h : HubState) :
    (commandBranch mod args raw src tReg h).1.gHistory = h.gHistory := by
  unfold commandBranch
  split <;> rfl

theorem feedbackBranch_gHistory (mod : CStr) (args : List CStr) (d : Fin HUB_MAX_DOORS) (t : ℤ)
    (h : HubState) :
    (feedbackBranch mod args d t h).1.gHistory
      = addHistories h.gHistory (feedbackCalls mod "FEEDBACK".toList args t) := by
  unfold feedbackBranch feedbackCalls
  rw [if_pos rfl]
  match args with
  | _ :: _ :: _ :: _ => rfl
  | [] => rfl
  | [_] => rfl
  | [_, _] => rfl

theorem dispatchLine_gHistory (mod type : CStr) (args : List CStr) (raw : CStr) (src : SockAddr)
    (t tReg : ℤ) (d : Fin HUB_MAX_DOORS) (histLine : CharBuf HUB_LINE_LEN) (h : HubState) :
    (dispatchLine mod type args raw src t tReg d histLine h).1.gHistory
      = addHistories h.gHistory (feedbackCalls mod type args t) := by
  by_cases h_fb : type = "FEEDBACK".toList
  · subst h_fb
    unfold dispatchLine
    rw [if_neg (by decide), if_neg (by decide), if_pos rfl]
    exact feedbackBranch_gHistory mod args d t h
  · -- no other type notes anything more
    have h_none : feedbackCalls mod type args t = [] := if_neg h_fb
    rw [h_none, addHistories_nil]
    unfold dispatchLine
    rw [if_neg h_fb]
    split_ifs
    · rfl
    · rfl
    · exact commandBranch_gHistory mod args raw src tReg h
    · rfl

theorem handleLine_gHistory {line : CStr} {mod type : CStr} {args : List CStr}
    (h_words : lineTokens line = mod :: type :: args) (raw : CStr) (src : SockAddr) (t tReg : ℤ)
    (h : HubState) :
    (handleLine line raw src t tReg h).1.gHistory
      = addHistories h.gHistory (lineCalls mod type args t h.gDoors) := by
  unfold handleLine lineCalls
  rw [h_words]
  dsimp only
  rcases findOrCreateDoor mod h.gDoors with ⟨g', _ | d⟩
  · rfl
  · dsimp only
    rw [dispatchLine_gHistory]
    rfl

/-- One slot of the check. -/
theorem checkOfflineDoor_eq (now : ℤ) (i : Fin HUB_MAX_DOORS) (h : HubState) :
    (checkOfflineDoor now i h).1.gDoors
        = Function.update h.gDoors i (checkedStatus now (h.gDoors i)) ∧
      (checkOfflineDoor now i h).1.gHistory
        = addHistories h.gHistory (slotCall now (h.gDoors i)).toList := by
  unfold checkOfflineDoor checkedStatus slotCall
  dsimp only
  by_cases h_known : (h.gDoors i).known = true
  · -- the tests of the source are on Booleans, those of the spec on propositions
    have h_taken : ¬ (!(h.gDoors i).known) = true := by simp [h_known]
    have h_taken' : ¬ (h.gDoors i).known = false := by simp [h_known]
    have h_down : (decide (HUB_OFFLINE_TIMEOUT_MS < now - (h.gDoors i).lastHeartbeatMs)
        && !(h.gDoors i).offline) = true ↔
        Silent now (h.gDoors i) ∧ (h.gDoors i).offline = false := by
      simp [Silent]
    have h_up : ((!decide (HUB_OFFLINE_TIMEOUT_MS < now - (h.gDoors i).lastHeartbeatMs))
        && (h.gDoors i).offline) = true ↔
        ¬ Silent now (h.gDoors i) ∧ (h.gDoors i).offline = true := by
      simp [Silent]
    simp only [if_neg h_taken, if_neg h_taken', h_down, h_up]
    split_ifs
    · exact ⟨rfl, rfl⟩
    · exact ⟨rfl, rfl⟩
    · exact ⟨(Function.update_eq_self _ _).symm, rfl⟩
  · -- a slot that is not in use is skipped
    have h_free : (!(h.gDoors i).known) = true := by simp [h_known]
    have h_free' : (h.gDoors i).known = false := by simp [h_known]
    simp only [if_pos h_free, if_pos h_free']
    exact ⟨(Function.update_eq_self _ _).symm, rfl⟩

/-- The loop of the check, over distinct slots. -/
theorem checkOfflineLoop_eq (now : ℤ) {is : List (Fin HUB_MAX_DOORS)} (h_is : is.Nodup)
    (h : HubState) :
    (∀ i, (checkOfflineLoop now is h).1.gDoors i
        = if i ∈ is then checkedStatus now (h.gDoors i) else h.gDoors i) ∧
      (checkOfflineLoop now is h).1.gHistory
        = addHistories h.gHistory (is.filterMap (fun i => slotCall now (h.gDoors i))) := by
  induction is generalizing h with
  | nil => exact ⟨fun i => (if_neg List.not_mem_nil).symm, rfl⟩
  | cons j is ih =>
    obtain ⟨h_j, h_rest⟩ := List.nodup_cons.mp h_is
    obtain ⟨h_doors, h_hist⟩ := checkOfflineDoor_eq now j h
    obtain ⟨h_doors', h_hist'⟩ := ih h_rest (checkOfflineDoor now j h).1
    -- the first slot is none of the others, which are still as they were
    have h_other : ∀ i ∈ is, (checkOfflineDoor now j h).1.gDoors i = h.gDoors i := by
      intro i h_i
      rw [h_doors]
      refine Function.update_of_ne ?_ _ _
      rintro rfl
      exact h_j h_i
    unfold checkOfflineLoop
    constructor
    · intro i
      show (checkOfflineLoop now is (checkOfflineDoor now j h).1).1.gDoors i = _
      rw [h_doors']
      by_cases h_i : i ∈ is
      · rw [if_pos h_i, if_pos (List.mem_cons_of_mem _ h_i), h_other i h_i]
      · rw [if_neg h_i, h_doors]
        by_cases h_ij : i = j
        · subst h_ij
          rw [Function.update_self, if_pos List.mem_cons_self]
        · rw [Function.update_of_ne h_ij, if_neg (by simp [h_ij, h_i])]
    · show (checkOfflineLoop now is (checkOfflineDoor now j h).1).1.gHistory = _
      -- the notes on the others are those on the table before the check
      have h_calls : is.filterMap (fun i => slotCall now ((checkOfflineDoor now j h).1.gDoors i))
          = is.filterMap (fun i => slotCall now (h.gDoors i)) :=
        List.filterMap_congr (fun i h_i => by rw [h_other i h_i])
      rw [h_hist', h_hist, h_calls, ← addHistories_append]
      rw [List.filterMap_cons]
      cases slotCall now (h.gDoors j) <;> rfl

/-- **The check**, slot by slot. -/
theorem step_check_gDoors (h : HubState) (now : ℤ) (i : Fin HUB_MAX_DOORS) :
    (step h (.check now)).gDoors i = checkedStatus now (h.gDoors i) := by
  have h_loop := (checkOfflineLoop_eq now (List.nodup_finRange HUB_MAX_DOORS) h).1 i
  rw [if_pos (List.mem_finRange i)] at h_loop
  exact h_loop

/-- **The history of one event.** -/
theorem step_gHistory (h : HubState) (e : HubEv) :
    (step h e).gHistory = addHistories h.gHistory (historyCalls h e) := by
  cases e with
  | datagram data src t tReg =>
    show (receiveDatagram data src t tReg h).1.gHistory = _
    rw [receiveDatagram_eq]
    unfold historyCalls
    dsimp only
    split
    · next h_words => exact handleLine_gHistory h_words _ _ _ _ _
    · next h_words =>
      rw [handleLine_short h_words]
      rfl
  | check now => exact (checkOfflineLoop_eq now (List.nodup_finRange _) h).2
  | alloc => rfl

/-! ### The journal of a run -/

/-- The `add_history` calls of a run. -/
def journal : HubState → List HubEv → List HistoryCall
  | _, [] => []
  | h, e :: es => historyCalls h e ++ journal (step h e) es

theorem run_gHistory (h : HubState) (es : List HubEv) :
    (run step h es).gHistory = addHistories h.gHistory (journal h es) := by
  induction es generalizing h with
  | nil => rfl
  | cons e es ih =>
    rw [run_cons, ih, step_gHistory, ← addHistories_append]
    rfl

/-- **The ring is the journal** of the run, as far as it reaches back. -/
theorem represents_journal (url : CharBuf 512) (es : List HubEv) :
    (reached url es).gHistory.Represents
      ((journal (HubState.initial url) es).map HistoryCall.event) := by
  unfold reached
  rw [run_gHistory]
  exact represents_initial url _

/-! ### OFFLINE events -/

/-- The OFFLINE event of the module `m` at the time `t`. -/
def offlineEvent (m : CStr) (t : ℤ) : HubEvent := (HistoryCall.mk m (offlineText m) t).event

/-- The check at the time `now` takes the slot for silent, and has not done so before. -/
def GoesOffline (now : ℤ) (s : HubDoorStatus) : Prop :=
  s.known = true ∧ s.offline = false ∧ Silent now s

instance (now : ℤ) (s : HubDoorStatus) : Decidable (GoesOffline now s) :=
  inferInstanceAs (Decidable (_ ∧ _))

/-- The text of an OFFLINE event is not cut. -/
theorem offlineEvent_line {m : CStr} (h_m : m.length ≤ 15) (t : ℤ) :
    (offlineEvent m t).line.str = m ++ " EVENT SYSTEM OFFLINE\n".toList := by
  have h_len : (m ++ " EVENT SYSTEM OFFLINE\n".toList).length < 256 := by
    have h_text : (" EVENT SYSTEM OFFLINE\n".toList).length = 22 := by decide
    rw [List.length_append]
    omega
  have h_text : offlineText m = m ++ " EVENT SYSTEM OFFLINE\n".toList := snprintf_of_fits h_len
  show (snprintf HUB_LINE_LEN (offlineText m)).str = _
  rw [h_text]
  exact snprintf_of_fits h_len

/-- The text of an ONLINE event is another one. -/
theorem onlineText_ne {m m' : CStr} (h_m : m.length ≤ 15) :
    (snprintf HUB_LINE_LEN (onlineText m)).str ≠ m' ++ " EVENT SYSTEM OFFLINE\n".toList := by
  have h_len : (m ++ " EVENT SYSTEM ONLINE\n".toList).length < 256 := by
    have h_text : (" EVENT SYSTEM ONLINE\n".toList).length = 21 := by decide
    rw [List.length_append]
    omega
  have h_text : onlineText m = m ++ " EVENT SYSTEM ONLINE\n".toList := snprintf_of_fits h_len
  rw [h_text, snprintf_of_fits h_len]
  intro h_eq
  -- the last six characters are different
  have h_end := congrArg (fun l : List Char => l.reverse.take 6) h_eq
  simp only [List.reverse_append] at h_end
  rw [List.take_append_of_le_length (by decide), List.take_append_of_le_length (by decide)] at h_end
  exact absurd h_end (by decide)

/-- A note is an OFFLINE event exactly when its slot goes offline. -/
theorem slotCall_offline_iff {now : ℤ} {s : HubDoorStatus} {m : CStr} (h_m : m.length ≤ 15)
    (t : ℤ) :
    (∃ c, slotCall now s = some c ∧ c.event = offlineEvent m t) ↔
      GoesOffline now s ∧ s.moduleId.str = m ∧ now = t := by
  have h_fits : s.moduleId.str.length ≤ 15 := Nat.le_of_lt_succ s.moduleId.fits
  constructor
  · rintro ⟨c, h_c, h_event⟩
    unfold slotCall at h_c
    split_ifs at h_c with h_free h_down h_up
    · -- the slot goes offline, and the event names it
      obtain rfl := Option.some.inj h_c
      have h_time : now = t := congrArg HubEvent.timestampMs h_event
      -- ids of 15 characters are stored whole, so equal notes are about equal ids
      have h_id := congrArg (fun e : HubEvent => e.moduleId.str) h_event
      change (snprintf HUB_MODULE_ID_LEN s.moduleId.str).str
        = (snprintf HUB_MODULE_ID_LEN m).str at h_id
      rw [snprintf_of_fits (Nat.lt_succ_of_le h_fits), snprintf_of_fits (Nat.lt_succ_of_le h_m)]
        at h_id
      exact ⟨⟨by simpa using h_free, h_down.2, h_down.1⟩, h_id, h_time⟩
    · -- the slot comes back
      obtain rfl := Option.some.inj h_c
      have h_line := congrArg (fun e : HubEvent => e.line.str) h_event
      change (snprintf HUB_LINE_LEN (onlineText s.moduleId.str)).str
        = (offlineEvent m t).line.str at h_line
      rw [offlineEvent_line h_m t] at h_line
      exact absurd h_line (onlineText_ne h_fits)
  · rintro ⟨⟨h_known, h_flag, h_silent⟩, rfl, rfl⟩
    refine ⟨⟨s.moduleId.str, offlineText s.moduleId.str, now⟩, ?_, rfl⟩
    unfold slotCall
    rw [if_neg (by simp [h_known]), if_pos ⟨h_silent, h_flag⟩]

/-- The notes of a line are single lines. -/
theorem no_newline_of_mem_lineCalls {mod type : CStr} {args : List CStr}
    (h_text : ∀ w ∈ mod :: type :: args, IsText w) {t : ℤ} {g : DoorTable} {c : HistoryCall}
    (h_c : c ∈ lineCalls mod type args t g) : '\n' ∉ c.event.line.str := by
  have h_blank : '\n' ≠ ' ' := by decide
  show '\n' ∉ c.line.take 255
  refine fun h_mem => ?_
  have h_line := List.mem_of_mem_take h_mem
  revert h_line
  unfold lineCalls at h_c
  split at h_c
  · obtain rfl := List.mem_singleton.mp h_c
    have h_note : '\n' ∉ "<NO-STATE> (untracked)".toList := by decide
    exact h_note
  · rcases List.mem_cons.mp h_c with rfl | h_c
    · -- module and type
      intro h_line
      refine not_mem_spaced h_blank ?_ (List.mem_of_mem_take h_line)
      simp only [List.forall_mem_cons]
      exact ⟨(h_text mod (by simp)).no_newline, (h_text type (by simp)).no_newline, by simp⟩
    · -- the words of the FEEDBACK line
      unfold feedbackCalls at h_c
      split_ifs at h_c
      · split at h_c
        · obtain rfl := List.mem_singleton.mp h_c
          intro h_line
          refine not_mem_spaced h_blank ?_ (List.mem_of_mem_take h_line)
          simp only [List.forall_mem_cons]
          exact ⟨by decide, (isText_fmtInt _).no_newline, (h_text _ (by simp)).no_newline,
            (h_text _ (by simp)).no_newline, by simp⟩
        · exact absurd h_c List.not_mem_nil
      · exact absurd h_c List.not_mem_nil

theorem no_newline_of_mem_datagram {h : HubState} {data : List Char} {src : SockAddr} {t tReg : ℤ}
    {c : HistoryCall} (h_c : c ∈ historyCalls h (.datagram data src t tReg)) :
    '\n' ∉ c.event.line.str := by
  change c ∈ (match lineTokens (datagramLine data) with
    | mod :: type :: args => lineCalls mod type args t h.gDoors
    | _ => []) at h_c
  split at h_c
  · next mod type args h_words =>
    exact no_newline_of_mem_lineCalls (fun w h_w => isText_of_mem (h_words ▸ h_w)) h_c
  · exact absurd h_c List.not_mem_nil

/-- **OFFLINE events come from the check**, one for each slot that goes offline. -/
theorem offline_recorded_iff {h : HubState} {e : HubEv} {m : CStr} (h_m : m.length ≤ 15) (t : ℤ) :
    offlineEvent m t ∈ (historyCalls h e).map HistoryCall.event ↔
      e = .check t ∧ ∃ i, GoesOffline t (h.gDoors i) ∧ (h.gDoors i).moduleId.str = m := by
  rw [List.mem_map]
  cases e with
  | datagram data src t' tReg =>
    refine iff_of_false ?_ (fun h_eq => absurd h_eq.1 (by simp))
    rintro ⟨c, h_c, h_event⟩
    -- the text of the event ends in a newline
    refine no_newline_of_mem_datagram h_c ?_
    rw [h_event, offlineEvent_line h_m t]
    simp
  | check now =>
    constructor
    · rintro ⟨c, h_c, h_event⟩
      obtain ⟨i, -, h_call⟩ := List.mem_filterMap.mp h_c
      obtain ⟨h_goes, h_id, rfl⟩ := (slotCall_offline_iff h_m t).mp ⟨c, h_call, h_event⟩
      exact ⟨rfl, i, h_goes, h_id⟩
    · rintro ⟨h_eq, i, h_goes, h_id⟩
      obtain rfl := HubEv.check.inj h_eq
      obtain ⟨c, h_call, h_event⟩ := (slotCall_offline_iff h_m now).mpr ⟨h_goes, h_id, rfl⟩
      exact ⟨c, List.mem_filterMap.mpr ⟨i, List.mem_finRange i, h_call⟩, h_event⟩
  | alloc => exact iff_of_false (by simp [historyCalls]) (by simp)

end Hub

end DoorSystem
