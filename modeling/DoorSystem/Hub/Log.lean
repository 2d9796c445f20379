import DoorSystem.Hub.Journal

/-!
# The history as a log

What `add_history` is meant to record is a log without end: an entry for every line with a type, a
second one for a complete FEEDBACK line, a note where the door table is full, and one entry for
every slot whose `offline` flag the periodic check changes. `runLog` is that log, read off from the
lines and from the flags before and after each check.

The ring keeps the end of it. Every text of the log fits into its buffer, since it is built from the
words of a line that was received, so nothing but the id of a module is ever cut;
`historyRefines_reached` puts this together with what a ring keeps of a log (`Lib.Ring`).
-/

namespace DoorSystem

open CLib

namespace Hub

/-! ### The log -/

/-- An entry of the log. -/
structure LogEntry where
  t : ℤ
  mod : CStr
  text : CStr

/-- The entries of a line with a module and a type. -/
def lineLog (mod type : CStr) (args : List CStr) (t : ℤ) (g : DoorTable) : List LogEntry :=
  if findDoor mod g = none ∧ freeDoor g = none then [⟨t, mod, "<NO-STATE> (untracked)".toList⟩]
  else
    ⟨t, mod, spaced [mod, type]⟩ ::
      (match feedbackOf (mod :: type :: args) with
        | some f => [⟨t, mod, spaced ["FEEDBACK".toList, fmtInt f.cmdid, f.target, f.action]⟩]
        | none => [])

/-- The entry for a slot that was `s` before a check and is `s'` after it. -/
def flipLog (now : ℤ) (s s' : HubDoorStatus) : Option LogEntry :=
  if s'.offline = s.offline then none
  else if s'.offline then
    some ⟨now, s.moduleId.str, s.moduleId.str ++ " EVENT SYSTEM OFFLINE\n".toList⟩
  else some ⟨now, s.moduleId.str, s.moduleId.str ++ " EVENT SYSTEM ONLINE\n".toList⟩

/-- The entries of one event. -/
def stepLog (h : HubState) (e : HubEv) : List LogEntry :=
  match e with
  | .datagram data _ t _ =>
    match lineTokens (datagramLine data) with
    | mod :: type :: args => lineLog mod type args t h.gDoors
    | _ => []
  | .check now =>
    (List.finRange HUB_MAX_DOORS).filterMap
      (fun i => flipLog now (h.gDoors i) ((step h e).gDoors i))
  | .alloc => []

/-- The log of a run. -/
def runLog : HubState → List HubEv → List LogEntry
  | _, [] => []
  | h, e :: es => stepLog h e ++ runLog (step h e) es

/-- What the ring shows of an entry: its time, the id cut to 15 characters, and the text as it
is. -/
def LogEntry.shown (l : LogEntry) : ℤ × CStr × CStr := (l.t, l.mod.take 15, l.text)

/-- What stands in a cell of the ring. -/
def HubEvent.shown (e : HubEvent) : ℤ × CStr × CStr := (e.timestampMs, e.moduleId.str, e.line.str)

/-- **The ring refines the log**: its index and its count are those of the log, and reading the
stored entries from the oldest one on gives the end of the log. -/
structure HistoryRefines (g : History) (log : List LogEntry) : Prop where
  head_lt : g.head < HUB_MAX_HISTORY
  count_eq : g.count = min log.length HUB_MAX_HISTORY
  read_eq : (g.window g.count).map HubEvent.shown
    = (log.drop (log.length - g.count)).map LogEntry.shown

/-! ### Texts that fit -/

/-- Module and type of a line. -/
theorem spaced_mod_type_fits {data : List Char} {mod type : CStr} {args : List CStr}
    (h_words : lineTokens (datagramLine data) = mod :: type :: args) :
    (spaced [mod, type]).length < HUB_LINE_LEN := by
  have h_sum := sum_length_lineTokens_le (datagramLine data)
  have h_line := length_datagramLine_le data
  rw [h_words] at h_sum
  simp only [List.map_cons, List.sum_cons] at h_sum
  rw [spaced_cons_cons, spaced_singleton, List.length_append, List.length_cons]
  show _ < 256
  omega

/-- The second text of a FEEDBACK line: its number may be printed longer than it was received, but
the module in front is left out. -/
theorem spaced_feedback_fits {data : List Char} {f : CmdWords}
    (h_f : feedbackOf (lineTokens (datagramLine data)) = some f) :
    (spaced ["FEEDBACK".toList, fmtInt f.cmdid, f.target, f.action]).length < HUB_LINE_LEN := by
  have h_sum := sum_length_lineTokens_le (datagramLine data)
  have h_line := length_datagramLine_le data
  obtain ⟨cmdidS, rest, h_words, h_id⟩ := cmdWords_eq_some h_f
  have h_word : ∀ w ∈ f.mod :: "FEEDBACK".toList :: cmdidS :: f.target :: f.action :: rest,
      IsWord w := by
    rw [← h_words]
    exact fun w h_w => isWord_of_mem_lineTokens h_w
  have h_mod : 0 < f.mod.length := List.length_pos_of_ne_nil (h_word f.mod (by simp)).1
  -- the number is printed no longer than its token, which the line has held
  have h_num := length_fmtInt_atoi_le (h_word cmdidS (by simp)).1
  have h_eight : "FEEDBACK".toList.length = 8 := rfl
  rw [h_words] at h_sum
  simp only [List.map_cons, List.sum_cons, h_eight] at h_sum
  rw [h_id, spaced_cons_cons, spaced_cons_cons, spaced_cons_cons, spaced_singleton]
  simp only [List.length_append, List.length_cons, h_eight]
  show _ < 256
  omega

/-- A text that fits is stored as it is. -/
theorem shown_event {mod text : CStr} (h_text : text.length < HUB_LINE_LEN) (t : ℤ) :
    (HistoryCall.mk mod (snprintf HUB_LINE_LEN text).str t).event.shown
      = (LogEntry.mk t mod text).shown := by
  have h_once : (snprintf HUB_LINE_LEN text).str = text := snprintf_of_fits h_text
  have h_twice : (snprintf HUB_LINE_LEN (snprintf HUB_LINE_LEN text).str).str = text := by
    rw [h_once]
    exact h_once
  unfold HubEvent.shown LogEntry.shown
  exact congrArg (fun s => (t, mod.take 15, s)) h_twice

/-! ### One event -/

/-- The calls of a line are its entries. -/
theorem lineCalls_shown {data : List Char} {mod type : CStr} {args : List CStr}
    (h_words : lineTokens (datagramLine data) = mod :: type :: args) (t : ℤ) (g : DoorTable) :
    (lineCalls mod type args t g).map (fun c => c.event.shown)
      = (lineLog mod type args t g).map LogEntry.shown := by
  have h_feedback : (feedbackCalls mod type args t).map (fun c => c.event.shown)
      = (match feedbackOf (mod :: type :: args) with
        | some f => [LogEntry.mk t mod
            (spaced ["FEEDBACK".toList, fmtInt f.cmdid, f.target, f.action])]
        | none => []).map LogEntry.shown := by
    unfold feedbackCalls
    by_cases h_type : type = "FEEDBACK".toList
    · subst h_type
      rw [if_pos rfl]
      rcases args with _ | ⟨cs, _ | ⟨target, _ | ⟨action, rest⟩⟩⟩
      · rfl
      · rfl
      · rfl
      · -- the line is complete
        have h_f : feedbackOf (mod :: "FEEDBACK".toList :: cs :: target :: action :: rest)
            = some ⟨mod, atoi cs, target, action⟩ := cmdWords_self _ _ _ _ _ _
        have h_line : feedbackOf (lineTokens (datagramLine data))
            = some ⟨mod, atoi cs, target, action⟩ := by
          rw [h_words]
          exact h_f
        have h_fits := spaced_feedback_fits h_line
        rw [h_f]
        exact congrArg (fun x => [x]) (shown_event h_fits t)
    · have h_none : feedbackOf (mod :: type :: args) = none := cmdWords_ne h_type _ _
      rw [if_neg h_type, h_none]
      rfl
  have h_fits := spaced_mod_type_fits h_words
  have h_first : (HistoryCall.mk mod _ t).event.shown = _ := shown_event h_fits t
  unfold lineCalls lineLog
  rcases findOrCreateDoor_cases mod g with ⟨i, h_find, h_eq⟩ | ⟨i, -, h_free, h_eq⟩ |
    ⟨h_find, h_free, h_eq⟩
  · rw [h_eq, if_neg (fun h => by rw [h_find] at h; exact absurd h.1 (by simp))]
    dsimp only
    rw [List.map_cons, List.map_cons, h_first, h_feedback]
  · rw [h_eq, if_neg (fun h => by rw [h_free] at h; exact absurd h.2 (by simp))]
    dsimp only
    rw [List.map_cons, List.map_cons, h_first, h_feedback]
  · rw [h_eq, if_pos ⟨h_find, h_free⟩]
    rfl

/-- A slot is noted exactly when the check changes its flag. -/
theorem slotCall_shown (now : ℤ) (s : HubDoorStatus) :
    (slotCall now s).map (fun c => c.event.shown)
      = (flipLog now s (checkedStatus now s)).map LogEntry.shown := by
  have h_id : s.moduleId.str.length ≤ 15 := Nat.le_of_lt_succ s.moduleId.fits
  have h_on : " EVENT SYSTEM ONLINE\n".toList.length = 21 := by decide
  have h_off : " EVENT SYSTEM OFFLINE\n".toList.length = 22 := by decide
  have h_off_fits : (s.moduleId.str ++ " EVENT SYSTEM OFFLINE\n".toList).length < HUB_LINE_LEN := by
    rw [List.length_append, h_off]
    show _ < 256
    omega
  have h_on_fits : (s.moduleId.str ++ " EVENT SYSTEM ONLINE\n".toList).length < HUB_LINE_LEN := by
    rw [List.length_append, h_on]
    show _ < 256
    omega
  have h_down : (HistoryCall.mk s.moduleId.str _ now).event.shown = _ := shown_event h_off_fits now
  have h_up : (HistoryCall.mk s.moduleId.str _ now).event.shown = _ := shown_event h_on_fits now
  unfold slotCall checkedStatus flipLog
  by_cases h_known : s.known = false
  · -- a free slot has no flag to change
    rw [if_pos h_known, if_pos h_known, if_pos rfl]
    rfl
  · rw [if_neg h_known, if_neg h_known]
    by_cases h_goes : Silent now s ∧ s.offline = false
    · rw [if_pos h_goes, if_pos h_goes, if_neg (by rw [h_goes.2]; simp), if_pos rfl]
      exact congrArg some h_down
    · rw [if_neg h_goes, if_neg h_goes]
      by_cases h_back : ¬ Silent now s ∧ s.offline = true
      · rw [if_pos h_back, if_pos h_back, if_neg (by rw [h_back.2]; simp), if_neg (by simp)]
        exact congrArg some h_up
      · rw [if_neg h_back, if_neg h_back, if_pos rfl]
        rfl

/-- **Step.** The calls of an event are its entries in the log. -/
theorem historyCalls_shown (h : HubState) (e : HubEv) :
    (historyCalls h e).map (fun c => c.event.shown) = (stepLog h e).map LogEntry.shown := by
  cases e with
  | datagram data src t tReg =>
    show (match lineTokens (datagramLine data) with
      | mod :: type :: args => lineCalls mod type args t h.gDoors
      | _ => []).map _ = (match lineTokens (datagramLine data) with
      | mod :: type :: args => lineLog mod type args t h.gDoors
      | _ => []).map _
    -- a line with a module and a type, or none
    split
    · next mod type args h_words => exact lineCalls_shown h_words t h.gDoors
    · rfl
  | check now =>
    unfold historyCalls stepLog
    dsimp only
    rw [List.map_filterMap, List.map_filterMap]
    refine List.filterMap_congr (fun i _ => ?_)
    rw [slotCall_shown, step_check_gDoors]
  | alloc => rfl

/-- **Run.** -/
theorem journal_shown (h : HubState) (es : List HubEv) :
    ((journal h es).map HistoryCall.event).map HubEvent.shown
      = (runLog h es).map LogEntry.shown := by
  induction es generalizing h with
  | nil => rfl
  | cons e es ih =>
    unfold journal runLog
    rw [List.map_append, List.map_append, List.map_append, ih, ← historyCalls_shown,
      List.map_map]
    rfl

/-! ### The ring and the log -/

/-- **The history refines the log**, for every sequence of datagrams and checks since
`hub_udp_init`. -/
theorem historyRefines_reached (url : CharBuf 512) (es : List HubEv) :
    HistoryRefines (reached url es).gHistory (runLog (HubState.initial url) es) := by
  have h_rep := represents_journal url es
  have h_shown := journal_shown (HubState.initial url) es
  -- from here on only the two lists and what they show matter
  generalize (journal (HubState.initial url) es).map HistoryCall.event = xs at h_rep h_shown
  generalize runLog (HubState.initial url) es = log at h_shown ⊢
  have h_len : xs.length = log.length := by
    have h_lens := congrArg List.length h_shown
    rwa [List.length_map, List.length_map] at h_lens
  have h_count : (reached url es).gHistory.count = min log.length HUB_MAX_HISTORY := by
    rw [h_rep.count_eq, h_len]
  have h_start : xs.length - HUB_MAX_HISTORY = xs.length - min xs.length HUB_MAX_HISTORY := by
    omega
  have h_window : (reached url es).gHistory.window (reached url es).gHistory.count
      = xs.drop (xs.length - (reached url es).gHistory.count) := by
    rw [h_rep.window h_rep.count_eq.le, List.take_of_length_le
      (by rw [Ring.length_stored]; exact h_rep.count_eq.ge), h_rep.count_eq]
    unfold Ring.stored
    rw [h_start]
  refine ⟨?_, h_count, ?_⟩
  · rw [h_rep.head_eq]
    exact Nat.mod_lt _ (by norm_num)
  · calc ((reached url es).gHistory.window (reached url es).gHistory.count).map HubEvent.shown
        = (xs.map HubEvent.shown).drop (xs.length - (reached url es).gHistory.count) := by
          rw [h_window, List.map_drop]
      _ = (log.map LogEntry.shown).drop (log.length - (reached url es).gHistory.count) := by
          rw [h_shown, h_len]
      _ = (log.drop (log.length - (reached url es).gHistory.count)).map LogEntry.shown := by
          rw [List.map_drop]

end Hub

end DoorSystem
