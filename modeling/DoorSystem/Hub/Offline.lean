import DoorSystem.Hub.Journal
import DoorSystem.Hub.SlotIdentity

/-!
# Alarms that come too early

`check_offline_modules` compares the clock with `last_heartbeat_ms`, which is 0 in a slot that was
just taken, by whatever line. On a clock that is past the timeout the check that follows calls the
new module offline, unless its first line was a heartbeat.

A `Watch` runs beside the hub and keeps what the slots do not: when each slot was taken, and every
heartbeat that was handled, under the id that a slot keeps for its line and with the slot it went
to. `noPrematureOffline_iff` lists the two kinds of slots that make a premature alarm: one that was
taken a moment ago and has had no heartbeat, and one whose heartbeats go elsewhere. The second kind
needs an id that does not fit into a slot (`not_shadowed_of_fits`): its lines are not found under
the cut id, so that each takes a slot of its own, or none once the table is full.
-/

namespace DoorSystem

open CLib

namespace Hub

/-! ### The watch -/

/-- The clock reading of an event: the first one of `handle_line`, or the one of the check. -/
def HubEv.time : HubEv → Option ℤ
  | .datagram _ _ t _ => some t
  | .check now => some now
  | .alloc => none

/-- The id that `find_or_create_door` writes into a slot for the token `mod`. -/
def storedId (mod : CStr) : CStr := (HubDoorStatus.fresh mod).moduleId.str

/-- A HEARTBEAT line that was handled. -/
structure Beat where
  /-- The id of its module, as a slot keeps it. -/
  moduleId : CStr
  time : ℤ
  /-- The slot of the line, if it was given one. -/
  slot : Option (Fin HUB_MAX_DOORS)
  deriving DecidableEq

/-- The hub and what is observed of its slots. -/
structure Watch where
  hub : HubState
  /-- When the slot was taken. -/
  created : Fin HUB_MAX_DOORS → ℤ
  beats : List Beat

/-- A line of the module `mod`, handled at the time `t`. -/
def Watch.line (mod type : CStr) (t : ℤ) (hub' : HubState) (w : Watch) : Watch where
  hub := hub'
  created := fun i => if (w.hub.gDoors i).known then w.created i else t
  beats :=
    if type = "HEARTBEAT".toList then
      ⟨storedId mod, t, (findOrCreateDoor mod w.hub.gDoors).2⟩ :: w.beats
    else w.beats

/-- One event. -/
def Watch.step (w : Watch) (e : HubEv) : Watch :=
  match e.words, e.time with
  | mod :: type :: _, some t => w.line mod type t (Hub.step w.hub e)
  | _, _ => { w with hub := Hub.step w.hub e }

/-- The watch of a hub that has just been started. -/
def Watch.initial (url : CharBuf 512) : Watch where
  hub := HubState.initial url
  created := fun _ => 0
  beats := []

/-- The watch after the events `es`. -/
def watched (url : CharBuf 512) (es : List HubEv) : Watch := run Watch.step (Watch.initial url) es

/-- Events with a clock that does not go back. -/
structure HubRun where
  events : List HubEv
  clock : (events.filterMap HubEv.time).Pairwise (· ≤ ·)

theorem Watch.step_hub (w : Watch) (e : HubEv) : (w.step e).hub = Hub.step w.hub e := by
  unfold Watch.step
  split <;> rfl

/-- The watch does not interfere. -/
theorem watched_hub (url : CharBuf 512) (es : List HubEv) :
    (watched url es).hub = reached url es := by
  unfold watched reached
  show (run Watch.step (Watch.initial url) es).hub = run Hub.step (Watch.initial url).hub es
  generalize Watch.initial url = w
  induction es generalizing w with
  | nil => rfl
  | cons e es ih =>
    rw [run_cons, run_cons, ih, Watch.step_hub]

theorem watched_concat (url : CharBuf 512) (es : List HubEv) (e : HubEv) :
    watched url (es ++ [e]) = (watched url es).step e := by
  unfold watched
  rw [run_append, run_cons, run_nil]

/-! ### The property and its condition -/

/-- An OFFLINE event of slot `i` at the time `t` is in order: within the timeout no HEARTBEAT of
its module was handled, and the slot was not taken within it either. -/
structure Justified (w : Watch) (t : ℤ) (i : Fin HUB_MAX_DOORS) : Prop where
  silent : ∀ x ∈ w.beats, x.moduleId = (w.hub.gDoors i).moduleId.str →
    HUB_OFFLINE_TIMEOUT_MS < t - x.time
  settled : HUB_OFFLINE_TIMEOUT_MS < t - w.created i

/-- Every OFFLINE event that a check records is in order. By `offline_recorded_iff` these are all
OFFLINE events of the history. -/
def NoPrematureOffline (url : CharBuf 512) (es : List HubEv) : Prop :=
  ∀ pre t post, es = pre ++ .check t :: post → ∀ i,
    GoesOffline t ((reached url pre).gDoors i) → Justified (watched url pre) t i

/-- No heartbeat has reached the slot. -/
def Watch.Unheard (w : Watch) (i : Fin HUB_MAX_DOORS) : Prop := ∀ x ∈ w.beats, x.slot ≠ some i

/-- A slot without the flag that has had no heartbeat within the timeout; where it has had none at
all, the clock is past the timeout. -/
structure Idle (w : Watch) (t : ℤ) (i : Fin HUB_MAX_DOORS) : Prop where
  known : (w.hub.gDoors i).known = true
  unflagged : (w.hub.gDoors i).offline = false
  quiet : ∀ x ∈ w.beats, x.slot = some i → HUB_OFFLINE_TIMEOUT_MS < t - x.time
  late : w.Unheard i → HUB_OFFLINE_TIMEOUT_MS < t

/-- A slot that was taken within the timeout and has had no heartbeat yet, on a clock past the
timeout. -/
structure Early (w : Watch) (t : ℤ) (i : Fin HUB_MAX_DOORS) : Prop where
  known : (w.hub.gDoors i).known = true
  unflagged : (w.hub.gDoors i).offline = false
  unheard : w.Unheard i
  recent : t ≤ w.created i + HUB_OFFLINE_TIMEOUT_MS
  late : HUB_OFFLINE_TIMEOUT_MS < t

/-- An idle slot, while a heartbeat of its id went to another slot or to none. -/
structure Shadowed (w : Watch) (t : ℤ) (i : Fin HUB_MAX_DOORS) : Prop where
  idle : Idle w t i
  elsewhere : ∃ x ∈ w.beats, x.moduleId = (w.hub.gDoors i).moduleId.str ∧ x.slot ≠ some i ∧
    t ≤ x.time + HUB_OFFLINE_TIMEOUT_MS

/-- No check meets such a slot. -/
def ChecksSettled (url : CharBuf 512) (es : List HubEv) : Prop :=
  ∀ pre t post, es = pre ++ .check t :: post → ∀ i,
    ¬ Early (watched url pre) t i ∧ ¬ Shadowed (watched url pre) t i

/-! ### What a line does to the stamps of the slots -/

theorem lineStatus_stamps (mod type : CStr) (args : List CStr) (src : SockAddr) (t : ℤ)
    (s : HubDoorStatus) :
    (lineStatus mod type args src t s).lastHeartbeatMs
        = (if type = "HEARTBEAT".toList then t else s.lastHeartbeatMs) ∧
      (lineStatus mod type args src t s).offline = s.offline := by
  -- the return address is kept beside the stamps
  have h_addr : (updateLastAddr type src s).lastHeartbeatMs = s.lastHeartbeatMs ∧
      (updateLastAddr type src s).offline = s.offline := by
    unfold updateLastAddr
    split_ifs <;> exact ⟨rfl, rfl⟩
  rw [← h_addr.1, ← h_addr.2]
  have h_effect := lineEffect mod type args src t s
  generalize lineStatus mod type args src t s = s' at h_effect ⊢
  cases h_effect with
  -- only a HEARTBEAT moves the stamp
  | heartbeat h_type => exact ⟨(if_pos h_type).symm, rfl⟩
  | event h_type => exact ⟨(if_neg (by rw [h_type]; decide)).symm, rfl⟩
  | feedback h_type => exact ⟨(if_neg (by rw [h_type]; decide)).symm, rfl⟩
  | incomplete h_type => exact ⟨(if_neg (by rw [h_type]; decide)).symm, rfl⟩
  | command h_type => exact ⟨(if_neg (by rw [h_type]; decide)).symm, rfl⟩
  | other h_heartbeat => exact ⟨(if_neg h_heartbeat).symm, rfl⟩

/-- A line stamps its own slot if it is a HEARTBEAT, and no other. -/
theorem lineDoors_stamps (mod type : CStr) (args : List CStr) (src : SockAddr) (t : ℤ)
    (g : DoorTable) (i : Fin HUB_MAX_DOORS) :
    (lineDoors mod type args src t g i).lastHeartbeatMs
        = (if type = "HEARTBEAT".toList ∧ (findOrCreateDoor mod g).2 = some i then t
          else ((findOrCreateDoor mod g).1 i).lastHeartbeatMs) ∧
      (lineDoors mod type args src t g i).offline = ((findOrCreateDoor mod g).1 i).offline := by
  rcases lineDoors_slot mod type args src t g i with ⟨h_i, h_line⟩ | ⟨h_i, h_line⟩
  · -- the slot of the line: the type decides
    rw [h_line]
    obtain ⟨h_stamp, h_flag⟩ := lineStatus_stamps mod type args src t ((findOrCreateDoor mod g).1 i)
    refine ⟨h_stamp.trans ?_, h_flag⟩
    by_cases h_hb : type = "HEARTBEAT".toList
    · rw [if_pos h_hb, if_pos ⟨h_hb, h_i⟩]
    · rw [if_neg h_hb, if_neg (fun h => h_hb h.1)]
  · rw [h_line, if_neg (fun h => h_i h.2)]
    exact ⟨rfl, rfl⟩

/-- A slot that a line takes starts with the stamp 0 and without the flag. -/
theorem findOrCreateDoor_stamps (mod : CStr) (g : DoorTable) (i : Fin HUB_MAX_DOORS) :
    (findOrCreateDoor mod g).1 i = g i ∨
      (g i).known = false ∧ ((findOrCreateDoor mod g).1 i).lastHeartbeatMs = 0 ∧
        ((findOrCreateDoor mod g).1 i).offline = false := by
  rcases findOrCreateDoor_slot mod g i with h_same | ⟨h_free, h_new⟩
  · exact Or.inl h_same
  · -- the new slot is cleared
    rw [h_new]
    exact Or.inr ⟨h_free, rfl, rfl⟩

/-- The event is a line. -/
structure LineAt (e : HubEv) (mod type : CStr) (args : List CStr) (t : ℤ) : Prop where
  words : e.words = mod :: type :: args
  time : e.time = some t

/-- An event is a line, or leaves ids and stamps of the slots as they are. -/
theorem step_stamps_cases (h : HubState) (e : HubEv) :
    (∃ mod type args t, LineAt e mod type args t ∧
      (Hub.step h e).gDoors = lineDoors mod type args e.source t h.gDoors) ∨
    ((∀ mod type args, e.words ≠ mod :: type :: args) ∧ ∀ i,
      ((Hub.step h e).gDoors i).known = (h.gDoors i).known ∧
        ((Hub.step h e).gDoors i).moduleId = (h.gDoors i).moduleId ∧
        ((Hub.step h e).gDoors i).lastHeartbeatMs = (h.gDoors i).lastHeartbeatMs) := by
  cases e with
  | datagram data src t tReg =>
    rcases words_cases (lineTokens (datagramLine data)) with ⟨mod, type, args, h_words⟩ | h_words
    · refine Or.inl ⟨mod, type, args, t, ⟨h_words, rfl⟩, ?_⟩
      exact step_datagram_gDoors h_words src t tReg h
    · refine Or.inr ⟨h_words, fun i => ?_⟩
      rw [step_datagram_short h_words]
      exact ⟨rfl, rfl, rfl⟩
  | check now =>
    refine Or.inr ⟨by simp [HubEv.words], fun i => ?_⟩
    -- the check writes neither ids nor heartbeat stamps
    have h_same := (checkOfflineModules_offlineOnly now h).doors i
    show ((checkOfflineModules now h).1.gDoors i).known = _ ∧
      ((checkOfflineModules now h).1.gDoors i).moduleId = _ ∧
      ((checkOfflineModules now h).1.gDoors i).lastHeartbeatMs = _
    rw [h_same]
    exact ⟨rfl, rfl, rfl⟩
  | alloc => exact Or.inr ⟨by simp [HubEv.words], fun i => ⟨rfl, rfl, rfl⟩⟩

theorem Watch.step_of_line (w : Watch) {e : HubEv} {mod type : CStr} {args : List CStr} {t : ℤ}
    (h_line : LineAt e mod type args t) :
    w.step e = w.line mod type t (Hub.step w.hub e) := by
  unfold Watch.step
  rw [h_line.words, h_line.time]

theorem Watch.step_of_words (w : Watch) {e : HubEv}
    (h_words : ∀ mod type args, e.words ≠ mod :: type :: args) :
    w.step e = { w with hub := Hub.step w.hub e } := by
  unfold Watch.step
  split
  · next h_eq _ => exact absurd h_eq (h_words _ _ _)
  · rfl

/-! ### Full tables -/

/-- What happens to the table of a full hub: nobody gets a slot. -/
theorem findDoor_lineDoors_of_full {g : DoorTable} (h_full : freeDoor g = none)
    (mod type : CStr) (args : List CStr) (src : SockAddr) (t : ℤ) (m : CStr) :
    findDoor m (lineDoors mod type args src t g) = findDoor m g := by
  refine findDoor_congr (fun i => ?_) m
  obtain ⟨h_known, h_id⟩ := lineDoors_tag mod type args src t g i
  -- all slots are taken, so each of them keeps its id
  have h_kept : (findOrCreateDoor mod g).1 i = g i :=
    Holds.findOrCreateDoor ⟨freeDoor_eq_none h_full i, rfl⟩
  rw [h_known, h_id, h_kept]
  exact ⟨rfl, rfl⟩

theorem freeDoor_congr {g g' : DoorTable} (h : ∀ i, (g' i).known = (g i).known) :
    freeDoor g' = freeDoor g := by
  unfold freeDoor
  congr 1
  funext i
  rw [h i]

/-- A full table stays full. -/
theorem freeDoor_step_of_full {h : HubState} (h_full : freeDoor h.gDoors = none) (e : HubEv) :
    freeDoor (Hub.step h e).gDoors = none := by
  refine (freeDoor_congr (fun i => ?_)).trans h_full
  have h_taken := freeDoor_eq_none h_full i
  rw [h_taken]
  exact (Holds.step ⟨h_taken, rfl⟩ e).1

/-- A module that has no slot in a full table never gets one. -/
theorem hasSlot_of_step {h : HubState} {m : CStr} {e : HubEv}
    (h_slot : HasSlot m (Hub.step h e).gDoors) : HasSlot m h.gDoors := by
  rcases findOrCreateDoor_cases m h.gDoors with ⟨i, -, h_eq⟩ | ⟨i, -, -, h_eq⟩ |
    ⟨h_none, h_full, -⟩
  · unfold HasSlot
    rw [h_eq]
    simp
  · unfold HasSlot
    rw [h_eq]
    simp
  · -- nobody gets a slot, so the search fails afterwards, too
    have h_find : findDoor m (Hub.step h e).gDoors = none := by
      rcases step_gDoors_cases h e with ⟨mod, type, args, t, -, h_doors⟩ | ⟨-, h_same⟩
      · rw [h_doors, findDoor_lineDoors_of_full h_full, h_none]
      · rw [← h_none]
        refine findDoor_congr (fun i => ?_) m
        rw [h_same i]
        exact ⟨rfl, rfl⟩
    refine absurd ?_ h_slot
    rcases findOrCreateDoor_cases m (Hub.step h e).gDoors with ⟨i, h_i, -⟩ | ⟨i, -, h_i, -⟩ |
      ⟨-, -, h_eq⟩
    · rw [h_find] at h_i
      exact absurd h_i (by simp)
    · rw [freeDoor_step_of_full h_full e] at h_i
      exact absurd h_i (by simp)
    · rw [h_eq]

/-! ### The invariant -/

/-- What the watch knows about the stamps, when no clock reading so far is past `b`. -/
structure WatchInv (w : Watch) (b : ℤ) : Prop where
  created : ∀ i, (w.hub.gDoors i).known = true → w.created i ≤ b
  /-- A heartbeat came after its slot was taken, and not after the stamp. -/
  beats : ∀ x ∈ w.beats, x.time ≤ b ∧ ∀ i, x.slot = some i →
    (w.hub.gDoors i).known = true ∧ w.created i ≤ x.time ∧
      x.time ≤ (w.hub.gDoors i).lastHeartbeatMs
  /-- The stamp is that of a heartbeat, or there was none. -/
  stamp : ∀ i, (w.Unheard i ∧ (w.hub.gDoors i).lastHeartbeatMs = 0) ∨
    ∃ x ∈ w.beats, x.slot = some i ∧ x.time = (w.hub.gDoors i).lastHeartbeatMs

theorem WatchInv.initial (url : CharBuf 512) (b : ℤ) : WatchInv (Watch.initial url) b where
  created := fun _ h => absurd h Bool.false_ne_true
  beats := fun _ h => absurd h List.not_mem_nil
  stamp := fun _ => Or.inl ⟨fun _ h => absurd h List.not_mem_nil, rfl⟩

theorem WatchInv.mono {w : Watch} {b b' : ℤ} (inv : WatchInv w b) (h_le : b ≤ b') :
    WatchInv w b' where
  created := fun i h => (inv.created i h).trans h_le
  beats := fun x h => ⟨(inv.beats x h).1.trans h_le, (inv.beats x h).2⟩
  stamp := inv.stamp

/-- The check takes a slot for silent exactly when it is idle. -/
theorem WatchInv.goesOffline_iff {w : Watch} {b : ℤ} (inv : WatchInv w b) (t : ℤ)
    (i : Fin HUB_MAX_DOORS) : GoesOffline t (w.hub.gDoors i) ↔ Idle w t i := by
  unfold GoesOffline Silent
  constructor
  · rintro ⟨h_known, h_flag, h_silent⟩
    refine ⟨h_known, h_flag, fun x h_x h_i => ?_, fun h_unheard => ?_⟩
    · have h_le := ((inv.beats x h_x).2 i h_i).2.2
      omega
    · -- without a heartbeat the stamp is the 0 of the new slot
      rcases inv.stamp i with ⟨-, h_zero⟩ | ⟨x, h_x, h_i, -⟩
      · rw [h_zero, sub_zero] at h_silent
        exact h_silent
      · exact absurd h_i (h_unheard x h_x)
  · intro h_idle
    refine ⟨h_idle.known, h_idle.unflagged, ?_⟩
    rcases inv.stamp i with ⟨h_unheard, h_zero⟩ | ⟨x, h_x, h_i, h_time⟩
    · rw [h_zero, sub_zero]
      exact h_idle.late h_unheard
    · rw [← h_time]
      exact h_idle.quiet x h_x h_i

/-- The slot that a line reaches is a taken one. -/
theorem known_of_reached {mod : CStr} {g : DoorTable} {i : Fin HUB_MAX_DOORS}
    (h_i : (findOrCreateDoor mod g).2 = some i) : ((findOrCreateDoor mod g).1 i).known = true := by
  rcases findOrCreateDoor_cases mod g with ⟨d, h_find, h_eq⟩ | ⟨d, -, -, h_eq⟩ | ⟨-, -, h_eq⟩
  · -- the slot of a known module
    rw [h_eq] at h_i ⊢
    rw [← Option.some.inj h_i]
    exact (holds_of_findDoor h_find).1
  · rw [h_eq] at h_i ⊢
    rw [← Option.some.inj h_i]
    dsimp only
    rw [Function.update_self]
    rfl
  · rw [h_eq] at h_i
    exact absurd h_i (by simp)

/-- The stamp of a taken slot goes forward only: it stays, or it becomes the time of the line. -/
theorem le_stamp_lineDoors {g : DoorTable} {i : Fin HUB_MAX_DOORS} (h_i : (g i).known = true)
    (mod type : CStr) (args : List CStr) (src : SockAddr) {t t' : ℤ} (h_t : t' ≤ t)
    (h_le : t' ≤ (g i).lastHeartbeatMs) :
    t' ≤ (lineDoors mod type args src t g i).lastHeartbeatMs := by
  have h_kept : (findOrCreateDoor mod g).1 i = g i := Holds.findOrCreateDoor ⟨h_i, rfl⟩
  rw [(lineDoors_stamps mod type args src t g i).1, h_kept]
  split_ifs
  · exact h_t
  · exact h_le

/-- The beats after a line: those before it, and the line's own one. -/
theorem Watch.mem_beats_line {mod type : CStr} {t : ℤ} {hub' : HubState} {w : Watch} {x : Beat}
    (h_x : x ∈ (w.line mod type t hub').beats) :
    x ∈ w.beats ∨ type = "HEARTBEAT".toList ∧
      x = ⟨storedId mod, t, (findOrCreateDoor mod w.hub.gDoors).2⟩ := by
  unfold Watch.line at h_x
  dsimp only at h_x
  split_ifs at h_x with h_hb
  · rcases List.mem_cons.mp h_x with h_new | h_old
    · exact Or.inr ⟨h_hb, h_new⟩
    · exact Or.inl h_old
  · exact Or.inl h_x

theorem Watch.beats_subset_line (mod type : CStr) (t : ℤ) (hub' : HubState) (w : Watch) :
    w.beats ⊆ (w.line mod type t hub').beats := by
  intro x h_x
  unfold Watch.line
  dsimp only
  split_ifs
  · exact List.mem_cons_of_mem _ h_x
  · exact h_x

/-- **A line.** -/
theorem WatchInv.line {w : Watch} {b : ℤ} (inv : WatchInv w b) {e : HubEv} {mod type : CStr}
    {args : List CStr} {t : ℤ} (h_doors : (Hub.step w.hub e).gDoors
      = lineDoors mod type args e.source t w.hub.gDoors) (h_b : b ≤ t) :
    WatchInv (w.line mod type t (Hub.step w.hub e)) t := by
  -- the stamps after the line, in the terms of the table before it
  have h_stamp : ∀ i, ((Hub.step w.hub e).gDoors i).lastHeartbeatMs
      = if type = "HEARTBEAT".toList ∧ (findOrCreateDoor mod w.hub.gDoors).2 = some i then t
        else ((findOrCreateDoor mod w.hub.gDoors).1 i).lastHeartbeatMs := by
    intro i
    rw [h_doors]
    exact (lineDoors_stamps mod type args e.source t w.hub.gDoors i).1
  have h_created : ∀ i, (w.line mod type t (Hub.step w.hub e)).created i ≤ t := by
    intro i
    show (if (w.hub.gDoors i).known then w.created i else t) ≤ t
    split_ifs with h_taken
    · exact (inv.created i h_taken).trans h_b
    · exact le_rfl
  constructor
  · exact fun i _ => h_created i
  · intro x h_x
    rcases Watch.mem_beats_line h_x with h_old | ⟨h_hb, rfl⟩
    · -- an earlier heartbeat: its slot was taken then, and the stamp only grows
      obtain ⟨h_time, h_slot⟩ := inv.beats x h_old
      refine ⟨h_time.trans h_b, fun i h_i => ?_⟩
      obtain ⟨h_taken, h_after, h_le⟩ := h_slot i h_i
      refine ⟨(Holds.step ⟨h_taken, rfl⟩ e).1, ?_, ?_⟩
      · show (if (w.hub.gDoors i).known then w.created i else t) ≤ x.time
        rw [if_pos h_taken]
        exact h_after
      · show x.time ≤ ((Hub.step w.hub e).gDoors i).lastHeartbeatMs
        rw [h_doors]
        exact le_stamp_lineDoors h_taken _ _ _ _ (h_time.trans h_b) h_le
    · -- the heartbeat of this line
      refine ⟨le_rfl, fun i h_i => ⟨?_, h_created i, ?_⟩⟩
      · show ((Hub.step w.hub e).gDoors i).known = true
        rw [h_doors, (lineDoors_tag mod type args e.source t w.hub.gDoors i).1]
        exact known_of_reached h_i
      · show t ≤ ((Hub.step w.hub e).gDoors i).lastHeartbeatMs
        rw [h_stamp, if_pos ⟨h_hb, h_i⟩]
  · intro i
    show ((w.line mod type t (Hub.step w.hub e)).Unheard i ∧
        ((Hub.step w.hub e).gDoors i).lastHeartbeatMs = 0) ∨
      ∃ x ∈ (w.line mod type t (Hub.step w.hub e)).beats,
        x.slot = some i ∧ x.time = ((Hub.step w.hub e).gDoors i).lastHeartbeatMs
    by_cases h_hit : type = "HEARTBEAT".toList ∧ (findOrCreateDoor mod w.hub.gDoors).2 = some i
    · -- the line stamps the slot
      refine Or.inr ⟨⟨storedId mod, t, (findOrCreateDoor mod w.hub.gDoors).2⟩, ?_, h_hit.2, ?_⟩
      · unfold Watch.line
        dsimp only
        rw [if_pos h_hit.1]
        exact List.mem_cons_self
      · rw [h_stamp, if_pos h_hit]
    · rw [h_stamp, if_neg h_hit]
      rcases inv.stamp i with ⟨h_unheard, h_zero⟩ | ⟨x, h_x, h_i, h_time⟩
      · refine Or.inl ⟨fun x h_x h_i => ?_, ?_⟩
        · rcases Watch.mem_beats_line h_x with h_old | ⟨h_hb, rfl⟩
          · exact h_unheard x h_old h_i
          · exact h_hit ⟨h_hb, h_i⟩
        · rcases findOrCreateDoor_stamps mod w.hub.gDoors i with h_eq | ⟨-, h_fresh, -⟩
          · rw [h_eq, h_zero]
          · exact h_fresh
      · -- a slot that has had a heartbeat is taken, so the search leaves it alone
        have h_taken := ((inv.beats x h_x).2 i h_i).1
        have h_kept : (findOrCreateDoor mod w.hub.gDoors).1 i = w.hub.gDoors i :=
          Holds.findOrCreateDoor ⟨h_taken, rfl⟩
        refine Or.inr ⟨x, w.beats_subset_line mod type t _ h_x, h_i, ?_⟩
        rw [h_kept, h_time]

/-- **Step.** -/
theorem WatchInv.step {w : Watch} {b : ℤ} (inv : WatchInv w b) {e : HubEv}
    (h_b : ∀ t, e.time = some t → b ≤ t) {b' : ℤ} (h_le : b ≤ b')
    (h_b' : ∀ t, e.time = some t → t ≤ b') : WatchInv (w.step e) b' := by
  rcases step_stamps_cases w.hub e with ⟨mod, type, args, t, h_line, h_doors⟩ | ⟨h_words, h_same⟩
  · rw [Watch.step_of_line w h_line]
    exact (inv.line h_doors (h_b t h_line.time)).mono (h_b' t h_line.time)
  · rw [Watch.step_of_words w h_words]
    -- ids and stamps are as before
    constructor
    · intro i h_i
      exact (inv.created i ((h_same i).1.symm.trans h_i)).trans h_le
    · intro x h_x
      obtain ⟨h_time, h_slot⟩ := inv.beats x h_x
      refine ⟨h_time.trans h_le, fun i h_i => ?_⟩
      dsimp only
      rw [(h_same i).1, (h_same i).2.2]
      exact h_slot i h_i
    · intro i
      dsimp only
      rw [(h_same i).2.2]
      exact inv.stamp i

/-- **Run.** On a clock that does not go back the watch is right about the stamps. -/
theorem watchInv_watched (url : CharBuf 512) {es : List HubEv}
    (h_clock : (es.filterMap HubEv.time).Pairwise (· ≤ ·)) {b : ℤ}
    (h_b : ∀ e ∈ es, ∀ t, e.time = some t → t ≤ b) : WatchInv (watched url es) b := by
  -- on the events, the last one first; the bound before it is its own time
  induction es using List.reverseRecOn generalizing b with
  | nil => exact WatchInv.initial url b
  | append_singleton es e ih =>
    rw [List.filterMap_append, List.pairwise_append] at h_clock
    have h_last := h_b e (List.mem_append_right _ (List.mem_singleton_self e))
    rw [watched_concat]
    cases h_time : e.time with
    | none =>
      have inv := ih h_clock.1 (b := b) (fun e' h_e' => h_b e' (List.mem_append_left _ h_e'))
      exact inv.step (by simp [h_time]) le_rfl (by simp [h_time])
    | some t =>
      have inv := ih h_clock.1 (b := t) (fun e' h_e' t' h_t' =>
        h_clock.2.2 t' (List.mem_filterMap.mpr ⟨e', h_e', h_t'⟩) t (by simp [h_time]))
      refine inv.step (fun t' h_t' => ?_) (h_last t h_time) h_last
      rw [h_time] at h_t'
      exact (Option.some.inj h_t').le

/-- At a check no clock reading so far is past the check's own. -/
theorem HubRun.watchInv (R : HubRun) (url : CharBuf 512) {pre post : List HubEv} {t : ℤ}
    (h_split : R.events = pre ++ .check t :: post) : WatchInv (watched url pre) t := by
  have h_clock := R.clock
  rw [h_split, List.filterMap_append, List.pairwise_append] at h_clock
  refine watchInv_watched url h_clock.1 (fun e h_e t' h_t' => ?_)
  exact h_clock.2.2 t' (List.mem_filterMap.mpr ⟨e, h_e, h_t'⟩) t (by simp [HubEv.time])

/-- **When no alarm comes too early.** In every run of the hub on a clock that does not go back,
all OFFLINE events are in order if and only if no check meets a slot that was taken a moment ago
and has had no heartbeat, nor an idle slot while a heartbeat of its id has gone elsewhere. -/
theorem noPrematureOffline_iff (url : CharBuf 512) (R : HubRun) :
    NoPrematureOffline url R.events ↔ ChecksSettled url R.events := by
  constructor
  · intro h_all pre t post h_split i
    have inv := R.watchInv url h_split
    have h_slot := h_all pre t post h_split i
    rw [← watched_hub, inv.goesOffline_iff] at h_slot
    constructor
    · intro h_early
      have h_settled := (h_slot ⟨h_early.known, h_early.unflagged,
        fun x h_x h_i => absurd h_i (h_early.unheard x h_x), fun _ => h_early.late⟩).settled
      have h_recent := h_early.recent
      omega
    · intro h_shadowed
      obtain ⟨x, h_x, h_id, -, h_recent⟩ := h_shadowed.elsewhere
      have h_silent := (h_slot h_shadowed.idle).silent x h_x h_id
      omega
  · intro h_settled pre t post h_split i h_goes
    have inv := R.watchInv url h_split
    obtain ⟨h_early, h_shadowed⟩ := h_settled pre t post h_split i
    rw [← watched_hub, inv.goesOffline_iff] at h_goes
    constructor
    · intro x h_x h_id
      by_contra h_recent
      -- a heartbeat that the slot itself has had is too old
      refine h_shadowed ⟨h_goes, x, h_x, h_id, fun h_i => ?_, by omega⟩
      exact h_recent (h_goes.quiet x h_x h_i)
    · by_contra h_recent
      by_cases h_unheard : (watched url pre).Unheard i
      · exact h_early ⟨h_goes.known, h_goes.unflagged, h_unheard, by omega, h_goes.late h_unheard⟩
      · -- the first heartbeat came after the slot was taken
        unfold Watch.Unheard at h_unheard
        push Not at h_unheard
        obtain ⟨x, h_x, h_i⟩ := h_unheard
        have h_after := ((inv.beats x h_x).2 i h_i).2.1
        have h_quiet := h_goes.quiet x h_x h_i
        omega

/-! ### Ids that fit -/

theorem storedId_of_fits {m : CStr} (h_m : m.length < HUB_MODULE_ID_LEN) : storedId m = m :=
  snprintf_of_fits h_m

/-- Where all ids fit, a heartbeat has reached the one slot of its id; one that was given no slot
has found the table full, and without its id. -/
structure BeatsPlaced (w : Watch) : Prop where
  ids : IdsDistinct w.hub
  placed : ∀ x ∈ w.beats, ∀ i, x.slot = some i → Holds w.hub.gDoors x.moduleId i
  lost : ∀ x ∈ w.beats, x.slot = none →
    freeDoor w.hub.gDoors = none ∧ ∀ i, ¬ Holds w.hub.gDoors x.moduleId i

theorem BeatsPlaced.initial (url : CharBuf 512) : BeatsPlaced (Watch.initial url) where
  ids := IdsDistinct.initial url
  placed := fun _ h => absurd h List.not_mem_nil
  lost := fun _ h => absurd h List.not_mem_nil

/-- The slots of a full table are those of the modules that have them. -/
theorem not_holds_step_of_full {h : HubState} (h_full : freeDoor h.gDoors = none) (e : HubEv)
    {m : CStr} {i : Fin HUB_MAX_DOORS} (h_i : ¬ Holds h.gDoors m i) :
    ¬ Holds (Hub.step h e).gDoors m i := by
  intro h_after
  have h_kept : Holds (Hub.step h e).gDoors (h.gDoors i).moduleId.str i :=
    Holds.step ⟨freeDoor_eq_none h_full i, rfl⟩ e
  exact h_i ⟨freeDoor_eq_none h_full i, h_kept.2.symm.trans h_after.2⟩

/-- The slot that a line is given holds its id. -/
theorem holds_storedId {mod : CStr} (h_mod : mod.length < HUB_MODULE_ID_LEN) {g : DoorTable}
    {i : Fin HUB_MAX_DOORS} (h_i : (findOrCreateDoor mod g).2 = some i) :
    Holds (findOrCreateDoor mod g).1 (storedId mod) i := by
  rw [storedId_of_fits h_mod]
  rcases findOrCreateDoor_cases mod g with ⟨d, h_find, h_eq⟩ | ⟨d, -, -, h_eq⟩ | ⟨-, -, h_eq⟩
  · rw [h_eq] at h_i ⊢
    rw [← Option.some.inj h_i]
    exact holds_of_findDoor h_find
  · rw [h_eq] at h_i ⊢
    rw [← Option.some.inj h_i]
    exact holds_fresh h_mod g d
  · rw [h_eq] at h_i
    exact absurd h_i (by simp)

theorem BeatsPlaced.step {w : Watch} (inv : BeatsPlaced w) {e : HubEv} (h_e : IdFits e) :
    BeatsPlaced (w.step e) := by
  -- earlier heartbeats: taken slots keep their ids, full tables stay full
  have h_placed : ∀ x ∈ w.beats, ∀ i, x.slot = some i →
      Holds (Hub.step w.hub e).gDoors x.moduleId i :=
    fun x h_x i h_i => (inv.placed x h_x i h_i).step e
  have h_lost : ∀ x ∈ w.beats, x.slot = none → freeDoor (Hub.step w.hub e).gDoors = none ∧
      ∀ i, ¬ Holds (Hub.step w.hub e).gDoors x.moduleId i := by
    intro x h_x h_none
    obtain ⟨h_full, h_absent⟩ := inv.lost x h_x h_none
    exact ⟨freeDoor_step_of_full h_full e, fun i => not_holds_step_of_full h_full e (h_absent i)⟩
  rcases step_stamps_cases w.hub e with ⟨mod, type, args, t, h_line, h_doors⟩ | ⟨h_words, -⟩
  · have h_mod := h_e mod type args h_line.words
    rw [Watch.step_of_line w h_line]
    refine ⟨inv.ids.step h_e, fun x h_x i h_i => ?_, fun x h_x h_none => ?_⟩
    · rcases Watch.mem_beats_line h_x with h_old | ⟨-, rfl⟩
      · exact h_placed x h_old i h_i
      · obtain ⟨h_known, h_id⟩ := holds_storedId h_mod h_i
        obtain ⟨h_tag, h_same⟩ := step_tag_of_words w.hub h_line.words i
        exact ⟨h_tag.trans h_known, (congrArg CharBuf.str h_same).trans h_id⟩
    · rcases Watch.mem_beats_line h_x with h_old | ⟨-, rfl⟩
      · exact h_lost x h_old h_none
      · -- no slot for this line: the search has failed, and the table is full
        rcases findOrCreateDoor_cases mod w.hub.gDoors with
          ⟨d, -, h_eq⟩ | ⟨d, -, -, h_eq⟩ | ⟨h_find, h_full, -⟩
        · rw [h_eq] at h_none
          exact absurd h_none (by simp)
        · rw [h_eq] at h_none
          exact absurd h_none (by simp)
        · refine ⟨freeDoor_step_of_full h_full e, fun i => ?_⟩
          refine not_holds_step_of_full h_full e ?_
          dsimp only
          rw [storedId_of_fits h_mod]
          exact findDoor_eq_none_iff.mp h_find i
  · rw [Watch.step_of_words w h_words]
    exact ⟨inv.ids.step h_e, h_placed, h_lost⟩

/-- **Ids that fit are not shadowed**: in a run over ids of at most 15 characters only the first
kind of premature alarm is left. -/
theorem not_shadowed_of_fits (url : CharBuf 512) {es : List HubEv} (h_es : ∀ e ∈ es, IdFits e)
    (t : ℤ) (i : Fin HUB_MAX_DOORS) : ¬ Shadowed (watched url es) t i := by
  have inv : BeatsPlaced (watched url es) := by
    refine run_invariant_of_forall BeatsPlaced ?_ (BeatsPlaced.initial url) h_es
    intro w e h_e inv
    exact inv.step h_e
  intro h_shadowed
  obtain ⟨x, h_x, h_id, h_other, -⟩ := h_shadowed.elsewhere
  have h_known := h_shadowed.idle.known
  cases h_slot : x.slot with
  | some j =>
    -- the other slot has the same id, so it is this one
    obtain ⟨h_taken, h_str⟩ := inv.placed x h_x j h_slot
    have h_same := inv.ids.slots j i h_taken h_known (h_str.trans h_id)
    rw [h_slot, h_same] at h_other
    exact h_other rfl
  | none => exact (inv.lost x h_x h_slot).2 i ⟨h_known, h_id.symm⟩

/-- A module says HELLO twenty seconds after the clock's origin, and is called offline by the next
check. -/
theorem not_noPrematureOffline :
    ¬ NoPrematureOffline (CharBuf.zero _)
        [.datagram "D1 HELLO\n".toList ⟨1, 4001⟩ 20000 20000, .check 20001] ∧
      offlineEvent "D1".toList 20001 ∈ (historyCalls (reached (CharBuf.zero _)
        [.datagram "D1 HELLO\n".toList ⟨1, 4001⟩ 20000 20000]) (.check 20001)).map
          HistoryCall.event := by
  constructor
  · intro h_all
    have h_justified := h_all [.datagram "D1 HELLO\n".toList ⟨1, 4001⟩ 20000 20000] 20001 [] rfl 0
      (by decide +kernel)
    exact absurd h_justified.settled (by decide +kernel)
  · decide +kernel

/-- A module with an id of sixteen characters sends two heartbeats, five seconds apart. -/
def longIdBeats : List HubEv :=
  [.datagram "FRONTDOOR-LOBBY1 HEARTBEAT\n".toList ⟨1, 4001⟩ 20000 20000,
    .datagram "FRONTDOOR-LOBBY1 HEARTBEAT\n".toList ⟨1, 4001⟩ 25000 25000]

/-- The check that follows half a second after the timeout of the first heartbeat. -/
def longIdRun : HubRun where
  events := longIdBeats ++ [.check 30500]
  clock := by decide

/-- The second heartbeat has taken a slot of its own, and the first slot goes offline. -/
theorem noPrematureOffline_longIdRun : ¬ NoPrematureOffline (CharBuf.zero _) longIdRun.events := by
  intro h_all
  have h_settled := (noPrematureOffline_iff _ longIdRun).mp h_all
  refine (h_settled longIdBeats 30500 [] rfl 0).2 ⟨⟨?_, ?_, ?_, ?_⟩, ?_⟩
  · decide +kernel
  · decide +kernel
  · -- the slot's own heartbeat is that of 20000
    decide +kernel
  · exact fun _ => by decide
  · exact ⟨⟨storedId "FRONTDOOR-LOBBY1".toList, 25000, some 1⟩, by decide +kernel⟩

end Hub

end DoorSystem
