import DoorSystem.Hub.Flags

/-!
# What `last_online_ms` means

The header calls it the time when the module went offline, or 0 if it is online. The check writes
it when it turns the flag on and leaves it when it turns the flag off, so it is the time at which
the flag was last turned on (`LastOnline`), whether or not it is still on. `headerMeaning_iff` says
which runs keep to the header.
-/

namespace DoorSystem

open CLib

namespace Hub

/-! ### The time of the last alarm -/

/-- When the flag of slot `i` was last turned on in a run, where `t` is the time from before. -/
def turnedOnAt (i : Fin HUB_MAX_DOORS) : HubState → List HubEv → Option ℤ → Option ℤ
  | _, [], t => t
  | h, e :: es, t =>
    turnedOnAt i (step h e) es
      (if (h.gDoors i).offline = false ∧ ((step h e).gDoors i).offline = true then e.time else t)

/-- When the flag was last turned on since `hub_udp_init`. -/
def lastTurnedOn (i : Fin HUB_MAX_DOORS) (url : CharBuf 512) (es : List HubEv) : Option ℤ :=
  turnedOnAt i (HubState.initial url) es none

theorem turnedOnAt_concat (i : Fin HUB_MAX_DOORS) (h : HubState) (es : List HubEv) (e : HubEv)
    (t : Option ℤ) :
    turnedOnAt i h (es ++ [e]) t
      = if ((run step h es).gDoors i).offline = false ∧
          ((step (run step h es) e).gDoors i).offline = true
        then e.time else turnedOnAt i h es t := by
  induction es generalizing h t with
  | nil => rfl
  | cons e' es ih => exact ih (step h e') _

/-- What the header says about slot `i`. -/
structure HeaderMeaning (url : CharBuf 512) (es : List HubEv) (i : Fin HUB_MAX_DOORS) : Prop where
  online : ((reached url es).gDoors i).offline = false →
    ((reached url es).gDoors i).lastOnlineMs = 0
  offline : ((reached url es).gDoors i).offline = true →
    lastTurnedOn i url es = some ((reached url es).gDoors i).lastOnlineMs

/-- The header is right about all known modules in every state of the run. -/
def HeaderHolds (url : CharBuf 512) (es : List HubEv) : Prop :=
  ∀ pre, pre <+: es → ∀ i, ((reached url pre).gDoors i).known = true → HeaderMeaning url pre i

/-- The check at the time `now` takes the slot back from offline. -/
structure ComesBack (now : ℤ) (s : HubDoorStatus) : Prop where
  known : s.known = true
  flagged : s.offline = true
  heard : ¬ Silent now s

/-- No check of the run takes a slot back that went offline at another time than 0. -/
def NoneComesBack (url : CharBuf 512) (es : List HubEv) : Prop :=
  ∀ pre now post, es = pre ++ .check now :: post → ∀ i,
    ComesBack now ((reached url pre).gDoors i) → lastTurnedOn i url pre = some 0

/-! ### Who writes the field -/

theorem lineStatus_lastOnlineMs (mod type : CStr) (args : List CStr) (src : SockAddr) (t : ℤ)
    (s : HubDoorStatus) : (lineStatus mod type args src t s).lastOnlineMs = s.lastOnlineMs := by
  have h_addr : (updateLastAddr type src s).lastOnlineMs = s.lastOnlineMs := by
    unfold updateLastAddr
    split_ifs <;> rfl
  rw [← h_addr]
  have h_effect := lineEffect mod type args src t s
  generalize lineStatus mod type args src t s = s' at h_effect ⊢
  cases h_effect <;> rfl

/-- A slot that is not in use has the time 0. -/
def FreeUnstamped (g : DoorTable) : Prop := ∀ i, (g i).known = false → (g i).lastOnlineMs = 0

theorem findOrCreateDoor_lastOnlineMs (mod : CStr) {g : DoorTable} (h_free : FreeUnstamped g)
    (i : Fin HUB_MAX_DOORS) :
    ((findOrCreateDoor mod g).1 i).lastOnlineMs = (g i).lastOnlineMs := by
  rcases findOrCreateDoor_slot mod g i with h_same | ⟨h_unknown, h_new⟩
  · rw [h_same]
  · -- the new slot is cleared, and had the time 0 before
    rw [h_new, h_free i h_unknown]
    rfl

theorem lineDoors_lastOnlineMs (mod type : CStr) (args : List CStr) (src : SockAddr) (t : ℤ)
    {g : DoorTable} (h_free : FreeUnstamped g) (i : Fin HUB_MAX_DOORS) :
    (lineDoors mod type args src t g i).lastOnlineMs = (g i).lastOnlineMs := by
  rw [← findOrCreateDoor_lastOnlineMs mod h_free i]
  rcases lineDoors_slot mod type args src t g i with ⟨-, h_line⟩ | ⟨-, h_line⟩
  · rw [h_line, lineStatus_lastOnlineMs]
  · rw [h_line]

theorem checkedStatus_lastOnlineMs (now : ℤ) (s : HubDoorStatus) :
    (checkedStatus now s).lastOnlineMs
      = if s.offline = false ∧ (checkedStatus now s).offline = true then now
        else s.lastOnlineMs := by
  unfold checkedStatus
  split_ifs with h_free h_same h_down h_turned h_up h_turned h_turned
  · exact absurd (h_same.1.symm.trans h_same.2) (by simp)
  · rfl
  · rfl
  · exact absurd ⟨h_down.2, rfl⟩ h_turned
  · exact absurd h_turned.2 (by simp)
  · rfl
  · exact absurd (h_turned.1.symm.trans h_turned.2) (by simp)
  · rfl

/-- **Step.** The field changes when the flag is turned on, and then to the time of the check. -/
theorem step_lastOnlineMs {h : HubState} (h_unflagged : FreeUnflagged h.gDoors)
    (h_free : FreeUnstamped h.gDoors) (e : HubEv) (i : Fin HUB_MAX_DOORS) :
    ((h.gDoors i).offline = false ∧ ((step h e).gDoors i).offline = true ∧
      e.time = some ((step h e).gDoors i).lastOnlineMs) ∨
    (¬ ((h.gDoors i).offline = false ∧ ((step h e).gDoors i).offline = true) ∧
      ((step h e).gDoors i).lastOnlineMs = (h.gDoors i).lastOnlineMs) := by
  cases e with
  | datagram data src t tReg =>
    refine Or.inr ⟨?_, ?_⟩
    · -- a datagram turns no flag
      rw [step_offline_of_datagram h_unflagged]
      exact fun h_both => absurd (h_both.1.symm.trans h_both.2) (by simp)
    · rcases words_cases (lineTokens (datagramLine data)) with ⟨mod, type, args, h_words⟩ | h_words
      · -- and sets the stamp of no slot that is known
        rw [step_datagram_gDoors h_words]
        exact lineDoors_lastOnlineMs mod type args src t h_free i
      · rw [step_datagram_short h_words]
  | check now =>
    rw [step_check_gDoors, checkedStatus_lastOnlineMs]
    -- the check sets it in the slots that it flags
    by_cases h_turned : (h.gDoors i).offline = false ∧
        (checkedStatus now (h.gDoors i)).offline = true
    · rw [if_pos h_turned]
      exact Or.inl ⟨h_turned.1, h_turned.2, rfl⟩
    · rw [if_neg h_turned]
      exact Or.inr ⟨h_turned, rfl⟩
  | alloc => exact Or.inr ⟨fun h_both => absurd (h_both.1.symm.trans h_both.2) (by simp), rfl⟩

theorem FreeUnstamped.step {h : HubState} (h_unflagged : FreeUnflagged h.gDoors)
    (h_free : FreeUnstamped h.gDoors) (e : HubEv) : FreeUnstamped (Hub.step h e).gDoors := by
  intro i h_i
  have h_before := free_of_step h_i
  rcases step_lastOnlineMs h_unflagged h_free e i with ⟨-, h_on, -⟩ | ⟨-, h_same⟩
  · -- a free slot does not go offline
    rw [h_unflagged.step e i h_i] at h_on
    exact absurd h_on (by simp)
  · rw [h_same, h_free i h_before]

theorem freeUnstamped_reached (url : CharBuf 512) (es : List HubEv) :
    FreeUnstamped (reached url es).gDoors := by
  have h_both : FreeUnflagged (reached url es).gDoors ∧ FreeUnstamped (reached url es).gDoors :=
    run_invariant (fun h : HubState => FreeUnflagged h.gDoors ∧ FreeUnstamped h.gDoors)
      (fun _ e h_free => ⟨h_free.1.step e, h_free.2.step h_free.1 e⟩)
      ⟨fun _ _ => rfl, fun _ _ => rfl⟩ es
  exact h_both.2

/-! ### The invariant -/

/-- The field is the time at which the flag was last turned on, and 0 if it never was. -/
structure LastOnline (s : HubDoorStatus) (t : Option ℤ) : Prop where
  stamp : s.lastOnlineMs = t.getD 0
  flagged : s.offline = true → t ≠ none

theorem lastOnline_reached (url : CharBuf 512) (es : List HubEv) (i : Fin HUB_MAX_DOORS) :
    LastOnline ((reached url es).gDoors i) (lastTurnedOn i url es) := by
  induction es using List.reverseRecOn with
  | nil => exact ⟨rfl, fun h_on => absurd h_on (by simp [reached, HubState.initial,
      HubDoorStatus.zero])⟩
  | append_singleton es e ih =>
    unfold lastTurnedOn
    rw [turnedOnAt_concat, reached_concat]
    show LastOnline ((step (reached url es) e).gDoors i)
      (if ((reached url es).gDoors i).offline = false ∧
          ((step (reached url es) e).gDoors i).offline = true
        then e.time else lastTurnedOn i url es)
    rcases step_lastOnlineMs (freeUnflagged_reached url es) (freeUnstamped_reached url es) e i with
      ⟨h_off, h_on, h_time⟩ | ⟨h_not, h_same⟩
    · rw [if_pos ⟨h_off, h_on⟩, h_time]
      exact ⟨rfl, fun _ => by simp⟩
    · rw [if_neg h_not]
      refine ⟨h_same.trans ih.stamp, fun h_on => ih.flagged ?_⟩
      -- the flag is on now and was not turned on, so it was on before
      by_contra h_off
      exact h_not ⟨by simpa using h_off, h_on⟩

/-- While the flag is on the field is what the header says. -/
theorem LastOnline.time {s : HubDoorStatus} {t : Option ℤ} (h_last : LastOnline s t)
    (h_on : s.offline = true) : t = some s.lastOnlineMs := by
  obtain ⟨t', rfl⟩ := Option.ne_none_iff_exists'.mp (h_last.flagged h_on)
  exact congrArg some h_last.stamp.symm

/-- A flag that an event turns off is that of a slot that comes back. -/
theorem comesBack_of_turned_off {h : HubState} (h_unflagged : FreeUnflagged h.gDoors) {e : HubEv}
    {i : Fin HUB_MAX_DOORS} (h_on : (h.gDoors i).offline = true)
    (h_off : ((step h e).gDoors i).offline = false) :
    ∃ now, e = .check now ∧ ComesBack now (h.gDoors i) := by
  cases e with
  | datagram data src t tReg =>
    -- no datagram takes the flag away
    rw [step_offline_of_datagram h_unflagged, h_on] at h_off
    exact absurd h_off (by simp)
  | check now =>
    have h_known : (h.gDoors i).known = true := by
      by_contra h_free
      rw [h_unflagged i (by simpa using h_free)] at h_on
      exact absurd h_on (by simp)
    rw [step_check_gDoors, checkedStatus_offline now h_known] at h_off
    exact ⟨now, rfl, h_known, h_on, of_decide_eq_false h_off⟩
  | alloc =>
    change (h.gDoors i).offline = false at h_off
    rw [h_on] at h_off
    exact absurd h_off (by simp)

/-- In such a run the field of a slot without the flag is still 0. -/
theorem NoneComesBack.online {url : CharBuf 512} {es : List HubEv} (h_none : NoneComesBack url es)
    {pre : List HubEv} (h_pre : pre <+: es) {i : Fin HUB_MAX_DOORS}
    (h_off : ((reached url pre).gDoors i).offline = false) :
    ((reached url pre).gDoors i).lastOnlineMs = 0 := by
  induction pre using List.reverseRecOn with
  | nil => rfl
  | append_singleton pre e ih =>
    rw [reached_concat] at h_off ⊢
    rcases step_lastOnlineMs (freeUnflagged_reached url pre) (freeUnstamped_reached url pre) e i
      with ⟨-, h_on, -⟩ | ⟨-, h_same⟩
    · rw [h_off] at h_on
      exact absurd h_on (by simp)
    · rw [h_same]
      by_cases h_before : ((reached url pre).gDoors i).offline = true
      · -- the flag was on, so this event is a check that takes the slot back
        obtain ⟨now, rfl, h_back⟩ :=
          comesBack_of_turned_off (freeUnflagged_reached url pre) h_before h_off
        obtain ⟨post, h_post⟩ := h_pre
        have h_zero := h_none pre now post (by rw [← h_post]; simp) i h_back
        rw [(lastOnline_reached url pre i).stamp, h_zero]
        rfl
      · exact ih ((List.prefix_append pre [e]).trans h_pre) (by simpa using h_before)

/-! ### The result -/

/-- **When the header is right.** In every run, `last_online_ms` means what the header says in
every state if and only if no check takes a slot back that went offline at another time than 0. -/
theorem headerMeaning_iff (url : CharBuf 512) (es : List HubEv) :
    HeaderHolds url es ↔ NoneComesBack url es := by
  constructor
  · rintro h_all pre now post rfl i ⟨h_known, h_on, h_heard⟩
    have h_time := (lastOnline_reached url pre i).time h_on
    -- the check turns the flag off, and the field is to be 0 then
    have h_after : (reached url (pre ++ [.check now])).gDoors i
        = checkedStatus now ((reached url pre).gDoors i) := by
      rw [reached_concat, step_check_gDoors]
    have h_checked : checkedStatus now ((reached url pre).gDoors i)
        = { (reached url pre).gDoors i with offline := false } := by
      unfold checkedStatus
      rw [if_neg (by simp [h_known]), if_neg (fun h_both => h_heard h_both.1),
        if_pos ⟨h_heard, h_on⟩]
    rw [h_checked] at h_after
    have h_header := h_all (pre ++ [.check now]) ⟨post, by simp⟩ i (by rw [h_after]; exact h_known)
    have h_zero := h_header.online (by rw [h_after])
    rw [h_after] at h_zero
    rw [h_time]
    exact congrArg some h_zero
  · intro h_none pre h_pre i _
    exact ⟨h_none.online h_pre, (lastOnline_reached url pre i).time⟩

/-- A module goes offline and comes back: it is online, and the field still has the time at which
it went. -/
theorem not_headerHolds :
    ¬ HeaderHolds (CharBuf.zero _)
      [.datagram "D1 HELLO\n".toList ⟨1, 4001⟩ 20000 20000, .check 20001,
        .datagram "D1 HEARTBEAT D0=CLOSED,LOCKED\n".toList ⟨1, 4001⟩ 20002 20002,
        .check 20003] := by
  intro h_all
  have h_header := h_all _ (List.prefix_refl _) 0 (by decide +kernel)
  exact absurd (h_header.online (by decide +kernel)) (by decide +kernel)

end Hub

end DoorSystem
