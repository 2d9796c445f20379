import DoorSystem.Hub.Line

/-!
# The history of the hub

`hub_udp_get_history` against the log of `add_history` calls. The ring represents the log
(`History.represents_addHistories`), so the stored entries are its last 256 ones. The function
copies from the oldest stored entry on, whatever the number of events it was asked for
(`hubUdpGetHistory_eq`); these are the most recent ones exactly when everything stored was asked
for, or when the stored entries repeat with the right period (`hubUdpGetHistory_recent_iff`).
-/

namespace DoorSystem

open CLib

namespace Hub

/-- The arguments of one `add_history` call. -/
structure HistoryCall where
  moduleId : CStr
  line : CStr
  t : ℤ

/-- The entry that a call stores. -/
def HistoryCall.event (c : HistoryCall) : HubEvent :=
  { timestampMs := c.t, moduleId := snprintf _ c.moduleId, line := snprintf _ c.line }

/-- The ring after a sequence of calls. -/
def addHistories (g : History) (cs : List HistoryCall) : History :=
  run (fun g c => addHistory c.moduleId c.line c.t g) g cs

/-- `hub_udp_get_history`: the number that is returned and the entries of `out` that are
filled. -/
def hubUdpGetHistory (maxEvents : ℤ) (g : History) : ℕ × List HubEvent :=
  if maxEvents ≤ 0 then (0, [])
  else
    let count := if (g.count : ℤ) < maxEvents then g.count else maxEvents.toNat
    let start := (g.head + HUB_MAX_HISTORY - g.count) % HUB_MAX_HISTORY
    (count, (List.range count).map
      (fun i => g.cells (Fin.ofNat _ ((start + i) % HUB_MAX_HISTORY))))

/-- **The ring is the log.** -/
theorem History.represents_addHistories {g : History} {xs : List HubEvent} (h : g.Represents xs)
    (cs : List HistoryCall) : (addHistories g cs).Represents (xs ++ cs.map HistoryCall.event) := by
  induction cs generalizing g xs with
  | nil =>
    rw [List.map_nil, List.append_nil]
    exact h
  | cons c cs ih =>
    have h_step := ih (h.push c.event)
    rw [List.append_assoc, List.singleton_append] at h_step
    exact h_step

theorem represents_initial (url : CharBuf 512) (cs : List HistoryCall) :
    (addHistories (HubState.initial url).gHistory cs).Represents (cs.map HistoryCall.event) :=
  History.represents_addHistories (Ring.Represents.empty _) cs

/-- What is copied: the oldest stored entries. -/
theorem hubUdpGetHistory_eq {g : History} {xs : List HubEvent} (h : g.Represents xs)
    (maxEvents : ℤ) :
    hubUdpGetHistory maxEvents g =
      (min (min xs.length HUB_MAX_HISTORY) maxEvents.toNat,
        (Ring.stored HUB_MAX_HISTORY xs).take maxEvents.toNat) := by
  unfold hubUdpGetHistory
  split
  · next h_neg =>
    have h_zero : maxEvents.toNat = 0 := by omega
    simp [h_zero]
  · next h_pos =>
    -- the number of entries that are copied
    have h_count : (if (g.count : ℤ) < maxEvents then g.count else maxEvents.toNat)
        = min (min xs.length HUB_MAX_HISTORY) maxEvents.toNat := by
      rw [h.count_eq]
      split <;> omega
    have h_window := h.window (k := min (min xs.length HUB_MAX_HISTORY) maxEvents.toNat)
      (min_le_left _ _)
    -- the list is no longer than the count, so one bound is enough
    have h_take : (Ring.stored HUB_MAX_HISTORY xs).take
          (min (min xs.length HUB_MAX_HISTORY) maxEvents.toNat)
        = (Ring.stored HUB_MAX_HISTORY xs).take maxEvents.toNat := by
      rw [min_comm, ← List.take_take, List.take_of_length_le
        (by rw [Ring.length_stored] : (Ring.stored HUB_MAX_HISTORY xs).length ≤ _)]
    rw [h_count, ← h_take, ← h_window]
    rfl

/-- `hub_udp_get_history` returns the number of entries it can and fills `out` with exactly the
most recent ones, oldest first. -/
def ReturnsRecent (g : History) (xs : List HubEvent) (maxEvents : ℤ) : Prop :=
  hubUdpGetHistory maxEvents g =
    (min (min xs.length HUB_MAX_HISTORY) maxEvents.toNat,
      xs.drop (xs.length - min (min xs.length HUB_MAX_HISTORY) maxEvents.toNat))

/-- A list agrees with its own end on its first `k` entries. -/
theorem take_eq_drop_iff {α : Type*} {w : List α} {k : ℕ} (hk : k ≤ w.length) :
    w.take k = w.drop (w.length - k) ↔ ∀ i < k, w[i]? = w[i + (w.length - k)]? := by
  constructor
  · intro h i hi
    have h_get := congrArg (fun l : List α => l[i]?) h
    simp only [List.getElem?_take_of_lt hi, List.getElem?_drop] at h_get
    rw [h_get, Nat.add_comm]
  · intro h
    apply List.ext_getElem?
    intro i
    -- both lists have `k` entries
    rcases Nat.lt_or_ge i k with hi | hi
    · rw [List.getElem?_take_of_lt hi, List.getElem?_drop, h i hi, Nat.add_comm]
    · rw [List.getElem?_eq_none (by rw [List.length_take]; omega),
        List.getElem?_eq_none (by rw [List.length_drop]; omega)]

/-- The most recent entries of the log are the last ones of its stored part. -/
theorem drop_eq_drop_stored {α : Type*} (N : ℕ) (xs : List α) {k : ℕ}
    (hk : k ≤ min xs.length N) :
    xs.drop (xs.length - k) = (Ring.stored N xs).drop ((Ring.stored N xs).length - k) := by
  rw [Ring.length_stored]
  unfold Ring.stored
  rw [List.drop_drop]
  congr 1
  omega

/-- **When the most recent events are returned.** After any sequence of `add_history` calls, and
for any bound, `hub_udp_get_history` returns the most recent events exactly when the bound does
not cut off anything that is stored, or when the stored entries happen to repeat: the first
`maxEvents` of them are equal to the last `maxEvents` of them, one by one. -/
theorem hubUdpGetHistory_recent_iff (url : CharBuf 512) (cs : List HistoryCall) (maxEvents : ℤ) :
    ReturnsRecent (addHistories (HubState.initial url).gHistory cs)
        (cs.map HistoryCall.event) maxEvents ↔
      (min cs.length HUB_MAX_HISTORY : ℕ) ≤ maxEvents ∨
      ∀ i < maxEvents.toNat,
        (Ring.stored HUB_MAX_HISTORY (cs.map HistoryCall.event))[i]? =
          (Ring.stored HUB_MAX_HISTORY (cs.map HistoryCall.event))[i +
            (min cs.length HUB_MAX_HISTORY - maxEvents.toNat)]? := by
  have h_rep := represents_initial url cs
  have h_len : (cs.map HistoryCall.event).length = cs.length := List.length_map _
  -- from here on only the length of the log matters
  generalize cs.map HistoryCall.event = xs at h_rep h_len ⊢
  unfold ReturnsRecent
  rw [hubUdpGetHistory_eq h_rep, ← h_len]
  simp only [Prod.mk.injEq, true_and]
  rcases le_or_gt ((min xs.length HUB_MAX_HISTORY : ℕ) : ℤ) maxEvents with h_all | h_cut
  · -- everything stored is copied
    have h_min : min (min xs.length HUB_MAX_HISTORY) maxEvents.toNat
        = min xs.length HUB_MAX_HISTORY := by omega
    refine iff_of_true ?_ (Or.inl h_all)
    have h_start : xs.length - HUB_MAX_HISTORY
        = xs.length - min xs.length HUB_MAX_HISTORY := by omega
    rw [h_min, List.take_of_length_le (by rw [Ring.length_stored]; omega), ← h_start]
    rfl
  · -- the copy stops short of the newest entry
    have h_min : min (min xs.length HUB_MAX_HISTORY) maxEvents.toNat = maxEvents.toNat := by
      omega
    have h_le : maxEvents.toNat ≤ min xs.length HUB_MAX_HISTORY := by omega
    rw [h_min, drop_eq_drop_stored HUB_MAX_HISTORY xs h_le,
      take_eq_drop_iff (by rw [Ring.length_stored]; exact h_le), Ring.length_stored]
    constructor
    · exact Or.inr
    · rintro (h | h)
      · exact absurd h (by omega)
      · exact h

/-- Two events and room for one: the older one is returned. -/
theorem not_returnsRecent :
    ¬ ∀ (url : CharBuf 512) (cs : List HistoryCall) (maxEvents : ℤ), 0 < maxEvents →
      ReturnsRecent (addHistories (HubState.initial url).gHistory cs)
        (cs.map HistoryCall.event) maxEvents := by
  intro h
  have h_two := h (CharBuf.zero _)
    [⟨"D1".toList, "D1 HELLO".toList, 1⟩, ⟨"D1".toList, "D1 EVENT".toList, 2⟩] 1 (by norm_num)
  revert h_two
  unfold ReturnsRecent
  decide +kernel

end Hub

end DoorSystem
