import DoorSystem.Hub.Tables
import DoorSystem.Lib.Run

/-!
# Which pending command is dropped from a full table

`register_client_command` takes the first free slot and, on a full table, the slot whose
`issued_ms` is the smallest; its variable is called `oldest_ms`. The stamps count milliseconds, so
several slots can hold the smallest one. Then the lowest of them is taken, and on a table of equal
stamps this is the slot that was taken last.

`survives_iff`: in a run of registrations and lookups every entry outlives a full table's worth of
newer ones exactly when the slot that loses its entry was filled at least that long ago.
-/

namespace DoorSystem

open CLib

namespace Hub

/-! ### Runs of the pending table -/

/-- A call on the pending table. -/
inductive PendingOp
  /-- `register_client_command`, with the time that its `now_ms()` returns. -/
  | register (cmdid : ℤ) (moduleId : CStr) (clientAddr : SockAddr) (now : ℤ)
  /-- `get_and_clear_client_cmd`. -/
  | lookup (moduleId : CStr) (cmdid : ℤ)
deriving DecidableEq

/-- The table after a call. -/
def stepPending (g : PendingTable) : PendingOp → PendingTable
  | .register cmdid moduleId clientAddr now =>
    registerClientCommand cmdid moduleId clientAddr now g
  | .lookup moduleId cmdid => (getAndClearClientCmd moduleId cmdid g).1

/-- The cleared table. -/
def PendingTable.empty : PendingTable := fun _ => ⟨0, SockAddr.zero, CharBuf.zero _, 0⟩

/-- The table after the calls `ops`. -/
def pendingAfter (ops : List PendingOp) : PendingTable := run stepPending PendingTable.empty ops

/-- The id that a call registers. -/
def PendingOp.registered : PendingOp → Option ℤ
  | .register cmdid _ _ _ => some cmdid
  | .lookup _ _ => none

/-- The stamp that a call writes. -/
def PendingOp.stamp : PendingOp → Option ℤ
  | .register _ _ _ now => some now
  | .lookup _ _ => none

/-- The ids that are registered, oldest first. -/
def registeredIds (ops : List PendingOp) : List ℤ := ops.filterMap PendingOp.registered

/-- A sequence of calls: the ids are distinct and not 0, the module ids fit into their buffers, and
the clock does not go back. -/
structure PendingRun where
  ops : List PendingOp
  nodup : (registeredIds ops).Nodup
  nonzero : (0 : ℤ) ∉ registeredIds ops
  fits : ∀ c m a t, .register c m a t ∈ ops → m.length ≤ 15
  clock : (ops.filterMap PendingOp.stamp).Pairwise (· ≤ ·)

/-! ### The property and its condition -/

/-- After every registration that was not looked up since, and with fewer than a full table of
further ones, a lookup finds the entry with its client. -/
def Survives (ops : List PendingOp) : Prop :=
  ∀ pre c m a t post rest, ops = pre ++ .register c m a t :: (post ++ rest) →
    .lookup m c ∉ post → (registeredIds post).length < HUB_MAX_PENDING_CMDS →
    (getAndClearClientCmd m c (pendingAfter (pre ++ .register c m a t :: post))).2 = some a

/-- The table is full, and `i` is the lowest slot with the smallest stamp. -/
structure Victim (g : PendingTable) (i : Fin HUB_MAX_PENDING_CMDS) : Prop where
  full : ∀ j, (g j).cmdid ≠ 0
  smallest : ∀ j, (g i).issuedMs ≤ (g j).issuedMs
  lowest : ∀ j < i, (g i).issuedMs < (g j).issuedMs

/-- The number of registrations after the one of `c`. -/
def followers (c : ℤ) (ids : List ℤ) : ℕ := (ids.reverse.takeWhile (fun c' => c' ≠ c)).length

/-- Each registration that finds the table full, and every slot with a stamp, meets a victim that
a full table of registrations has followed, itself included. -/
def EvictsOld (ops : List PendingOp) : Prop :=
  ∀ pre c m a t rest, ops = pre ++ .register c m a t :: rest →
    ∀ i, Victim (pendingAfter pre) i →
      HUB_MAX_PENDING_CMDS ≤ followers (pendingAfter pre i).cmdid (registeredIds pre) + 1

/-! ### The slot that is written -/

/-- The scan of a list with a free slot stops at the first one. -/
theorem registerScan_of_free {g : PendingTable} {is : List (Fin HUB_MAX_PENDING_CMDS)}
    (h_free : ∃ i ∈ is, (g i).cmdid = 0) (slot : Fin HUB_MAX_PENDING_CMDS) (oldestMs : ℤ) :
    ∃ pre post, is = pre ++ registerScan g is slot oldestMs :: post ∧
      (∀ j ∈ pre, (g j).cmdid ≠ 0) ∧ (g (registerScan g is slot oldestMs)).cmdid = 0 := by
  induction is generalizing slot oldestMs with
  | nil =>
    obtain ⟨i, h_i, -⟩ := h_free
    exact absurd h_i List.not_mem_nil
  | cons i is ih =>
    unfold registerScan
    by_cases h_i : (g i).cmdid = 0
    · rw [if_pos h_i]
      exact ⟨[], is, rfl, by simp, h_i⟩
    · -- a taken slot is passed, whatever becomes of the smallest stamp so far
      rw [if_neg h_i]
      have h_rest : ∃ j ∈ is, (g j).cmdid = 0 := by
        obtain ⟨j, h_j, h_zero⟩ := h_free
        rcases List.mem_cons.mp h_j with rfl | h_j
        · exact absurd h_zero h_i
        · exact ⟨j, h_j, h_zero⟩
      split_ifs
      · obtain ⟨pre, post, h_eq, h_pre, h_zero⟩ := ih h_rest i (g i).issuedMs
        exact ⟨i :: pre, post, congrArg _ h_eq, List.forall_mem_cons.mpr ⟨h_i, h_pre⟩, h_zero⟩
      · obtain ⟨pre, post, h_eq, h_pre, h_zero⟩ := ih h_rest slot oldestMs
        exact ⟨i :: pre, post, congrArg _ h_eq, List.forall_mem_cons.mpr ⟨h_i, h_pre⟩, h_zero⟩

/-- The scan of a full list ends at its first slot with the smallest stamp, or keeps the slot it
started with when no stamp is smaller. -/
theorem registerScan_of_full {g : PendingTable} {is : List (Fin HUB_MAX_PENDING_CMDS)}
    (h_full : ∀ i ∈ is, (g i).cmdid ≠ 0) (slot : Fin HUB_MAX_PENDING_CMDS) :
    (registerScan g is slot (g slot).issuedMs = slot ∧
        ∀ j ∈ is, (g slot).issuedMs ≤ (g j).issuedMs) ∨
      ∃ pre i post, is = pre ++ i :: post ∧ registerScan g is slot (g slot).issuedMs = i ∧
        (g i).issuedMs < (g slot).issuedMs ∧ (∀ j ∈ pre, (g i).issuedMs < (g j).issuedMs) ∧
        ∀ j ∈ post, (g i).issuedMs ≤ (g j).issuedMs := by
  induction is generalizing slot with
  | nil => exact Or.inl ⟨rfl, by simp⟩
  | cons i is ih =>
    obtain ⟨h_i, h_is⟩ := List.forall_mem_cons.mp h_full
    unfold registerScan
    rw [if_neg h_i]
    split_ifs with h_lt
    · -- `i` is the smallest so far
      right
      rcases ih h_is i with ⟨h_eq, h_min⟩ | ⟨pre, j, post, h_split, h_eq, h_less, h_pre, h_post⟩
      · exact ⟨[], i, is, rfl, h_eq, h_lt, by simp, h_min⟩
      · exact ⟨i :: pre, j, post, congrArg _ h_split, h_eq, h_less.trans h_lt,
          List.forall_mem_cons.mpr ⟨h_less, h_pre⟩, h_post⟩
    · rcases ih h_is slot with ⟨h_eq, h_min⟩ | ⟨pre, j, post, h_split, h_eq, h_less, h_pre, h_post⟩
      · exact Or.inl ⟨h_eq, List.forall_mem_cons.mpr ⟨not_lt.mp h_lt, h_min⟩⟩
      · exact Or.inr ⟨i :: pre, j, post, congrArg _ h_split, h_eq, h_less,
          List.forall_mem_cons.mpr ⟨h_less.trans_le (not_lt.mp h_lt), h_pre⟩, h_post⟩

/-- In the list of all slots the lower ones stand in front. -/
theorem mem_of_lt_of_finRange {n : ℕ} {pre post : List (Fin n)} {i j : Fin n}
    (h_split : List.finRange n = pre ++ i :: post) (h_lt : j < i) : j ∈ pre := by
  have h_mem : j ∈ pre ++ i :: post := h_split ▸ List.mem_finRange j
  have h_sorted : (pre ++ i :: post).Pairwise (· < ·) := h_split ▸ List.pairwise_lt_finRange n
  rcases List.mem_append.mp h_mem with h_pre | h_post
  · exact h_pre
  · rcases List.mem_cons.mp h_post with rfl | h_post
    · exact absurd h_lt (lt_irrefl _)
    · have h_after := List.rel_of_pairwise_cons (List.pairwise_append.mp h_sorted).2.1 h_post
      exact absurd h_lt (not_lt.mpr h_after.le)

/-- A table that is not full loses nothing: its first free slot is written. -/
theorem registerSlot_of_free {g : PendingTable} (h_free : ∃ i, (g i).cmdid = 0) :
    (g (registerSlot g)).cmdid = 0 ∧ ∀ j < registerSlot g, (g j).cmdid ≠ 0 := by
  obtain ⟨i, h_i⟩ := h_free
  obtain ⟨pre, post, h_split, h_pre, h_zero⟩ := registerScan_of_free (g := g)
    ⟨i, List.mem_finRange i, h_i⟩ 0 (g 0).issuedMs
  exact ⟨h_zero, fun j h_j => h_pre j (mem_of_lt_of_finRange h_split h_j)⟩

/-- A full table loses its victim. -/
theorem victim_registerSlot {g : PendingTable} (h_full : ∀ i, (g i).cmdid ≠ 0) :
    Victim g (registerSlot g) := by
  have h_all : ∀ i ∈ List.finRange HUB_MAX_PENDING_CMDS, (g i).cmdid ≠ 0 := fun i _ => h_full i
  rcases registerScan_of_full h_all 0 with
    ⟨h_eq, h_min⟩ | ⟨pre, i, post, h_split, h_eq, -, h_pre, h_post⟩
  · -- the scan has found nothing older than its start, the first entry
    refine ⟨h_full, fun j => ?_, fun j h_j => ?_⟩
    · unfold registerSlot
      rw [h_eq]
      exact h_min j (List.mem_finRange j)
    · unfold registerSlot at h_j
      rw [h_eq] at h_j
      exact absurd h_j (Fin.not_lt_zero j)
  · -- or it ends at `i`, with younger entries before and none older behind
    have h_slot : registerSlot g = i := h_eq
    rw [h_slot]
    refine ⟨h_full, fun j => ?_, fun j h_j => h_pre j (mem_of_lt_of_finRange h_split h_j)⟩
    have h_mem : j ∈ pre ++ i :: post := h_split ▸ List.mem_finRange j
    rcases List.mem_append.mp h_mem with h_j | h_j
    · exact (h_pre j h_j).le
    · rcases List.mem_cons.mp h_j with rfl | h_j
      · exact le_rfl
      · exact h_post j h_j

theorem Victim.eq_registerSlot {g : PendingTable} {i : Fin HUB_MAX_PENDING_CMDS}
    (h : Victim g i) : i = registerSlot g := by
  have h_slot := victim_registerSlot h.full
  rcases lt_trichotomy i (registerSlot g) with h_lt | h_eq | h_gt
  · exact absurd (h_slot.lowest i h_lt) (not_lt.mpr (h.smallest _))
  · exact h_eq
  · exact absurd (h.lowest _ h_gt) (not_lt.mpr (h_slot.smallest i))

/-! ### Where the entries come from -/

theorem registeredIds_append (xs ys : List PendingOp) :
    registeredIds (xs ++ ys) = registeredIds xs ++ registeredIds ys := List.filterMap_append

@[simp] theorem registeredIds_register (c : ℤ) (m : CStr) (a : SockAddr) (t : ℤ)
    (ops : List PendingOp) :
    registeredIds (.register c m a t :: ops) = c :: registeredIds ops := rfl

@[simp] theorem registeredIds_lookup (m : CStr) (c : ℤ) (ops : List PendingOp) :
    registeredIds (.lookup m c :: ops) = registeredIds ops := rfl

theorem mem_registeredIds {c : ℤ} {m : CStr} {a : SockAddr} {t : ℤ} {ops : List PendingOp}
    (h : .register c m a t ∈ ops) : c ∈ registeredIds ops :=
  List.mem_filterMap.mpr ⟨_, h, rfl⟩

theorem pendingAfter_concat (ops : List PendingOp) (op : PendingOp) :
    pendingAfter (ops ++ [op]) = stepPending (pendingAfter ops) op := by
  unfold pendingAfter
  rw [run_append, run_cons, run_nil]

/-- Distinct ids tell the registrations of a run apart. -/
theorem register_unique {ops : List PendingOp} (h_nodup : (registeredIds ops).Nodup) {c : ℤ}
    {m m' : CStr} {a a' : SockAddr} {t t' : ℤ} (h : .register c m a t ∈ ops)
    (h' : .register c m' a' t' ∈ ops) :
    PendingOp.register c m a t = PendingOp.register c m' a' t' := by
  obtain ⟨pre, post, rfl⟩ := List.append_of_mem h
  rw [registeredIds_append, registeredIds_register, List.nodup_middle, List.nodup_cons,
    List.mem_append, not_or] at h_nodup
  rcases List.mem_append.mp h' with h_pre | h_post
  · exact absurd (mem_registeredIds h_pre) h_nodup.1.1
  · rcases List.mem_cons.mp h_post with h_eq | h_post
    · exact h_eq.symm
    · exact absurd (mem_registeredIds h_post) h_nodup.1.2

/-- No slot has the id `c`. -/
def Absent (c : ℤ) (g : PendingTable) : Prop := ∀ i, (g i).cmdid ≠ c

/-- The taken slots of a table are those of registrations among `ops`, one slot each. -/
structure PendingInv (ops : List PendingOp) (g : PendingTable) : Prop where
  sourced : ∀ i, (g i).cmdid ≠ 0 → ∃ m t,
    .register (g i).cmdid m (g i).clientAddr t ∈ ops ∧ (g i).moduleId = snprintf _ m
  distinct : ∀ i j, (g i).cmdid ≠ 0 → (g i).cmdid = (g j).cmdid → i = j

theorem PendingInv.empty : PendingInv [] PendingTable.empty where
  sourced := fun _ h => absurd rfl h
  distinct := fun _ _ h => absurd rfl h

/-- Only ids that were registered are in the table. -/
theorem PendingInv.absent {ops : List PendingOp} {g : PendingTable} (inv : PendingInv ops g)
    {c : ℤ} (h_zero : c ≠ 0) (h_new : c ∉ registeredIds ops) : Absent c g := by
  intro i h_c
  obtain ⟨m, t, h_mem, -⟩ := inv.sourced i (by rw [h_c]; exact h_zero)
  rw [h_c] at h_mem
  exact h_new (mem_registeredIds h_mem)

/-- A registration with a new id. -/
theorem PendingInv.register {ops : List PendingOp} {g : PendingTable} (inv : PendingInv ops g)
    {c : ℤ} (h_zero : c ≠ 0) (h_new : c ∉ registeredIds ops) (m : CStr) (a : SockAddr) (t : ℤ) :
    PendingInv (ops ++ [.register c m a t]) (registerClientCommand c m a t g) := by
  have h_absent := inv.absent h_zero h_new
  unfold registerClientCommand
  constructor
  · intro i h_i
    by_cases h_slot : i = registerSlot g
    · subst h_slot
      rw [Function.update_self]
      exact ⟨m, t, by simp, rfl⟩
    · rw [Function.update_of_ne h_slot] at h_i ⊢
      obtain ⟨m', t', h_mem, h_id⟩ := inv.sourced i h_i
      exact ⟨m', t', List.mem_append_left _ h_mem, h_id⟩
  · intro i j h_i h_eq
    -- the new id is in no other slot
    by_cases h_slot : i = registerSlot g
    · by_cases h_slot' : j = registerSlot g
      · exact h_slot.trans h_slot'.symm
      · rw [h_slot, Function.update_self, Function.update_of_ne h_slot'] at h_eq
        exact absurd h_eq.symm (h_absent j)
    · by_cases h_slot' : j = registerSlot g
      · rw [h_slot', Function.update_self, Function.update_of_ne h_slot] at h_eq
        exact absurd h_eq (h_absent i)
      · rw [Function.update_of_ne h_slot] at h_i h_eq
        rw [Function.update_of_ne h_slot'] at h_eq
        exact inv.distinct i j h_i h_eq

/-- Freeing a slot. -/
theorem PendingInv.clear {ops : List PendingOp} {g : PendingTable} (inv : PendingInv ops g)
    (i : Fin HUB_MAX_PENDING_CMDS) :
    PendingInv ops (Function.update g i { g i with cmdid := 0 }) := by
  constructor
  · intro j h_j
    -- the freed entry has no source any more
    by_cases h_slot : j = i
    · rw [h_slot, Function.update_self] at h_j
      exact absurd rfl h_j
    · rw [Function.update_of_ne h_slot] at h_j ⊢
      exact inv.sourced j h_j
  · intro j k h_j h_eq
    -- and no number that another one could share
    by_cases h_slot : j = i
    · rw [h_slot, Function.update_self] at h_j
      exact absurd rfl h_j
    · rw [Function.update_of_ne h_slot] at h_j h_eq
      by_cases h_slot' : k = i
      · rw [h_slot', Function.update_self] at h_eq
        exact absurd h_eq h_j
      · rw [Function.update_of_ne h_slot'] at h_eq
        exact inv.distinct j k h_j h_eq

theorem PendingInv.mono {ops : List PendingOp} {g : PendingTable} (inv : PendingInv ops g)
    (op : PendingOp) : PendingInv (ops ++ [op]) g where
  sourced := fun i h_i => by
    obtain ⟨m, t, h_mem, h_id⟩ := inv.sourced i h_i
    exact ⟨m, t, List.mem_append_left _ h_mem, h_id⟩
  distinct := inv.distinct

/-- **Run.** -/
theorem pendingInv_pendingAfter {ops : List PendingOp} (h_nodup : (registeredIds ops).Nodup)
    (h_zero : (0 : ℤ) ∉ registeredIds ops) : PendingInv ops (pendingAfter ops) := by
  -- on the calls, the last one first
  induction ops using List.reverseRecOn with
  | nil => exact PendingInv.empty
  | append_singleton ops op ih =>
    rw [registeredIds_append] at h_nodup h_zero
    rw [List.mem_append, not_or] at h_zero
    have inv := ih (List.nodup_append.mp h_nodup).1 h_zero.1
    rw [pendingAfter_concat]
    cases op with
    | register c m a t =>
      have h_new : c ∉ registeredIds ops := by
        intro h_mem
        exact (List.nodup_append.mp h_nodup).2.2 c h_mem c (by simp) rfl
      refine inv.register ?_ h_new m a t
      rintro rfl
      exact h_zero.2 (by simp)
    | lookup m c =>
      refine PendingInv.mono ?_ _
      show PendingInv ops (getAndClearClientCmd m c (pendingAfter ops)).1
      rcases getAndClearClientCmd_cases m c (pendingAfter ops) with ⟨i, -, h_eq⟩ | ⟨-, h_eq⟩
      · rw [h_eq]
        exact inv.clear i
      · rw [h_eq]
        exact inv

/-! ### One entry -/

/-- The entry of a registration is in slot `i`. -/
def Kept (c : ℤ) (m : CStr) (g : PendingTable) (i : Fin HUB_MAX_PENDING_CMDS) : Prop :=
  (g i).cmdid = c ∧ (g i).moduleId.str = m

theorem Kept.update {c : ℤ} {m : CStr} {g : PendingTable} {i j : Fin HUB_MAX_PENDING_CMDS}
    (h : Kept c m g i) (h_ne : i ≠ j) (p : PendingClientCmd) :
    Kept c m (Function.update g j p) i := by
  unfold Kept
  rw [Function.update_of_ne h_ne]
  exact h

theorem kept_registerClientCommand (c : ℤ) {m : CStr} (h_fits : m.length ≤ 15) (a : SockAddr)
    (t : ℤ) (g : PendingTable) : Kept c m (registerClientCommand c m a t g) (registerSlot g) := by
  unfold Kept registerClientCommand
  rw [Function.update_self]
  exact ⟨rfl, snprintf_of_fits (Nat.lt_succ_of_le h_fits)⟩

/-- An entry that is kept is found, with its own client. -/
theorem PendingInv.lookup_of_kept {ops : List PendingOp} {g : PendingTable}
    (inv : PendingInv ops g) (h_nodup : (registeredIds ops).Nodup) {c : ℤ} (h_zero : c ≠ 0)
    {m : CStr} {a : SockAddr} {t : ℤ} (h_mem : .register c m a t ∈ ops)
    {i : Fin HUB_MAX_PENDING_CMDS} (h_i : Kept c m g i) :
    (getAndClearClientCmd m c g).2 = some a := by
  rcases getAndClearClientCmd_cases m c g with ⟨j, h_find, h_eq⟩ | ⟨h_none, -⟩
  · -- whatever slot is found was registered with the same id
    have h_j : (g j).cmdid = c := (findClientCmd_eq_some_iff.mp h_find).1.1
    obtain ⟨m', t', h_mem', -⟩ := inv.sourced j (by rw [h_j]; exact h_zero)
    rw [h_j] at h_mem'
    have h_same := register_unique h_nodup h_mem h_mem'
    rw [h_eq]
    exact congrArg some (PendingOp.register.inj h_same).2.2.1.symm
  · exact absurd h_i (findClientCmd_eq_none_iff.mp h_none i)

theorem lookup_of_absent {c : ℤ} {g : PendingTable} (h : Absent c g) (m : CStr) :
    (getAndClearClientCmd m c g).2 = none := by
  rcases getAndClearClientCmd_cases m c g with ⟨i, h_find, -⟩ | ⟨-, h_eq⟩
  · exact absurd (findClientCmd_eq_some_iff.mp h_find).1.1 (h i)
  · rw [h_eq]

theorem Absent.update {c : ℤ} {g : PendingTable} (h : Absent c g) {p : PendingClientCmd}
    (h_p : p.cmdid ≠ c) (i : Fin HUB_MAX_PENDING_CMDS) : Absent c (Function.update g i p) := by
  intro j
  by_cases h_slot : j = i
  · rw [h_slot, Function.update_self]
    exact h_p
  · rw [Function.update_of_ne h_slot]
    exact h j

/-- An id that is not in the table comes back by its own registration only. -/
theorem absent_pendingAfter {c : ℤ} (h_zero : c ≠ 0) {pre post : List PendingOp}
    (h_absent : Absent c (pendingAfter pre)) (h_new : c ∉ registeredIds post) :
    Absent c (pendingAfter (pre ++ post)) := by
  induction post using List.reverseRecOn with
  | nil => rwa [List.append_nil]
  | append_singleton post op ih =>
    rw [registeredIds_append, List.mem_append, not_or] at h_new
    have h_before := ih h_new.1
    rw [← List.append_assoc, pendingAfter_concat]
    cases op with
    | register c' m a t =>
      -- the new entry has another number
      refine Absent.update h_before ?_ _
      rintro rfl
      exact h_new.2 (by simp)
    | lookup m c' =>
      -- a look-up at most frees an entry
      show Absent c (getAndClearClientCmd m c' (pendingAfter (pre ++ post))).1
      rcases getAndClearClientCmd_cases m c' (pendingAfter (pre ++ post)) with
        ⟨j, -, h_eq⟩ | ⟨-, h_eq⟩
      · rw [h_eq]
        exact h_before.update h_zero.symm j
      · rw [h_eq]
        exact h_before

/-- A lookup takes the entry of a registration out of the table. -/
theorem PendingInv.absent_lookup {ops : List PendingOp} {g : PendingTable}
    (inv : PendingInv ops g) (h_nodup : (registeredIds ops).Nodup) {c : ℤ} (h_zero : c ≠ 0)
    {m : CStr} {a : SockAddr} {t : ℤ} (h_mem : .register c m a t ∈ ops) (h_fits : m.length ≤ 15) :
    Absent c (getAndClearClientCmd m c g).1 := by
  -- a slot with the id belongs to the registration, so it is the one that is found
  have h_found : ∀ i, (g i).cmdid = c → Matches g m c i := by
    intro i h_i
    obtain ⟨m', t', h_mem', h_id⟩ := inv.sourced i (by rw [h_i]; exact h_zero)
    rw [h_i] at h_mem'
    obtain rfl := (PendingOp.register.inj (register_unique h_nodup h_mem h_mem')).2.1
    refine ⟨h_i, ?_⟩
    rw [h_id]
    exact snprintf_of_fits (Nat.lt_succ_of_le h_fits)
  intro i h_i
  rcases getAndClearClientCmd_cases m c g with ⟨j, h_find, h_eq⟩ | ⟨h_none, h_eq⟩
  · rw [h_eq] at h_i
    dsimp only at h_i
    by_cases h_slot : i = j
    · rw [h_slot, Function.update_self] at h_i
      exact h_zero h_i.symm
    · rw [Function.update_of_ne h_slot] at h_i
      have h_j : (g j).cmdid = c := (findClientCmd_eq_some_iff.mp h_find).1.1
      exact h_slot (inv.distinct i j (by rw [h_i]; exact h_zero) (h_i.trans h_j.symm))
  · rw [h_eq] at h_i
    exact findClientCmd_eq_none_iff.mp h_none i (h_found i h_i)

/-! ### Survival -/

theorem followers_append {c : ℤ} {xs ys : List ℤ} (h_new : c ∉ ys) :
    followers c (xs ++ c :: ys) = ys.length := by
  have h_all : ∀ c' ∈ ys.reverse, decide (c' ≠ c) = true := by
    intro c' h_c'
    refine decide_eq_true ?_
    rintro rfl
    exact h_new (List.mem_reverse.mp h_c')
  unfold followers
  rw [List.reverse_append, List.reverse_cons, List.append_assoc, List.takeWhile_append_of_pos h_all,
    List.singleton_append, List.takeWhile_cons_of_neg (by simp), List.append_nil,
    List.length_reverse]

/-- What a split of a run at a registration says about its id. -/
theorem PendingRun.split (R : PendingRun) {pre post : List PendingOp} {c : ℤ} {m : CStr}
    {a : SockAddr} {t : ℤ} (h_ops : R.ops = pre ++ .register c m a t :: post) :
    c ≠ 0 ∧ c ∉ registeredIds pre ∧ c ∉ registeredIds post ∧ m.length ≤ 15 := by
  have h_nodup := R.nodup
  have h_zero := R.nonzero
  rw [h_ops, registeredIds_append, registeredIds_register] at h_nodup h_zero
  rw [List.nodup_middle, List.nodup_cons, List.mem_append, not_or] at h_nodup
  refine ⟨?_, h_nodup.1.1, h_nodup.1.2, R.fits c m a t ?_⟩
  · rintro rfl
    exact h_zero (by simp)
  · rw [h_ops]
    simp

/-- What holds of the table at the start of a run. -/
theorem PendingRun.inv (R : PendingRun) {pre post : List PendingOp} (h_ops : R.ops = pre ++ post) :
    (registeredIds pre).Nodup ∧ PendingInv pre (pendingAfter pre) := by
  have h_nodup := R.nodup
  have h_zero := R.nonzero
  rw [h_ops, registeredIds_append] at h_nodup h_zero
  rw [List.mem_append, not_or] at h_zero
  have h_pre := (List.nodup_append.mp h_nodup).1
  exact ⟨h_pre, pendingInv_pendingAfter h_pre h_zero.1⟩

/-- **Step.** An entry is kept by every call but its own lookup and a registration that finds it as
the victim of a full table. -/
theorem Kept.step {c : ℤ} (h_zero : c ≠ 0) {m : CStr} {g : PendingTable}
    {i : Fin HUB_MAX_PENDING_CMDS} (h_i : Kept c m g i) {op : PendingOp}
    (h_lookup : op ≠ .lookup m c) (h_victim : op.registered ≠ none → ¬ Victim g i) :
    Kept c m (stepPending g op) i := by
  cases op with
  | register c' m' a t =>
    have h_slot : i ≠ registerSlot g := by
      rintro rfl
      refine h_victim (by simp [PendingOp.registered]) (victim_registerSlot ?_)
      -- a free slot would have been written instead
      intro j h_free
      exact h_zero (h_i.1.symm.trans (registerSlot_of_free ⟨j, h_free⟩).1)
    exact h_i.update h_slot _
  | lookup m' c' =>
    show Kept c m (getAndClearClientCmd m' c' g).1 i
    rcases getAndClearClientCmd_cases m' c' g with ⟨j, h_find, h_eq⟩ | ⟨-, h_eq⟩
    · rw [h_eq]
      have h_slot : i ≠ j := by
        rintro rfl
        have h_match := (findClientCmd_eq_some_iff.mp h_find).1
        exact h_lookup (by rw [← h_match.1, ← h_match.2, ← h_i.1, ← h_i.2])
      exact h_i.update h_slot _
    · rw [h_eq]
      exact h_i

/-- **Run.** Where no young entry is the victim, an entry is kept until it is looked up or a full
table of registrations has followed it. -/
theorem PendingRun.kept (R : PendingRun) (h_old : EvictsOld R.ops) {pre post rest : List PendingOp}
    {c : ℤ} {m : CStr} {a : SockAddr} {t : ℤ}
    (h_ops : R.ops = pre ++ .register c m a t :: (post ++ rest)) (h_lookup : .lookup m c ∉ post)
    (h_len : (registeredIds post).length < HUB_MAX_PENDING_CMDS) :
    ∃ i, Kept c m (pendingAfter (pre ++ .register c m a t :: post)) i := by
  obtain ⟨h_zero, -, h_new, h_fits⟩ := R.split h_ops
  -- on the calls after the registration, the last one first
  induction post using List.reverseRecOn generalizing rest with
  | nil =>
    refine ⟨registerSlot (pendingAfter pre), ?_⟩
    rw [pendingAfter_concat]
    exact kept_registerClientCommand c h_fits a t (pendingAfter pre)
  | append_singleton post op ih =>
    rw [List.append_assoc] at h_ops h_new
    rw [List.mem_append, not_or] at h_lookup
    rw [registeredIds_append, List.length_append] at h_len
    obtain ⟨i, h_i⟩ := ih h_ops h_lookup.1 (by omega) h_new
    refine ⟨i, ?_⟩
    rw [← List.cons_append, ← List.append_assoc, pendingAfter_concat]
    refine h_i.step h_zero ?_ ?_
    · rintro rfl
      exact h_lookup.2 (by simp)
    · intro h_reg h_victim
      cases op with
      | register c' m' a' t' =>
        -- the entry would be old enough by now
        have h_age := h_old (pre ++ .register c m a t :: post) c' m' a' t' rest
          (by rw [h_ops]; simp) i h_victim
        rw [registeredIds_append, List.mem_append, not_or] at h_new
        rw [h_i.1, registeredIds_append, registeredIds_register, followers_append h_new.1] at h_age
        have h_one : (registeredIds [.register c' m' a' t']).length = 1 := rfl
        omega
      | lookup m' c' => exact h_reg rfl

/-- An entry that is in the table has not been looked up since it was registered. -/
theorem PendingRun.not_lookup (R : PendingRun) {pre post rest : List PendingOp} {c : ℤ} {m : CStr}
    {a : SockAddr} {t : ℤ} (h_ops : R.ops = pre ++ .register c m a t :: (post ++ rest))
    {i : Fin HUB_MAX_PENDING_CMDS}
    (h_i : (pendingAfter (pre ++ .register c m a t :: post) i).cmdid = c) :
    .lookup m c ∉ post := by
  intro h_in
  obtain ⟨h_zero, -, h_new, h_fits⟩ := R.split h_ops
  obtain ⟨q, q', rfl⟩ := List.append_of_mem h_in
  have h_start : R.ops = (pre ++ .register c m a t :: q) ++ (.lookup m c :: q' ++ rest) := by
    rw [h_ops]
    simp
  obtain ⟨h_nodup, inv⟩ := R.inv h_start
  -- the lookup takes the entry out, and nothing registers `c` again
  have h_gone : Absent c (pendingAfter ((pre ++ .register c m a t :: q) ++ [.lookup m c])) := by
    rw [pendingAfter_concat]
    exact inv.absent_lookup h_nodup h_zero (List.mem_append_right _ List.mem_cons_self) h_fits
  rw [registeredIds_append, registeredIds_append, registeredIds_lookup, List.mem_append,
    List.mem_append, not_or, not_or] at h_new
  have h_later := absent_pendingAfter h_zero h_gone h_new.1.2
  have h_list : ((pre ++ .register c m a t :: q) ++ [.lookup m c]) ++ q'
      = pre ++ .register c m a t :: (q ++ .lookup m c :: q') := by simp
  rw [h_list] at h_later
  exact h_later i h_i

/-- A registration that finds a victim writes its slot. -/
theorem Victim.absent {g : PendingTable} {i : Fin HUB_MAX_PENDING_CMDS} (h_victim : Victim g i)
    (h_distinct : ∀ j, (g j).cmdid = (g i).cmdid → j = i) {c : ℤ} (h_ne : c ≠ (g i).cmdid)
    (m : CStr) (a : SockAddr) (t : ℤ) : Absent (g i).cmdid (registerClientCommand c m a t g) := by
  intro j h_j
  unfold registerClientCommand at h_j
  rw [← h_victim.eq_registerSlot] at h_j
  by_cases h_slot : j = i
  · rw [h_slot, Function.update_self] at h_j
    exact h_ne h_j
  · rw [Function.update_of_ne h_slot] at h_j
    exact h_slot (h_distinct j h_j)

/-- **When a pending command survives.** In every run of the pending table, each entry is found
after fewer than a full table of further registrations if and only if, whenever a registration
finds the table full, the lowest of the slots with the smallest stamp was filled at least a full
table of registrations ago. -/
theorem survives_iff (R : PendingRun) : Survives R.ops ↔ EvictsOld R.ops := by
  constructor
  · intro h_survives pre' c' m' a' t' rest h_ops i h_victim
    by_contra h_young
    obtain ⟨h_nodup, inv⟩ := R.inv h_ops
    -- the entry of the victim was registered in this run
    have h_zero := h_victim.full i
    obtain ⟨m, t, h_mem, -⟩ := inv.sourced i h_zero
    generalize h_c : (pendingAfter pre' i).cmdid = c at h_young h_zero h_mem
    generalize (pendingAfter pre' i).clientAddr = a at h_mem
    obtain ⟨pre, post, rfl⟩ := List.append_of_mem h_mem
    have h_ops' : R.ops = pre ++ .register c m a t :: (post ++ .register c' m' a' t' :: rest) := by
      rw [h_ops]
      simp
    obtain ⟨-, -, h_new, -⟩ := R.split h_ops'
    rw [registeredIds_append, registeredIds_register, List.mem_append, List.mem_cons, not_or,
      not_or] at h_new
    rw [registeredIds_append, registeredIds_register, followers_append h_new.1] at h_young
    -- the registration of `c'` writes the victim's slot, and the entry is found nowhere
    have h_found := h_survives pre c m a t (post ++ [.register c' m' a' t']) rest
      (by rw [h_ops']; simp)
      (by
        rw [List.mem_append, not_or]
        exact ⟨R.not_lookup h_ops' h_c, by simp⟩)
      (by
        rw [registeredIds_append, List.length_append]
        show _ + 1 < _
        omega)
    have h_absent : Absent c (pendingAfter (pre ++ .register c m a t ::
        (post ++ [.register c' m' a' t']))) := by
      have h_evicted := h_victim.absent
        (fun j h_j => inv.distinct j i (by rw [h_j, h_c]; exact h_zero) h_j)
        (by rw [h_c]; exact fun h_eq => h_new.2.1 h_eq.symm) m' a' t'
      rw [h_c] at h_evicted
      rw [← List.cons_append, ← List.append_assoc, pendingAfter_concat]
      exact h_evicted
    rw [lookup_of_absent h_absent] at h_found
    exact absurd h_found (by simp)
  · intro h_old pre c m a t post rest h_ops h_lookup h_len
    obtain ⟨i, h_i⟩ := R.kept h_old h_ops h_lookup h_len
    have h_start : R.ops = (pre ++ .register c m a t :: post) ++ rest := by
      rw [h_ops]
      simp
    obtain ⟨h_nodup, inv⟩ := R.inv h_start
    exact inv.lookup_of_kept h_nodup (R.split h_ops).1
      (List.mem_append_right _ List.mem_cons_self) h_i

/-! ### A burst within one millisecond -/

/-- The commands 1 to `n` of one client, all registered in the same millisecond. -/
def burst (n : ℕ) : List PendingOp :=
  (List.range n).map (fun k : ℕ => .register (k + 1) "D1".toList ⟨1, 4001⟩ 0)

theorem burst_succ (n : ℕ) :
    burst (n + 1) = burst n ++ [.register (n + 1) "D1".toList ⟨1, 4001⟩ 0] := by
  unfold burst
  rw [List.range_succ, List.map_append, List.map_singleton]

theorem registeredIds_burst (n : ℕ) :
    registeredIds (burst n) = (List.range n).map (fun k : ℕ => (k : ℤ) + 1) := by
  unfold registeredIds burst
  rw [List.filterMap_map, ← List.filterMap_eq_map]
  rfl

theorem stamps_burst (n : ℕ) :
    (burst n).filterMap PendingOp.stamp = (List.range n).map (fun _ => 0) := by
  unfold burst
  rw [List.filterMap_map, ← List.filterMap_eq_map]
  rfl

/-- A full table with equal stamps loses its lowest slot. -/
theorem registerSlot_of_equal {g : PendingTable} (h_full : ∀ i, (g i).cmdid ≠ 0)
    (h_stamp : ∀ i, (g i).issuedMs = 0) : registerSlot g = 0 := by
  have h_victim := victim_registerSlot h_full
  by_contra h_ne
  have h_lt := h_victim.lowest 0 (Fin.pos_iff_ne_zero.mpr h_ne)
  rw [h_stamp, h_stamp] at h_lt
  exact absurd h_lt (lt_irrefl _)

/-- The burst fills the slots in their order. -/
theorem pendingAfter_burst {n : ℕ} (h_n : n ≤ HUB_MAX_PENDING_CMDS)
    (i : Fin HUB_MAX_PENDING_CMDS) :
    (pendingAfter (burst n) i).cmdid = (if i.val < n then (i.val : ℤ) + 1 else 0) ∧
      (pendingAfter (burst n) i).issuedMs = 0 := by
  induction n generalizing i with
  | zero => exact ⟨rfl, rfl⟩
  | succ n ih =>
    have ih' := ih (Nat.le_of_succ_le h_n)
    -- the first free slot is the one with the index `n`
    let k : Fin HUB_MAX_PENDING_CMDS := ⟨n, h_n⟩
    have h_zero : ∀ j, (pendingAfter (burst n) j).cmdid = 0 ↔ n ≤ j.val := by
      intro j
      rw [(ih' j).1]
      split_ifs with h_j
      · exact iff_of_false (by omega) (not_le.mpr h_j)
      · exact iff_of_true rfl (not_lt.mp h_j)
    have h_slot : registerSlot (pendingAfter (burst n)) = k := by
      obtain ⟨h_free, h_first⟩ := registerSlot_of_free ⟨k, (h_zero k).mpr le_rfl⟩
      have h_ge := (h_zero _).mp h_free
      have h_le : ¬ k < registerSlot (pendingAfter (burst n)) :=
        fun h_lt => h_first k h_lt ((h_zero k).mpr le_rfl)
      exact le_antisymm (not_lt.mp h_le) h_ge
    rw [burst_succ, pendingAfter_concat]
    unfold stepPending registerClientCommand
    dsimp only
    rw [h_slot]
    by_cases h_i : i = k
    · subst h_i
      rw [Function.update_self, if_pos (Nat.lt_succ_self n)]
      exact ⟨rfl, rfl⟩
    · rw [Function.update_of_ne h_i]
      refine ⟨(ih' i).1.trans ?_, (ih' i).2⟩
      have h_ne : i.val ≠ n := fun h_eq => h_i (Fin.ext h_eq)
      split_ifs with h_lt h_lt'
      · rfl
      · omega
      · omega
      · rfl

/-- One more registration than there are slots, and another one. -/
def burstRun : PendingRun where
  ops := burst 130
  nodup := by
    rw [registeredIds_burst]
    refine List.nodup_range.map (fun i j h_ij => ?_)
    omega
  nonzero := by
    rw [registeredIds_burst, List.mem_map]
    rintro ⟨k, -, h_k⟩
    omega
  fits := by
    intro c m a t h_mem
    obtain ⟨k, -, h_eq⟩ := List.mem_map.mp h_mem
    rw [← (PendingOp.register.inj h_eq).2.1]
    decide
  clock := by
    rw [stamps_burst, List.pairwise_map]
    exact List.pairwise_of_forall (fun _ _ => le_rfl)

/-- The entry of the 129th command is lost to the 130th. -/
theorem not_survives : ¬ Survives burstRun.ops := by
  intro h_survives
  have h_split : burstRun.ops = burst 128 ++
      .register 129 "D1".toList ⟨1, 4001⟩ 0 ::
        ([.register 130 "D1".toList ⟨1, 4001⟩ 0] ++ []) := by
    show burst (128 + 1 + 1) = _
    rw [burst_succ, burst_succ, List.append_assoc]
    rfl
  have h_found := h_survives _ _ _ _ _ _ _ h_split (by decide) (by decide)
  let g := pendingAfter (burst 128)
  have h_g : ∀ i, (g i).cmdid = (i.val : ℤ) + 1 ∧ (g i).issuedMs = 0 := by
    intro i
    obtain ⟨h_id, h_stamp⟩ := pendingAfter_burst le_rfl i
    rw [if_pos i.isLt] at h_id
    exact ⟨h_id, h_stamp⟩
  have h_slot : registerSlot g = 0 := by
    refine registerSlot_of_equal (fun i => ?_) (fun i => (h_g i).2)
    rw [(h_g i).1]
    omega
  let g' := Function.update g 0 ⟨129, ⟨1, 4001⟩, snprintf _ "D1".toList, 0⟩
  have h_step : registerClientCommand 129 "D1".toList ⟨1, 4001⟩ 0 g = g' := by
    unfold registerClientCommand
    rw [h_slot]
  -- the new entry has the smallest stamp as well, and the lowest slot
  have h_slot' : registerSlot g' = 0 := by
    refine registerSlot_of_equal (fun i => ?_) (fun i => ?_)
    · by_cases h_i : i = 0
      · rw [h_i]
        decide
      · show (Function.update g 0 _ i).cmdid ≠ 0
        rw [Function.update_of_ne h_i, (h_g i).1]
        omega
    · by_cases h_i : i = 0
      · rw [h_i]
        rfl
      · show (Function.update g 0 _ i).issuedMs = 0
        rw [Function.update_of_ne h_i]
        exact (h_g i).2
  have h_absent : Absent 129 (registerClientCommand 130 "D1".toList ⟨1, 4001⟩ 0 g') := by
    unfold registerClientCommand
    rw [h_slot']
    intro i
    by_cases h_i : i = 0
    · rw [h_i, Function.update_self]
      decide
    · show (Function.update (Function.update g 0 _) 0 _ i).cmdid ≠ 129
      rw [Function.update_of_ne h_i, Function.update_of_ne h_i, (h_g i).1]
      have h_lt : i.val < 128 := i.isLt
      omega
  have h_after : pendingAfter (burst 128 ++ .register 129 "D1".toList ⟨1, 4001⟩ 0 ::
      [.register 130 "D1".toList ⟨1, 4001⟩ 0])
      = registerClientCommand 130 "D1".toList ⟨1, 4001⟩ 0 g' := by
    rw [← h_step, ← List.singleton_append, ← List.append_assoc, pendingAfter_concat,
      pendingAfter_concat]
    rfl
  rw [h_after, lookup_of_absent h_absent] at h_found
  exact absurd h_found (by simp)

end Hub

end DoorSystem
