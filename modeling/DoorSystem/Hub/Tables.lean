import DoorSystem.Hub.State

/-!
# The tables of the hub

`find_or_create_door`, the endpoint table and the table of pending client commands, each on the
one static table it touches.

Every table is searched for the first entry with a given key. An id is stored through a 16-byte
buffer, so by `CharBuf.strncmpEq_iff` the comparison with `strncmp` over 16 bytes and the one with
`strcmp` both ask for equality with the whole token. The lemmas below state each search in that
form, and what insertion leaves for the next search.
-/

namespace DoorSystem

open CLib

namespace Hub

/-! ### Door slots -/

/-- The slot that holds `moduleId`: the first loop of `find_or_create_door`, and the loop of
`hub_udp_get_status` and of `hub_udp_send_command`. -/
def findDoor (moduleId : CStr) (g : DoorTable) : Option (Fin HUB_MAX_DOORS) :=
  Fin.find? (fun i => (g i).known && strncmpEq HUB_MODULE_ID_LEN (g i).moduleId.str moduleId)

/-- The slot that is given to a new module. -/
def freeDoor (g : DoorTable) : Option (Fin HUB_MAX_DOORS) :=
  Fin.find? (fun i => !(g i).known)

/-- A slot as `find_or_create_door` fills it in. -/
def HubDoorStatus.fresh (moduleId : CStr) : HubDoorStatus :=
  { HubDoorStatus.zero with moduleId := snprintf _ moduleId, known := true }

/-- `find_or_create_door`: the table afterwards and the slot, if there is one. -/
def findOrCreateDoor (moduleId : CStr) (g : DoorTable) :
    DoorTable × Option (Fin HUB_MAX_DOORS) :=
  match findDoor moduleId g with
  | some i => (g, some i)
  | none =>
    match freeDoor g with
    | some i => (Function.update g i (HubDoorStatus.fresh moduleId), some i)
    | none => (g, none)

/-- Slot `i` is taken by the module `m`. -/
def Holds (g : DoorTable) (m : CStr) (i : Fin HUB_MAX_DOORS) : Prop :=
  (g i).known = true ∧ (g i).moduleId.str = m

theorem findDoor_eq_some_iff {m : CStr} {g : DoorTable} {i : Fin HUB_MAX_DOORS} :
    findDoor m g = some i ↔ Holds g m i ∧ ∀ j < i, ¬ Holds g m j := by
  unfold findDoor Holds
  rw [Fin.find?_eq_some_iff]
  simp only [Bool.and_eq_true, CharBuf.strncmpEq_iff, ← Bool.not_eq_true]

theorem findDoor_eq_none_iff {m : CStr} {g : DoorTable} :
    findDoor m g = none ↔ ∀ i, ¬ Holds g m i := by
  unfold findDoor Holds
  rw [Fin.find?_eq_none_iff]
  simp only [← Bool.not_eq_true, Bool.and_eq_true, CharBuf.strncmpEq_iff]

theorem Holds.findDoor_ne_none {m : CStr} {g : DoorTable} {i : Fin HUB_MAX_DOORS}
    (h : Holds g m i) : findDoor m g ≠ none :=
  fun h_none => findDoor_eq_none_iff.mp h_none i h

theorem holds_of_findDoor {m : CStr} {g : DoorTable} {i : Fin HUB_MAX_DOORS}
    (h : findDoor m g = some i) : Holds g m i :=
  (findDoor_eq_some_iff.mp h).1

theorem freeDoor_eq_some {g : DoorTable} {i : Fin HUB_MAX_DOORS} (h : freeDoor g = some i) :
    (g i).known = false := by
  unfold freeDoor at h
  simpa using (Fin.find?_eq_some_iff.mp h).1

theorem freeDoor_eq_none {g : DoorTable} (h : freeDoor g = none) (i : Fin HUB_MAX_DOORS) :
    (g i).known = true := by
  unfold freeDoor at h
  simpa using Fin.find?_eq_none_iff.mp h i

/-- **What `find_or_create_door` can do**: it finds the module's slot, fills a free slot with the
truncated id, or fails on a full table. -/
theorem findOrCreateDoor_cases (m : CStr) (g : DoorTable) :
    (∃ i, findDoor m g = some i ∧ findOrCreateDoor m g = (g, some i)) ∨
    (∃ i, findDoor m g = none ∧ freeDoor g = some i ∧
      findOrCreateDoor m g = (Function.update g i (HubDoorStatus.fresh m), some i)) ∨
    (findDoor m g = none ∧ freeDoor g = none ∧ findOrCreateDoor m g = (g, none)) := by
  unfold findOrCreateDoor
  cases h_find : findDoor m g with
  | some i => exact Or.inl ⟨i, rfl, rfl⟩
  | none =>
    cases h_free : freeDoor g with
    | some i => exact Or.inr (Or.inl ⟨i, rfl, rfl, rfl⟩)
    | none => exact Or.inr (Or.inr ⟨rfl, rfl, rfl⟩)

theorem findOrCreateDoor_of_find {m : CStr} {g : DoorTable} {i : Fin HUB_MAX_DOORS}
    (h : findDoor m g = some i) : findOrCreateDoor m g = (g, some i) := by
  unfold findOrCreateDoor
  rw [h]

/-- `find_or_create_door`, slot by slot: a free slot may be filled, all others stay. -/
theorem findOrCreateDoor_slot (m : CStr) (g : DoorTable) (i : Fin HUB_MAX_DOORS) :
    (findOrCreateDoor m g).1 i = g i ∨
      (g i).known = false ∧ (findOrCreateDoor m g).1 i = HubDoorStatus.fresh m := by
  rcases findOrCreateDoor_cases m g with ⟨j, -, h_eq⟩ | ⟨j, -, h_free, h_eq⟩ | ⟨-, -, h_eq⟩
  · exact Or.inl (by rw [h_eq])
  · rw [h_eq]
    dsimp only
    by_cases h_ij : i = j
    · rw [h_ij, Function.update_self]
      exact Or.inr ⟨freeDoor_eq_some h_free, rfl⟩
    · exact Or.inl (Function.update_of_ne h_ij _ _)
  · exact Or.inl (by rw [h_eq])

/-- Taken slots keep their module. -/
theorem Holds.findOrCreateDoor {m m' : CStr} {g : DoorTable} {j : Fin HUB_MAX_DOORS}
    (h : Holds g m' j) : (findOrCreateDoor m g).1 j = g j := by
  rcases findOrCreateDoor_slot m g j with h_same | ⟨h_free, -⟩
  · exact h_same
  · -- a new module gets a free slot, which `j` is not
    exact absurd (h.1.symm.trans h_free) (by simp)

/-! ### Endpoints -/

/-- `hub_find_endpoint`: the index of the entry. -/
def hubFindEndpoint (moduleId : CStr) (eps : List HubEndpoint) : Option ℕ :=
  eps.findIdx? (fun ep => ep.moduleId.str == moduleId)

/-- `hub_update_endpoint`. -/
def hubUpdateEndpoint (moduleId : CStr) (src : SockAddr) (eps : List HubEndpoint) :
    List HubEndpoint :=
  match hubFindEndpoint moduleId eps with
  | some i => eps.modify i (fun ep => { ep with addr := src, hasAddr := true })
  | none =>
    -- a full table keeps its entries
    if HUB_MAX_MODULES ≤ eps.length then eps
    else eps ++ [{ moduleId := snprintf _ moduleId, addr := src, hasAddr := true }]

/-- A module that is not in the table gets an entry at the end, as long as there is room. -/
theorem hubUpdateEndpoint_of_new {m : CStr} {eps : List HubEndpoint}
    (h_find : hubFindEndpoint m eps = none) (h_room : eps.length < HUB_MAX_MODULES)
    (src : SockAddr) :
    hubUpdateEndpoint m src eps
      = eps ++ [{ moduleId := snprintf _ m, addr := src, hasAddr := true }] := by
  unfold hubUpdateEndpoint
  rw [h_find]
  exact if_neg (not_le.mpr h_room)

/-- `hub_forward_command_to_module`: the datagram that is sent, if any. -/
def hubForwardCommandToModule (moduleId : CStr) (line : CStr) (h : HubState) : List HubOut :=
  match (hubFindEndpoint moduleId h.gEndpoints).bind (fun i => h.gEndpoints[i]?) with
  | some ep => if ep.hasAddr && h.gSockOpen then [.forward ep.addr line] else []
  | none => []

/-! ### Pending client commands -/

/-- The loop of `register_client_command`, with its local variables `slot` and `oldest_ms`: the
first free slot, or else the first of the slots with the smallest stamp. -/
def registerScan (g : PendingTable) :
    List (Fin HUB_MAX_PENDING_CMDS) → Fin HUB_MAX_PENDING_CMDS → ℤ → Fin HUB_MAX_PENDING_CMDS
  | [], slot, _ => slot
  | i :: is, slot, oldestMs =>
    if (g i).cmdid = 0 then i
    else if (g i).issuedMs < oldestMs then registerScan g is i (g i).issuedMs
    else registerScan g is slot oldestMs

/-- The slot that `register_client_command` writes. -/
def registerSlot (g : PendingTable) : Fin HUB_MAX_PENDING_CMDS :=
  registerScan g (List.finRange _) 0 (g 0).issuedMs

/-- `register_client_command`, with the time `now` that its `now_ms()` returns. -/
def registerClientCommand (cmdid : ℤ) (moduleId : CStr) (clientAddr : SockAddr) (now : ℤ)
    (g : PendingTable) : PendingTable :=
  Function.update g (registerSlot g)
    { cmdid := cmdid, clientAddr := clientAddr, moduleId := snprintf _ moduleId, issuedMs := now }

/-- Slot `i` matches the search for `(m, cmdid)`. -/
def Matches (g : PendingTable) (m : CStr) (cmdid : ℤ) (i : Fin HUB_MAX_PENDING_CMDS) : Prop :=
  (g i).cmdid = cmdid ∧ (g i).moduleId.str = m

instance (g : PendingTable) (m : CStr) (cmdid : ℤ) (i : Fin HUB_MAX_PENDING_CMDS) :
    Decidable (Matches g m cmdid i) :=
  inferInstanceAs (Decidable (_ ∧ _))

/-- The slot that `get_and_clear_client_cmd` finds. -/
def findClientCmd (moduleId : CStr) (cmdid : ℤ) (g : PendingTable) :
    Option (Fin HUB_MAX_PENDING_CMDS) :=
  Fin.find? (fun i => (g i).cmdid == cmdid &&
    strncmpEq HUB_MODULE_ID_LEN (g i).moduleId.str moduleId)

/-- `get_and_clear_client_cmd`: the slot is freed by clearing its `cmdid` alone. -/
def getAndClearClientCmd (moduleId : CStr) (cmdid : ℤ) (g : PendingTable) :
    PendingTable × Option SockAddr :=
  match findClientCmd moduleId cmdid g with
  | some i => (Function.update g i { g i with cmdid := 0 }, some (g i).clientAddr)
  | none => (g, none)

theorem findClientCmd_eq_some_iff {m : CStr} {c : ℤ} {g : PendingTable}
    {i : Fin HUB_MAX_PENDING_CMDS} :
    findClientCmd m c g = some i ↔ Matches g m c i ∧ ∀ j < i, ¬ Matches g m c j := by
  unfold findClientCmd Matches
  rw [Fin.find?_eq_some_iff]
  simp only [Bool.and_eq_true, beq_iff_eq, CharBuf.strncmpEq_iff, ← Bool.not_eq_true]

theorem findClientCmd_eq_none_iff {m : CStr} {c : ℤ} {g : PendingTable} :
    findClientCmd m c g = none ↔ ∀ i, ¬ Matches g m c i := by
  unfold findClientCmd Matches
  rw [Fin.find?_eq_none_iff]
  simp only [← Bool.not_eq_true, Bool.and_eq_true, beq_iff_eq, CharBuf.strncmpEq_iff]

/-- **What `get_and_clear_client_cmd` can do.** -/
theorem getAndClearClientCmd_cases (m : CStr) (c : ℤ) (g : PendingTable) :
    (∃ i, findClientCmd m c g = some i ∧ getAndClearClientCmd m c g
      = (Function.update g i { g i with cmdid := 0 }, some (g i).clientAddr)) ∨
    (findClientCmd m c g = none ∧ getAndClearClientCmd m c g = (g, none)) := by
  unfold getAndClearClientCmd
  cases h : findClientCmd m c g with
  | some i => exact Or.inl ⟨i, rfl, rfl⟩
  | none => exact Or.inr ⟨rfl, rfl⟩

end Hub

end DoorSystem
