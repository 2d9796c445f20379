import DoorSystem.Hub.Isolation
import DoorSystem.Hub.Membership
import DoorSystem.Lib.Register

/-!
# The return routes of a module

Where a module was heard last is kept twice: as `last_addr` in its door slot, for
`hub_udp_send_command`, and in the endpoint table, for the commands of web clients. The two tables
have 8 and 16 entries, and a COMMAND line takes a slot but no endpoint, so a module can have a slot
when the endpoint table has no room for it any more. `routesAgree_or_full`: this is the only way for
the two routes to differ. As long as only the lines of modules take slots, the two tables are filled
side by side, the slots run out first, and the routes agree (`routesAgree_reached`).

Every line but a COMMAND moves the endpoint of its module. `endpointsFollow_iff` says for which runs
the endpoints still follow the lines that a door module sends.
-/

namespace DoorSystem

open CLib

namespace Hub

/-! ### The endpoint after a line -/

theorem endpointAddr_eq_none_iff {m : CStr} {eps : List HubEndpoint} :
    endpointAddr m eps = none ↔ m ∉ endpointIds eps := by
  rw [endpointAddr_eq_map, Option.map_eq_none_iff, hubEndpoint_eq_none_iff]

/-- An entry that is found has the id. -/
theorem mem_endpointIds {m : CStr} {eps : List HubEndpoint} {i : ℕ}
    (h_find : hubFindEndpoint m eps = some i) : m ∈ endpointIds eps := by
  rw [hubFindEndpoint_eq] at h_find
  obtain ⟨h_lt, h_id, -⟩ := List.findIdx?_eq_some_iff_getElem.mp h_find
  exact beq_iff_eq.mp h_id ▸ List.getElem_mem h_lt

/-- An id in the table is no cut one. -/
theorem length_lt_of_mem_endpointIds {m : CStr} {eps : List HubEndpoint}
    (h_m : m ∈ endpointIds eps) : m.length < HUB_MODULE_ID_LEN := by
  obtain ⟨ep, -, h_id⟩ := List.mem_map.mp h_m
  rw [← h_id]
  exact ep.moduleId.fits

theorem endpointSlot_eq_none_iff {m : CStr} {eps : List HubEndpoint} :
    endpointSlot m eps = none ↔ HUB_MAX_MODULES ≤ eps.length ∧ m ∉ endpointIds eps := by
  unfold endpointSlot
  cases h_find : hubFindEndpoint m eps with
  | some i =>
    exact iff_of_false (by simp) (fun h => h.2 (mem_endpointIds h_find))
  | none =>
    have h_not : m ∉ endpointIds eps := not_mem_endpointIds h_find
    dsimp only
    split_ifs with h_full
    · exact iff_of_true rfl ⟨h_full, h_not⟩
    · exact iff_of_false (by simp) (fun h => h_full h.1)

theorem length_endpointIds (eps : List HubEndpoint) : (endpointIds eps).length = eps.length :=
  List.length_map _

/-- A full table stays full, and who is not in it stays out. -/
theorem hubUpdateEndpoint_full {m : CStr} {eps : List HubEndpoint}
    (h_full : HUB_MAX_MODULES ≤ eps.length) (h_not : m ∉ endpointIds eps) (mod : CStr)
    (src : SockAddr) :
    HUB_MAX_MODULES ≤ (hubUpdateEndpoint mod src eps).length ∧
      endpointAddr m (hubUpdateEndpoint mod src eps) = none := by
  rw [endpointAddr_eq_none_iff, ← length_endpointIds]
  rcases endpointIds_hubUpdateEndpoint mod src eps with h_ids | ⟨-, h_room, -⟩
  · rw [h_ids, length_endpointIds]
    exact ⟨h_full, h_not⟩
  · exact absurd h_room (not_lt.mpr h_full)

/-- An entry that a module is given leads to where it was heard, also when its id is cut. -/
theorem endpointAddr_hubUpdateEndpoint_new {m : CStr} {eps : List HubEndpoint} (src : SockAddr)
    (h_find : hubFindEndpoint m eps = none) (h_room : eps.length < HUB_MAX_MODULES)
    (h_cut : m.take 15 ∉ endpointIds eps) :
    endpointAddr (m.take 15) (hubUpdateEndpoint m src eps) = some src := by
  have h_old : eps.find? (fun ep => ep.moduleId.str == m.take 15) = none := by
    rw [← hubEndpoint_eq_find?]
    exact hubEndpoint_eq_none_iff.mpr h_cut
  rw [endpointAddr_eq_map, hubUpdateEndpoint_of_new h_find h_room, hubEndpoint_eq_find?,
    List.find?_append, h_old, Option.none_or, List.find?_cons_of_pos (by simp)]
  rfl

/-! ### Two tables, one route -/

/-- **The two routes agree**: a module whose status has a return address has an endpoint with the
same address. -/
def RoutesAgree (h : HubState) : Prop :=
  ∀ m s, hubUdpGetStatus m h = some s → s.hasLastAddr = true →
    endpointAddr m h.gEndpoints = some s.lastAddr

/-- The endpoint table is full and has no entry for the module. -/
def NoEndpointLeft (m : CStr) (h : HubState) : Prop :=
  HUB_MAX_MODULES ≤ h.gEndpoints.length ∧ endpointAddr m h.gEndpoints = none

/-- **The two routes agree as long as there is room**: a module whose status has a return address
has an endpoint with the same address, unless the endpoint table is full and it has none. -/
def RoutesAgreeOrFull (h : HubState) : Prop :=
  ∀ m s, hubUdpGetStatus m h = some s → s.hasLastAddr = true →
    endpointAddr m h.gEndpoints = some s.lastAddr ∨ NoEndpointLeft m h

/-- The invariant. While slots are free, every endpoint belongs to a module with a slot; so when a
slot is given to a module, no older endpoint has its id. -/
structure RoutesInv (h : HubState) : Prop where
  packed : SlotsPacked h.gDoors
  tracked : freeDoor h.gDoors ≠ none → ∀ m ∈ endpointIds h.gEndpoints, ∃ i, Holds h.gDoors m i
  agree : ∀ m d, findDoor m h.gDoors = some d → (h.gDoors d).hasLastAddr = true →
    endpointAddr m h.gEndpoints = some (h.gDoors d).lastAddr ∨ NoEndpointLeft m h

theorem RoutesInv.initial (url : CharBuf 512) : RoutesInv (HubState.initial url) where
  packed := SlotsPacked.initial url
  tracked := fun _ _ h_m => absurd h_m List.not_mem_nil
  agree := fun _ _ h_find _ => absurd (holds_of_findDoor h_find).1 Bool.false_ne_true

/-- A free slot was free before. -/
theorem freeDoor_of_step {h : HubState} {e : HubEv} (h_free : freeDoor (step h e).gDoors ≠ none) :
    freeDoor h.gDoors ≠ none := by
  intro h_none
  obtain ⟨i, h_i⟩ := Option.ne_none_iff_exists'.mp h_free
  have h_holds : Holds h.gDoors (h.gDoors i).moduleId.str i := ⟨freeDoor_eq_none h_none i, rfl⟩
  exact absurd (h_holds.step e).1 (by rw [freeDoor_eq_some h_i]; simp)

/-- The return route after a line is the one that `update_last_addr` leaves. -/
theorem lineStatus_route (mod type : CStr) (args : List CStr) (src : SockAddr) (t : ℤ)
    (s : HubDoorStatus) :
    (lineStatus mod type args src t s).hasLastAddr = (updateLastAddr type src s).hasLastAddr ∧
      (lineStatus mod type args src t s).lastAddr = (updateLastAddr type src s).lastAddr :=
  dispatchStatus_route _ _ _ _ _

section Step

variable {h : HubState} (inv : RoutesInv h)

include inv

/-- New ids come from lines that were given a slot. -/
theorem RoutesInv.tracked_step (e : HubEv) (h_free : freeDoor (step h e).gDoors ≠ none) :
    ∀ m ∈ endpointIds (step h e).gEndpoints, ∃ i, Holds (step h e).gDoors m i := by
  intro m h_m
  have h_before : freeDoor h.gDoors ≠ none := freeDoor_of_step h_free
  have h_old : m ∈ endpointIds h.gEndpoints → ∃ i, Holds (step h e).gDoors m i := by
    intro h_mem
    obtain ⟨i, h_i⟩ := inv.tracked h_before m h_mem
    exact ⟨i, h_i.step e⟩
  rw [step_gEndpoints] at h_m
  split at h_m
  · next mod type args h_words =>
    split_ifs at h_m
    · exact h_old h_m
    · rcases endpointIds_hubUpdateEndpoint mod e.source h.gEndpoints with h_ids | ⟨-, -, h_ids⟩
      · rw [h_ids] at h_m
        exact h_old h_m
      · -- the new entry has the id of the line, cut as in the slot
        rw [h_ids, List.mem_append, List.mem_singleton] at h_m
        rcases h_m with h_mem | rfl
        · exact h_old h_mem
        · exact exists_holds_step h_words (hasSlot_of_freeDoor h_before)
  · exact h_old h_m

/-- A module that had a slot: its own line moves both routes, and no other line moves one. -/
theorem RoutesInv.agree_found {e : HubEv} {mod type : CStr} {args : List CStr} {t : ℤ}
    (h_words : e.words = mod :: type :: args)
    (h_doors : (step h e).gDoors = lineDoors mod type args e.source t h.gDoors) {m : CStr}
    {d : Fin HUB_MAX_DOORS} (h_find : findDoor m h.gDoors = some d)
    (h_addr : ((step h e).gDoors d).hasLastAddr = true) :
    endpointAddr m (step h e).gEndpoints = some ((step h e).gDoors d).lastAddr ∨
      NoEndpointLeft m (step h e) := by
  have h_eps := step_gEndpoints h e
  rw [h_words] at h_eps
  dsimp only at h_eps
  unfold NoEndpointLeft
  rw [h_eps]
  by_cases h_mod : mod = m
  · subst h_mod
    have h_slot := lineDoors_of_findDoor h_find type args e.source t
    have h_route := lineStatus_route mod type args e.source t (h.gDoors d)
    rw [h_doors, h_slot, h_route.1] at h_addr
    rw [h_doors, h_slot, h_route.2]
    unfold updateLastAddr at h_addr ⊢
    split_ifs at h_addr ⊢ with h_type
    · -- a client's line leaves both routes as they are
      exact inv.agree mod d h_find h_addr
    · by_cases h_room : endpointSlot mod h.gEndpoints = none
      · -- no room for the endpoint
        obtain ⟨h_full, h_not⟩ := endpointSlot_eq_none_iff.mp h_room
        exact Or.inr (hubUpdateEndpoint_full h_full h_not mod e.source)
      · have h_fits : mod.length < HUB_MODULE_ID_LEN := by
          rw [← (holds_of_findDoor h_find).2]
          exact (h.gDoors d).moduleId.fits
        exact Or.inl (endpointAddr_hubUpdateEndpoint_self e.source h_fits h_room)
  · -- the line of another module
    have h_same : (step h e).gDoors d = h.gDoors d := by
      rw [h_doors]
      rcases lineDoors_of_holds (holds_of_findDoor h_find) mod type args e.source t with
        h_same | ⟨h_eq, -⟩
      · exact h_same
      · exact absurd h_eq h_mod
    rw [h_same] at h_addr ⊢
    split_ifs with h_type
    · exact inv.agree m d h_find h_addr
    · rcases inv.agree m d h_find h_addr with h_ep | ⟨h_full, h_none⟩
      · exact Or.inl (endpointAddr_hubUpdateEndpoint_of_ne e.source h_mod h_ep)
      · have h_not := endpointAddr_eq_none_iff.mp h_none
        exact Or.inr (hubUpdateEndpoint_full h_full h_not mod e.source)

/-- A module that gets its slot now: if it gets a return address with it, no endpoint has its id
yet. -/
theorem RoutesInv.agree_created {e : HubEv} {mod type : CStr} {args : List CStr} {t : ℤ}
    (h_words : e.words = mod :: type :: args)
    (h_doors : (step h e).gDoors = lineDoors mod type args e.source t h.gDoors)
    (h_takes : TakesSlot mod h.gDoors) (h_new : findDoor (mod.take 15) h.gDoors = none)
    {d : Fin HUB_MAX_DOORS} (h_holds : Holds (step h e).gDoors (mod.take 15) d)
    (h_addr : ((step h e).gDoors d).hasLastAddr = true) :
    endpointAddr (mod.take 15) (step h e).gEndpoints = some ((step h e).gDoors d).lastAddr ∨
      NoEndpointLeft (mod.take 15) (step h e) := by
  -- the slot is the one that was free
  obtain ⟨i, h_free⟩ := Option.ne_none_iff_exists'.mp h_takes.2
  have h_create : findOrCreateDoor mod h.gDoors
      = (Function.update h.gDoors i (HubDoorStatus.fresh mod), some i) := by
    unfold findOrCreateDoor
    rw [h_takes.1, h_free]
  have h_d : d = i := by
    by_contra h_ne
    refine findDoor_eq_none_iff.mp h_new d ?_
    have h_tag := step_tag_of_words h h_words d
    rw [h_create] at h_tag
    dsimp only at h_tag
    rw [Function.update_of_ne h_ne] at h_tag
    unfold Holds at h_holds
    rw [h_tag.1, h_tag.2] at h_holds
    exact h_holds
  subst h_d
  have h_slot : (step h e).gDoors d
      = lineStatus mod type args e.source t (HubDoorStatus.fresh mod) := by
    rw [h_doors]
    unfold lineDoors
    rw [h_create]
    dsimp only
    rw [Function.update_self, Function.update_self]
  have h_route := lineStatus_route mod type args e.source t (HubDoorStatus.fresh mod)
  have h_eps := step_gEndpoints h e
  rw [h_words] at h_eps
  dsimp only at h_eps
  rw [h_slot, h_route.1] at h_addr
  rw [h_slot, h_route.2]
  unfold NoEndpointLeft
  rw [h_eps]
  unfold updateLastAddr at h_addr ⊢
  split_ifs at h_addr ⊢ with h_type
  · -- a slot that a COMMAND creates has no return address
    exact absurd h_addr Bool.false_ne_true
  · have h_cut : mod.take 15 ∉ endpointIds h.gEndpoints := by
      intro h_mem
      obtain ⟨j, h_j⟩ := inv.tracked h_takes.2 _ h_mem
      exact findDoor_eq_none_iff.mp h_new j h_j
    rcases Nat.lt_or_ge h.gEndpoints.length HUB_MAX_MODULES with h_room | h_full
    · refine Or.inl (endpointAddr_hubUpdateEndpoint_new e.source ?_ h_room h_cut)
      -- an id that is found fits, and is its own cut form
      cases h_find : hubFindEndpoint mod h.gEndpoints with
      | none => rfl
      | some j =>
        have h_mem := mem_endpointIds h_find
        have h_fits := length_lt_of_mem_endpointIds h_mem
        rw [List.take_of_length_le (Nat.le_of_lt_succ h_fits)] at h_cut
        exact absurd h_mem h_cut
    · exact Or.inr (hubUpdateEndpoint_full h_full h_cut mod e.source)

/-- **Step.** -/
theorem RoutesInv.step (e : HubEv) : RoutesInv (Hub.step h e) where
  packed := inv.packed.step e
  tracked := inv.tracked_step e
  agree := by
    intro m d h_find h_addr
    rcases step_gDoors_cases h e with ⟨mod, type, args, t, h_words, h_doors⟩ | ⟨h_no, h_doors⟩
    · cases h_before : findDoor m h.gDoors with
      | some d' =>
        -- the slot of a module never changes
        obtain rfl : d' = d := by
          have h_kept := inv.packed.findDoor_step h_before e
          rw [h_find] at h_kept
          exact (Option.some.inj h_kept).symm
        exact inv.agree_found h_words h_doors h_before h_addr
      | none =>
        rcases holds_step_cases (holds_of_findDoor h_find) with h_old | ⟨m', type', args', h_words',
          h_takes, rfl⟩
        · exact absurd h_old (findDoor_eq_none_iff.mp h_before d)
        · rw [h_words] at h_words'
          obtain rfl : mod = m' := (List.cons.inj h_words').1
          exact inv.agree_created h_words h_doors h_takes h_before (holds_of_findDoor h_find) h_addr
    · -- no line: the check writes other fields
      have h_eps : (Hub.step h e).gEndpoints = h.gEndpoints := by
        rw [step_gEndpoints]
        split
        · next h_words => exact absurd h_words (h_no _ _ _)
        · rfl
      have h_same : findDoor m (Hub.step h e).gDoors = findDoor m h.gDoors :=
        findDoor_congr (fun i => by rw [h_doors i]; exact ⟨rfl, rfl⟩) m
      rw [h_same] at h_find
      unfold NoEndpointLeft
      rw [h_eps]
      rw [h_doors d] at h_addr ⊢
      exact inv.agree m d h_find h_addr

end Step

/-- In every state that the hub can reach, the two return routes of a module lead to the same
address, unless the endpoint table is full and the module is not in it. -/
theorem routesAgree_or_full (url : CharBuf 512) (es : List HubEv) :
    RoutesAgreeOrFull (reached url es) := by
  have inv : RoutesInv (reached url es) :=
    run_invariant RoutesInv (fun _ e inv => inv.step e) (RoutesInv.initial url) es
  intro m s h_status h_addr
  obtain ⟨d, h_find, rfl⟩ := Option.map_eq_some_iff.mp h_status
  exact inv.agree m d h_find h_addr

/-! ### Slots that only modules take -/

/-- The line of a client takes no slot: the event is no COMMAND line, or its module has a slot, or
there is none left. -/
def SparesSlots (h : HubState) (e : HubEv) : Prop :=
  ∀ m args, e.words = m :: "COMMAND".toList :: args → ¬ TakesSlot m h.gDoors

/-- No COMMAND line of the run takes a slot. -/
def CommandsSpareSlots (url : CharBuf 512) (es : List HubEv) : Prop :=
  ∀ es₁ e es₂, es = es₁ ++ e :: es₂ → SparesSlots (reached url es₁) e

theorem commandsSpareSlots_concat {url : CharBuf 512} {es : List HubEv} {e : HubEv} :
    CommandsSpareSlots url (es ++ [e]) ↔
      CommandsSpareSlots url es ∧ SparesSlots (reached url es) e := by
  constructor
  · refine fun h_all => ⟨fun es₁ e' es₂ h_split => ?_, h_all es e [] rfl⟩
    refine h_all es₁ e' (es₂ ++ [e]) ?_
    rw [h_split, List.append_assoc, List.cons_append]
  · rintro ⟨h_before, h_last⟩ es₁ e' es₂ h_split
    -- the event is the last one, or one before it
    rcases List.eq_nil_or_concat es₂ with rfl | ⟨es₃, e'', rfl⟩
    · obtain ⟨rfl, h_e⟩ := List.append_inj' h_split rfl
      obtain rfl := List.singleton_inj.mp h_e
      exact h_last
    · rw [List.concat_eq_append, ← List.cons_append, ← List.append_assoc] at h_split
      exact h_before es₁ e' es₃ (List.append_inj' h_split rfl).1

theorem CommandsSpareSlots.init {url : CharBuf 512} {es₁ es₂ : List HubEv}
    (h_es : CommandsSpareSlots url (es₁ ++ es₂)) : CommandsSpareSlots url es₁ := by
  intro es₁' e es₂' h_split
  refine h_es es₁' e (es₂' ++ es₂) ?_
  rw [h_split, List.append_assoc, List.cons_append]

/-- The slots in use. -/
def takenSlots (g : DoorTable) : Finset (Fin HUB_MAX_DOORS) :=
  Finset.univ.filter (fun i => (g i).known = true)

theorem mem_takenSlots {g : DoorTable} {i : Fin HUB_MAX_DOORS} :
    i ∈ takenSlots g ↔ (g i).known = true := by
  unfold takenSlots
  rw [Finset.mem_filter]
  exact and_iff_right (Finset.mem_univ i)

/-- A table with a free slot has fewer taken ones than the endpoint table has entries. -/
theorem card_takenSlots_lt {g : DoorTable} (h_free : freeDoor g ≠ none) :
    (takenSlots g).card < HUB_MAX_MODULES := by
  obtain ⟨i, h_i⟩ := Option.ne_none_iff_exists'.mp h_free
  have h_not : i ∉ takenSlots g := by
    rw [mem_takenSlots, freeDoor_eq_some h_i]
    exact Bool.false_ne_true
  have h_card := Finset.card_lt_univ_of_notMem h_not
  rw [Fintype.card_fin] at h_card
  exact h_card.trans (by decide)

/-- Every slot has its endpoint, and while a slot is free there are no other endpoints. -/
structure Listed (h : HubState) : Prop where
  endpoint : ∀ i, (h.gDoors i).known = true → (h.gDoors i).moduleId.str ∈ endpointIds h.gEndpoints
  few : freeDoor h.gDoors ≠ none → h.gEndpoints.length ≤ (takenSlots h.gDoors).card

theorem Listed.initial (url : CharBuf 512) : Listed (HubState.initial url) where
  endpoint := fun _ h_i => absurd h_i Bool.false_ne_true
  few := fun _ => Nat.zero_le _

theorem endpointIds_subset_hubUpdateEndpoint (m : CStr) (src : SockAddr) (eps : List HubEndpoint) :
    endpointIds eps ⊆ endpointIds (hubUpdateEndpoint m src eps) := by
  rcases endpointIds_hubUpdateEndpoint m src eps with h_ids | ⟨-, -, h_ids⟩
  · rw [h_ids]
    exact List.Subset.refl _
  · rw [h_ids]
    exact List.subset_append_left _ _

/-- An event that takes no slot and brings no endpoint. -/
theorem Listed.of_keepsSlots {h : HubState} (inv : Listed h) {e : HubEv}
    (h_keeps : KeepsSlots h e)
    (h_ids : endpointIds (step h e).gEndpoints = endpointIds h.gEndpoints) :
    Listed (step h e) := by
  have h_taken : takenSlots (step h e).gDoors = takenSlots h.gDoors := by
    ext i
    rw [mem_takenSlots, mem_takenSlots, (h_keeps i).1]
  constructor
  · intro i h_i
    rw [(h_keeps i).1] at h_i
    rw [(h_keeps i).2, h_ids]
    exact inv.endpoint i h_i
  · intro h_free
    rw [h_taken, ← length_endpointIds, h_ids, length_endpointIds]
    exact inv.few (freeDoor_of_step h_free)

/-- The line of a module that has a slot, or can have none. -/
theorem Listed.line_found {h : HubState} (inv : Listed h) {e : HubEv} {mod type : CStr}
    {args : List CStr} (h_words : e.words = mod :: type :: args)
    (h_takes : ¬ TakesSlot mod h.gDoors) (h_eps : (step h e).gEndpoints
      = hubUpdateEndpoint mod e.source h.gEndpoints) : Listed (step h e) := by
  have h_keeps := keepsSlots_of_not_takesSlot h_words h_takes
  rcases endpointIds_hubUpdateEndpoint mod e.source h.gEndpoints with h_ids | ⟨h_find, -, -⟩
  · exact inv.of_keepsSlots h_keeps (by rw [h_eps, h_ids])
  · -- a new endpoint: the module has no slot, so there is none left
    have h_full : freeDoor h.gDoors = none := by
      by_contra h_free
      have h_slot : findDoor mod h.gDoors ≠ none := fun h_none => h_takes ⟨h_none, h_free⟩
      obtain ⟨i, h_i⟩ := Option.ne_none_iff_exists'.mp h_slot
      obtain ⟨h_known, h_id⟩ := holds_of_findDoor h_i
      have h_mem := inv.endpoint i h_known
      rw [h_id] at h_mem
      exact not_mem_endpointIds h_find h_mem
    constructor
    · intro i h_i
      rw [(h_keeps i).1] at h_i
      rw [(h_keeps i).2, h_eps]
      exact endpointIds_subset_hubUpdateEndpoint _ _ _ (inv.endpoint i h_i)
    · exact fun h_free => absurd h_full (freeDoor_of_step h_free)

/-- The line with which a module takes its slot gives it an endpoint, too. -/
theorem Listed.line_new {h : HubState} (inv : Listed h) {e : HubEv} {mod type : CStr}
    {args : List CStr} (h_words : e.words = mod :: type :: args)
    (h_takes : TakesSlot mod h.gDoors) (h_eps : (step h e).gEndpoints
      = hubUpdateEndpoint mod e.source h.gEndpoints) : Listed (step h e) := by
  obtain ⟨i, h_free, h_create⟩ := h_takes.exists_fresh
  have h_tag := step_tag_of_words h h_words
  rw [h_create] at h_tag
  have h_few := inv.few h_takes.2
  have h_room : h.gEndpoints.length < HUB_MAX_MODULES :=
    h_few.trans_lt (card_takenSlots_lt h_takes.2)
  have h_listed : mod.take 15 ∈ endpointIds (hubUpdateEndpoint mod e.source h.gEndpoints) := by
    cases h_find : hubFindEndpoint mod h.gEndpoints with
    | some j =>
      -- an id that is found fits, and is its own cut form
      have h_mem := mem_endpointIds h_find
      have h_fits := length_lt_of_mem_endpointIds h_mem
      rw [List.take_of_length_le (Nat.le_of_lt_succ h_fits)]
      exact endpointIds_subset_hubUpdateEndpoint _ _ _ h_mem
    | none =>
      rw [hubUpdateEndpoint_of_new h_find h_room]
      exact List.mem_map.mpr ⟨_, List.mem_append_right _ List.mem_cons_self, rfl⟩
  have h_taken : takenSlots (step h e).gDoors = insert i (takenSlots h.gDoors) := by
    ext j
    rw [mem_takenSlots, (h_tag j).1, Finset.mem_insert, mem_takenSlots]
    by_cases h_ji : j = i
    · subst h_ji
      rw [Function.update_self]
      exact iff_of_true rfl (Or.inl rfl)
    · rw [Function.update_of_ne h_ji]
      exact (or_iff_right h_ji).symm
  have h_not : i ∉ takenSlots h.gDoors := by
    rw [mem_takenSlots, h_free]
    exact Bool.false_ne_true
  constructor
  · intro j h_j
    rw [(h_tag j).1] at h_j
    rw [(h_tag j).2, h_eps]
    by_cases h_ji : j = i
    · subst h_ji
      rw [Function.update_self]
      exact h_listed
    · rw [Function.update_of_ne h_ji] at h_j ⊢
      exact endpointIds_subset_hubUpdateEndpoint _ _ _ (inv.endpoint j h_j)
  · intro _
    rw [h_taken, Finset.card_insert_of_notMem h_not, h_eps, ← length_endpointIds]
    rcases endpointIds_hubUpdateEndpoint mod e.source h.gEndpoints with h_ids | ⟨-, -, h_ids⟩
    · rw [h_ids, length_endpointIds]
      exact h_few.trans (Nat.le_succ _)
    · rw [h_ids, List.length_append, length_endpointIds]
      exact Nat.succ_le_succ h_few

/-- **Step.** -/
theorem Listed.step {h : HubState} (inv : Listed h) {e : HubEv} (h_spares : SparesSlots h e) :
    Listed (Hub.step h e) := by
  have h_eps := step_gEndpoints h e
  rcases words_cases e.words with ⟨mod, type, args, h_words⟩ | h_no
  · rw [h_words] at h_eps
    dsimp only at h_eps
    split_ifs at h_eps with h_type
    · -- a client's line
      rw [h_type] at h_words
      exact inv.of_keepsSlots (keepsSlots_of_not_takesSlot h_words (h_spares mod args h_words))
        (by rw [h_eps])
    · by_cases h_takes : TakesSlot mod h.gDoors
      · exact inv.line_new h_words h_takes h_eps
      · exact inv.line_found h_words h_takes h_eps
  · -- no line
    have h_keeps : KeepsSlots h e := by
      rcases step_tag h e with ⟨mod, type, args, h_words, -⟩ | ⟨-, h_tag⟩
      · exact absurd h_words (h_no _ _ _)
      · exact h_tag
    refine inv.of_keepsSlots h_keeps (congrArg endpointIds ?_)
    rw [h_eps]
    split
    · next h_words => exact absurd h_words (h_no _ _ _)
    · rfl

/-- **Run.** -/
theorem listed_reached {url : CharBuf 512} {es : List HubEv} (h_es : CommandsSpareSlots url es) :
    Listed (reached url es) := by
  -- on the events, the last one first
  induction es using List.reverseRecOn with
  | nil => exact Listed.initial url
  | append_singleton es e ih =>
    obtain ⟨h_before, h_last⟩ := commandsSpareSlots_concat.mp h_es
    rw [reached_split, run_nil]
    exact (ih h_before).step h_last

/-- **When the routes agree.** In every run in which no COMMAND line takes a door slot, the two
return routes of every module agree at any time. -/
theorem routesAgree_reached (url : CharBuf 512) (es : List HubEv)
    (h_es : CommandsSpareSlots url es) (es₁ es₂ : List HubEv) (h_split : es = es₁ ++ es₂) :
    RoutesAgree (reached url es₁) := by
  subst h_split
  have inv := listed_reached h_es.init
  intro m s h_status h_addr
  rcases routesAgree_or_full url es₁ m s h_status h_addr with h_agree | ⟨-, h_none⟩
  · exact h_agree
  · -- the slot of the module has its endpoint
    obtain ⟨d, h_find, rfl⟩ := Option.map_eq_some_iff.mp h_status
    obtain ⟨h_known, h_id⟩ := holds_of_findDoor h_find
    have h_mem := inv.endpoint d h_known
    rw [h_id] at h_mem
    exact absurd h_mem (endpointAddr_eq_none_iff.mp h_none)

/-- A command for a module that has said hello takes no slot. -/
theorem routesAgree_hello_command : RoutesAgree (reached (CharBuf.zero _)
    [bareDatagram "D1 HELLO\n".toList, bareDatagram "D1 COMMAND 1 D0 LOCK\n".toList]) := by
  have h_none : CommandsSpareSlots (CharBuf.zero _) [] :=
    fun _ _ _ h_split => absurd h_split (by simp)
  -- the HELLO is no command
  have h_hello : CommandsSpareSlots (CharBuf.zero _)
      ([] ++ [bareDatagram "D1 HELLO\n".toList]) := by
    refine commandsSpareSlots_concat.mpr ⟨h_none, fun m args h_words => ?_⟩
    have h_line : lineTokens (datagramLine "D1 HELLO\n".toList)
        = ["D1".toList, "HELLO".toList] := by decide +kernel
    exact absurd (h_line.symm.trans h_words) (by simp)
  -- and the command finds the slot of its module
  have h_command : CommandsSpareSlots (CharBuf.zero _) ([bareDatagram "D1 HELLO\n".toList]
      ++ [bareDatagram "D1 COMMAND 1 D0 LOCK\n".toList]) := by
    refine commandsSpareSlots_concat.mpr ⟨h_hello, fun m args h_words => ?_⟩
    have h_line : lineTokens (datagramLine "D1 COMMAND 1 D0 LOCK\n".toList)
        = ["D1".toList, "COMMAND".toList, "1".toList, "D0".toList, "LOCK".toList] := by
      decide +kernel
    obtain rfl := (List.cons.inj (h_line.symm.trans h_words)).1
    decide +kernel
  exact routesAgree_reached (CharBuf.zero _) _ h_command _ [] (List.append_nil _).symm

/-- A client's command gives `D0` a slot. By the time the door is heard, sixteen other modules have
taken the endpoints. -/
def lateDoor : List HubEv :=
  bareDatagram "D0 COMMAND 1 D0 LOCK\n".toList ::
    (["M1", "M2", "M3", "M4", "M5", "M6", "M7", "M8", "M9", "M10", "M11", "M12", "M13", "M14",
      "M15", "M16", "D0"].map (fun m => bareDatagram (m.toList ++ " HELLO\n".toList)))

/-- `hub_udp_send_command` has a route to `D0`, and a web client has none. -/
theorem not_routesAgree : ¬ RoutesAgree (reached (CharBuf.zero _) lateDoor) := by
  intro h_agree
  have h_status : (hubUdpGetStatus "D0".toList (reached (CharBuf.zero _) lateDoor)).map
      HubDoorStatus.hasLastAddr = some true := by decide +kernel
  have h_none : endpointAddr "D0".toList (reached (CharBuf.zero _) lateDoor).gEndpoints = none := by
    decide +kernel
  obtain ⟨s, h_s, h_addr⟩ := Option.map_eq_some_iff.mp h_status
  rw [h_agree _ s h_s h_addr] at h_none
  exact absurd h_none (by simp)

/-! ### Which lines move an endpoint -/

/-- The types of the lines that a door module sends. -/
def moduleTypes : List CStr :=
  ["HELLO".toList, "EVENT".toList, "HEARTBEAT".toList, "FEEDBACK".toList]

/-- The sender of a HELLO, EVENT, HEARTBEAT or FEEDBACK line of the module `m`. -/
def reportAddr (m : CStr) (e : HubEv) : Option SockAddr :=
  match e.words with
  | mod :: type :: _ => if mod = m ∧ type ∈ moduleTypes then some e.source else none
  | _ => none

/-- The sender of the last such line. -/
def lastReport (m : CStr) (es : List HubEv) : Option SockAddr :=
  lastWrite (fun e => (reportAddr m e).map some) none es

/-- **Endpoints follow the modules**: at any time of the run, the endpoint of a module is the sender
of its last line of the four types, and all other lines leave the endpoint table alone. -/
structure EndpointsFollow (url : CharBuf 512) (es : List HubEv) : Prop where
  follow : ∀ es₁ es₂, es = es₁ ++ es₂ → ∀ m,
    endpointAddr m (reached url es₁).gEndpoints = lastReport m es₁
  others : ∀ es₁ e es₂, es = es₁ ++ e :: es₂ → (∀ m, reportAddr m e = none) →
    (reached url (es₁ ++ [e])).gEndpoints = (reached url es₁).gEndpoints

/-- A line whose type is none of the five that the hub knows. -/
def IsStray (e : HubEv) (m : CStr) : Prop :=
  ∃ type args, e.words = m :: type :: args ∧ type ≠ "COMMAND".toList ∧ type ∉ moduleTypes

/-- Every line of an unknown type comes from where the module's last report came from. -/
def StraysAtHome (es : List HubEv) : Prop :=
  ∀ es₁ e es₂, es = es₁ ++ e :: es₂ → ∀ m, IsStray e m → lastReport m es₁ = some e.source

/-- A run over at most 16 modules with ids of at most 15 characters. -/
structure FewModulesRun where
  url : CharBuf 512
  events : List HubEv
  ids : Finset CStr
  few : ids.card ≤ HUB_MAX_MODULES
  short : ∀ m ∈ ids, m.length ≤ 15
  modules : ∀ e ∈ events, ∀ mod type args, e.words = mod :: type :: args → mod ∈ ids

theorem lastReport_concat (m : CStr) (es : List HubEv) (e : HubEv) :
    lastReport m (es ++ [e]) = ((reportAddr m e).map some).getD (lastReport m es) :=
  lastWrite_concat _ _ _ _

/-- The endpoint table holds ids of the run, each of them once. -/
structure EndpointsOver (ids : Finset CStr) (eps : List HubEndpoint) : Prop where
  distinct : EndpointsDistinct eps
  mem : ∀ m ∈ endpointIds eps, m ∈ ids

/-- **Step.** -/
theorem EndpointsOver.step {ids : Finset CStr} (h_short : ∀ m ∈ ids, m.length ≤ 15)
    {h : HubState} (inv : EndpointsOver ids h.gEndpoints) {e : HubEv}
    (h_e : ∀ mod type args, e.words = mod :: type :: args → mod ∈ ids) :
    EndpointsOver ids (Hub.step h e).gEndpoints := by
  rw [step_gEndpoints]
  split
  · next mod type args h_words =>
    have h_mod : mod ∈ ids := h_e mod type args h_words
    have h_fits : mod.length < HUB_MODULE_ID_LEN := Nat.lt_succ_of_le (h_short mod h_mod)
    split_ifs
    · exact inv
    · refine ⟨inv.distinct.hubUpdateEndpoint h_fits _, fun m h_m => ?_⟩
      rcases endpointIds_hubUpdateEndpoint mod e.source h.gEndpoints with h_ids | ⟨-, -, h_ids⟩
      · rw [h_ids] at h_m
        exact inv.mem m h_m
      · -- the new id is the one of the line
        rw [h_ids, List.take_of_length_le (Nat.le_of_lt_succ h_fits)] at h_m
        rcases List.mem_append.mp h_m with h_old | h_new
        · exact inv.mem m h_old
        · rw [List.mem_singleton.mp h_new]
          exact h_mod
  · exact inv

/-- There is room for every id of the run. -/
theorem EndpointsOver.room {ids : Finset CStr} (h_few : ids.card ≤ HUB_MAX_MODULES)
    {eps : List HubEndpoint} (inv : EndpointsOver ids eps) {m : CStr} (h_m : m ∈ ids) :
    endpointSlot m eps ≠ none := by
  intro h_none
  obtain ⟨h_full, h_not⟩ := endpointSlot_eq_none_iff.mp h_none
  -- the ids of the table and `m` are more than there are
  have h_sub : (m :: endpointIds eps).toFinset ⊆ ids := by
    intro m' h_mem
    rw [List.mem_toFinset, List.mem_cons] at h_mem
    rcases h_mem with rfl | h_mem
    · exact h_m
    · exact inv.mem m' h_mem
  have h_nodup : (m :: endpointIds eps).Nodup := List.nodup_cons.mpr ⟨h_not, inv.distinct⟩
  have h_card := Finset.card_le_card h_sub
  rw [List.toFinset_card_of_nodup h_nodup, List.length_cons, length_endpointIds] at h_card
  omega

/-- Writing the address that an entry has changes nothing. -/
theorem hubUpdateEndpoint_of_endpointAddr {m : CStr} {eps : List HubEndpoint} {src : SockAddr}
    (h_ready : EndpointsReady eps) (h_addr : endpointAddr m eps = some src) :
    hubUpdateEndpoint m src eps = eps := by
  obtain ⟨ep, h_ep, rfl⟩ := Option.map_eq_some_iff.mp h_addr
  obtain ⟨i, h_find, h_get⟩ := Option.bind_eq_some_iff.mp h_ep
  have h_flag : ep.hasAddr = true := h_ready ep (List.mem_of_getElem? h_get)
  unfold hubUpdateEndpoint
  rw [h_find]
  dsimp only
  apply List.ext_getElem?
  intro j
  rw [List.getElem?_modify]
  by_cases h_ij : i = j
  · subst h_ij
    simp only [h_get, if_true, Option.map_eq_map, Option.map_some]
    rw [← h_flag]
  · simp only [if_neg h_ij, Option.map_eq_map, Option.map_id']

section Runs

variable (R : FewModulesRun)

theorem FewModulesRun.endpointsOver {es₁ es₂ : List HubEv} (h_split : R.events = es₁ ++ es₂) :
    EndpointsOver R.ids (reached R.url es₁).gEndpoints := by
  refine run_invariant_of_forall (fun h : HubState => EndpointsOver R.ids h.gEndpoints)
    (C := fun e => ∀ mod type args, e.words = mod :: type :: args → mod ∈ R.ids)
    (fun h e h_e inv => inv.step R.short h_e) ?_ ?_
  · exact ⟨List.nodup_nil, fun m h_m => absurd h_m List.not_mem_nil⟩
  · intro e h_mem
    refine R.modules e ?_
    rw [h_split]
    exact List.mem_append_left _ h_mem

/-- **Every line but a COMMAND** moves the endpoint of its module, and no other. -/
theorem FewModulesRun.endpointAddr_step {es₁ es₂ : List HubEv} {e : HubEv}
    (h_split : R.events = es₁ ++ e :: es₂) {mod type : CStr} {args : List CStr}
    (h_words : e.words = mod :: type :: args) (h_type : type ≠ "COMMAND".toList) (m : CStr) :
    endpointAddr m (reached R.url (es₁ ++ [e])).gEndpoints
      = if mod = m then some e.source else endpointAddr m (reached R.url es₁).gEndpoints := by
  have h_mod : mod ∈ R.ids := by
    refine R.modules e ?_ mod type args h_words
    rw [h_split]
    exact List.mem_append_right _ List.mem_cons_self
  have h_fits : mod.length < HUB_MODULE_ID_LEN := Nat.lt_succ_of_le (R.short mod h_mod)
  -- the table has an entry for every module of the run
  have h_room : endpointSlot mod (reached R.url es₁).gEndpoints ≠ none :=
    (R.endpointsOver h_split).room R.few h_mod
  rw [reached_split, run_nil, step_gEndpoints, h_words]
  dsimp only
  rw [if_neg h_type]
  split_ifs with h_eq
  · subst h_eq
    exact endpointAddr_hubUpdateEndpoint_self e.source h_fits h_room
  · rw [endpointAddr_eq_map, endpointAddr_eq_map,
      hubEndpoint_hubUpdateEndpoint_of_ne h_fits (Ne.symm h_eq)]

/-- Events that are no line, and COMMAND lines, leave the table alone. -/
theorem gEndpoints_step_of_silent (url : CharBuf 512) (es : List HubEv) {e : HubEv}
    (h_e : ∀ mod type args, e.words = mod :: type :: args → type = "COMMAND".toList) :
    (reached url (es ++ [e])).gEndpoints = (reached url es).gEndpoints := by
  rw [reached_split, run_nil, step_gEndpoints]
  split
  · next mod type args h_words => exact if_pos (h_e mod type args h_words)
  · rfl

theorem reportAddr_eq_none {e : HubEv}
    (h_e : ∀ mod type args, e.words = mod :: type :: args → type ∉ moduleTypes) (m : CStr) :
    reportAddr m e = none := by
  unfold reportAddr
  split
  · next mod type args h_words => exact if_neg (fun h => h_e mod type args h_words h.2)
  · rfl

/-- **Run.** With every stray line at home, the endpoints follow the reports. -/
theorem FewModulesRun.follows (h_home : StraysAtHome R.events) (es₁ : List HubEv) :
    ∀ es₂, R.events = es₁ ++ es₂ → ∀ m,
      endpointAddr m (reached R.url es₁).gEndpoints = lastReport m es₁ := by
  -- on the last event: no line, a COMMAND, a report or a stray
  induction es₁ using List.reverseRecOn with
  | nil => exact fun _ _ _ => rfl
  | append_singleton es₁ e ih =>
    intro es₂ h_split m
    rw [List.append_assoc, List.singleton_append] at h_split
    have h_before := ih (e :: es₂) h_split
    rw [lastReport_concat]
    rcases words_cases e.words with ⟨mod, type, args, h_words⟩ | h_no
    · by_cases h_type : type = "COMMAND".toList
      · have h_cmd : ∀ mod' type' args', e.words = mod' :: type' :: args' →
            type' = "COMMAND".toList := by
          intro mod' type' args' h_words'
          rw [h_words] at h_words'
          rw [← (List.cons.inj (List.cons.inj h_words').2).1]
          exact h_type
        have h_none : reportAddr m e = none := by
          refine reportAddr_eq_none (fun mod' type' args' h_words' => ?_) m
          rw [h_cmd mod' type' args' h_words']
          decide
        rw [gEndpoints_step_of_silent R.url es₁ h_cmd, h_none]
        exact h_before m
      · rw [R.endpointAddr_step h_split h_words h_type m]
        unfold reportAddr
        rw [h_words]
        dsimp only
        by_cases h_mod : mod = m
        · subst h_mod
          by_cases h_report : type ∈ moduleTypes
          · rw [if_pos rfl, if_pos ⟨rfl, h_report⟩]
            rfl
          · -- the stray line repeats where the module was
            have h_stray := h_home es₁ e es₂ h_split mod ⟨type, args, h_words, h_type, h_report⟩
            rw [if_pos rfl, if_neg (fun h => h_report h.2), h_stray]
            rfl
        · rw [if_neg h_mod, if_neg (fun h => h_mod h.1)]
          exact h_before m
    · -- no line, so neither a COMMAND nor a report
      rw [gEndpoints_step_of_silent R.url es₁ (fun _ _ _ h => absurd h (h_no _ _ _)),
        reportAddr_eq_none (fun _ _ _ h => absurd h (h_no _ _ _)) m]
      exact h_before m

/-- **When the endpoints follow the modules.** Over at most 16 modules with ids that fit, exactly
when no line of an unknown type comes from anywhere else than the last report of its module. -/
theorem endpointsFollow_iff : EndpointsFollow R.url R.events ↔ StraysAtHome R.events := by
  constructor
  · -- a stray line moves the endpoint, but is no report
    rintro h_follow es₁ e es₂ h_split m ⟨type, args, h_words, h_type, h_stray⟩
    have h_none : reportAddr m e = none := by
      refine reportAddr_eq_none (fun mod' type' args' h_words' => ?_) m
      rw [h_words] at h_words'
      rw [← (List.cons.inj (List.cons.inj h_words').2).1]
      exact h_stray
    have h_app : R.events = (es₁ ++ [e]) ++ es₂ := by simpa using h_split
    calc lastReport m es₁
        = lastReport m (es₁ ++ [e]) := by rw [lastReport_concat, h_none]; rfl
      _ = endpointAddr m (reached R.url (es₁ ++ [e])).gEndpoints :=
          (h_follow.follow _ _ h_app m).symm
      _ = some e.source := by rw [R.endpointAddr_step h_split h_words h_type m, if_pos rfl]
  · intro h_home
    refine ⟨fun es₁ es₂ h_split => R.follows h_home es₁ es₂ h_split, ?_⟩
    intro es₁ e es₂ h_split h_none
    by_cases h_silent : ∀ mod type args, e.words = mod :: type :: args → type = "COMMAND".toList
    · exact gEndpoints_step_of_silent R.url es₁ h_silent
    · push Not at h_silent
      obtain ⟨mod, type, args, h_words, h_type⟩ := h_silent
      have h_stray : type ∉ moduleTypes := by
        intro h_report
        have h_mod := h_none mod
        unfold reportAddr at h_mod
        rw [h_words] at h_mod
        dsimp only at h_mod
        rw [if_pos ⟨rfl, h_report⟩] at h_mod
        exact absurd h_mod (by simp)
      -- the address that is written stands there already
      have h_addr : endpointAddr mod (reached R.url es₁).gEndpoints = some e.source :=
        calc endpointAddr mod (reached R.url es₁).gEndpoints
            = lastReport mod es₁ := R.follows h_home es₁ _ h_split mod
          _ = some e.source := h_home es₁ e es₂ h_split mod ⟨type, args, h_words, h_type, h_stray⟩
      rw [reached_split, run_nil, step_gEndpoints, h_words]
      dsimp only
      rw [if_neg h_type]
      exact hubUpdateEndpoint_of_endpointAddr (pathOpen_reached R.url es₁).ready h_addr

end Runs

/-- The door `D1` says hello, and a web client sends a line of no known type for it. -/
def strayClient : FewModulesRun where
  url := CharBuf.zero _
  events := [.datagram "D1 HELLO\n".toList ⟨1, 5000⟩ 0 0,
    .datagram "D1 PING\n".toList ⟨2, 6000⟩ 0 0]
  ids := {"D1".toList}
  few := by decide
  short := by decide
  modules := by
    intro e h_e mod type args h_words
    rw [Finset.mem_singleton]
    rcases List.mem_cons.mp h_e with rfl | h_e
    · have h_line : lineTokens (datagramLine "D1 HELLO\n".toList)
          = ["D1".toList, "HELLO".toList] := by decide +kernel
      exact (List.cons.inj (h_line.symm.trans h_words)).1.symm
    · obtain rfl := List.mem_singleton.mp h_e
      have h_line : lineTokens (datagramLine "D1 PING\n".toList)
          = ["D1".toList, "PING".toList] := by decide +kernel
      exact (List.cons.inj (h_line.symm.trans h_words)).1.symm

/-- Commands for the door go to the client from then on. -/
theorem not_endpointsFollow : ¬ EndpointsFollow strayClient.url strayClient.events := by
  intro h_follow
  have h_addr := h_follow.follow strayClient.events [] (by simp) "D1".toList
  revert h_addr
  decide +kernel

end Hub

end DoorSystem
