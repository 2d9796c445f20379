import DoorSystem.Hub.Effects

/-!
# One module, one slot

A module id is stored through a 16-byte buffer and looked up with the whole token. As long as every
id fits (15 characters), an insertion is found by every later search and the tables hold each
module once: `SlotsDistinct` and `EndpointsDistinct` are invariants, and the slot or endpoint a
line was given is the one its module keeps (`step_findDoor`, `step_hubFindEndpoint`). A longer id
is never found again, so two of its lines take two slots that hold the same truncated id.

`oneSlotPerModule_iff` puts both directions together, for an arbitrary set of module tokens that
the datagrams of a run may carry.
-/

namespace DoorSystem

open CLib

namespace Hub

/-! ### The lookups -/

/-- The taken slots hold different modules. -/
def SlotsDistinct (g : DoorTable) : Prop :=
  ∀ i j, (g i).known = true → (g j).known = true → (g i).moduleId.str = (g j).moduleId.str → i = j

/-- The module ids of the endpoint table, in order. -/
def endpointIds (eps : List HubEndpoint) : List CStr := eps.map (fun ep => ep.moduleId.str)

/-- The endpoints belong to different modules. -/
def EndpointsDistinct (eps : List HubEndpoint) : Prop := (endpointIds eps).Nodup

/-- The index of the entry that `hub_update_endpoint` fills in for a module. -/
def endpointSlot (m : CStr) (eps : List HubEndpoint) : Option ℕ :=
  match hubFindEndpoint m eps with
  | some i => some i
  | none => if HUB_MAX_MODULES ≤ eps.length then none else some eps.length

/-- **What a run should keep**: distinct ids in both tables, and every module that was given a slot
or an endpoint by one of its lines is found there at the end. -/
structure OneSlotPerModule (url : CharBuf 512) (es : List HubEv) : Prop where
  slots : SlotsDistinct (reached url es).gDoors
  endpoints : EndpointsDistinct (reached url es).gEndpoints
  slotKept : ∀ es₁ e es₂, es = es₁ ++ e :: es₂ → ∀ mod type args, e.words = mod :: type :: args →
    ∀ d, (findOrCreateDoor mod (reached url es₁).gDoors).2 = some d →
      findDoor mod (reached url es).gDoors = some d
  endpointKept : ∀ es₁ e es₂, es = es₁ ++ e :: es₂ → ∀ mod type args,
    e.words = mod :: type :: args → type ≠ "COMMAND".toList →
      ∀ i, endpointSlot mod (reached url es₁).gEndpoints = some i →
        hubFindEndpoint mod (reached url es).gEndpoints = some i

/-! ### Door slots -/

/-- The ids after a line are those that `find_or_create_door` leaves. -/
theorem lineDoors_tag (mod type : CStr) (args : List CStr) (src : SockAddr) (t : ℤ)
    (g : DoorTable) (i : Fin HUB_MAX_DOORS) :
    (lineDoors mod type args src t g i).known = ((findOrCreateDoor mod g).1 i).known ∧
      (lineDoors mod type args src t g i).moduleId = ((findOrCreateDoor mod g).1 i).moduleId := by
  rcases lineDoors_slot mod type args src t g i with ⟨-, h_line⟩ | ⟨-, h_line⟩
  · rw [h_line]
    exact lineStatus_tag mod type args src t _
  · rw [h_line]
    exact ⟨rfl, rfl⟩

/-- One event changes the ids of the door table as `find_or_create_door` does for its module, or
not at all. -/
theorem step_tag (h : HubState) (e : HubEv) :
    (∃ mod type args, e.words = mod :: type :: args ∧ ∀ i,
      ((step h e).gDoors i).known = ((findOrCreateDoor mod h.gDoors).1 i).known ∧
        ((step h e).gDoors i).moduleId = ((findOrCreateDoor mod h.gDoors).1 i).moduleId) ∨
    ((∀ mod type args, e.words ≠ mod :: type :: args) ∧ ∀ i,
      ((step h e).gDoors i).known = (h.gDoors i).known ∧
        ((step h e).gDoors i).moduleId = (h.gDoors i).moduleId) := by
  rcases step_gDoors_cases h e with ⟨mod, type, args, t, h_words, h_doors⟩ | ⟨h_words, h_doors⟩
  · refine Or.inl ⟨mod, type, args, h_words, fun i => ?_⟩
    rw [h_doors]
    exact lineDoors_tag _ _ _ _ _ _ _
  · refine Or.inr ⟨h_words, fun i => ?_⟩
    rw [h_doors i]
    exact ⟨rfl, rfl⟩

/-- The ids after a line of the module `mod`. -/
theorem step_tag_of_words (h : HubState) {e : HubEv} {mod type : CStr} {args : List CStr}
    (h_words : e.words = mod :: type :: args) (i : Fin HUB_MAX_DOORS) :
    ((step h e).gDoors i).known = ((findOrCreateDoor mod h.gDoors).1 i).known ∧
      ((step h e).gDoors i).moduleId = ((findOrCreateDoor mod h.gDoors).1 i).moduleId := by
  rcases step_tag h e with ⟨mod', type', args', h_words', h_tag⟩ | ⟨h_no, -⟩
  · rw [h_words] at h_words'
    rw [(List.cons.inj h_words').1]
    exact h_tag i
  · exact absurd h_words (h_no _ _ _)

/-- A taken slot keeps its module whatever happens. -/
theorem Holds.step {h : HubState} {m : CStr} {i : Fin HUB_MAX_DOORS} (h_holds : Holds h.gDoors m i)
    (e : HubEv) : Holds (step h e).gDoors m i := by
  have h_kept : ∀ mod, (Hub.findOrCreateDoor mod h.gDoors).1 i = h.gDoors i :=
    fun mod => h_holds.findOrCreateDoor
  unfold Holds
  rcases step_tag h e with ⟨mod, type, args, -, h_tag⟩ | ⟨-, h_tag⟩
  · rw [(h_tag i).1, (h_tag i).2, h_kept]
    exact h_holds
  · rw [(h_tag i).1, (h_tag i).2]
    exact h_holds

/-- A slot that is free now was free before. -/
theorem free_of_step {h : HubState} {e : HubEv} {i : Fin HUB_MAX_DOORS}
    (h_i : ((step h e).gDoors i).known = false) : (h.gDoors i).known = false := by
  by_contra h_known
  have h_kept := (Holds.step ⟨by simpa using h_known, rfl⟩ e).1
  rw [h_i] at h_kept
  exact absurd h_kept (by simp)

theorem findDoor_congr {g g' : DoorTable} (h : ∀ i, (g' i).known = (g i).known ∧
    (g' i).moduleId = (g i).moduleId) (m : CStr) : findDoor m g' = findDoor m g := by
  unfold findDoor
  congr 1
  funext i
  rw [(h i).1, (h i).2]

theorem SlotsDistinct.congr {g g' : DoorTable} (h : ∀ i, (g' i).known = (g i).known ∧
    (g' i).moduleId = (g i).moduleId) (h_dist : SlotsDistinct g) : SlotsDistinct g' := by
  intro i j h_i h_j h_eq
  rw [(h i).1] at h_i
  rw [(h j).1] at h_j
  rw [(h i).2, (h j).2] at h_eq
  exact h_dist i j h_i h_j h_eq

/-- A new slot holds the module whose id fits. -/
theorem holds_fresh {m : CStr} (h_m : m.length < HUB_MODULE_ID_LEN) (g : DoorTable)
    (i : Fin HUB_MAX_DOORS) : Holds (Function.update g i (HubDoorStatus.fresh m)) m i := by
  unfold Holds
  rw [Function.update_self]
  exact ⟨rfl, snprintf_of_fits h_m⟩

/-- The slot that a module is given holds the first 15 characters of its id. -/
theorem exists_holds_findOrCreateDoor {m : CStr} {g : DoorTable} (h : HasSlot m g) :
    ∃ i, Holds (findOrCreateDoor m g).1 (m.take 15) i := by
  unfold HasSlot at h
  rcases findOrCreateDoor_cases m g with ⟨i, h_find, h_eq⟩ | ⟨i, -, -, h_eq⟩ | ⟨-, -, h_eq⟩
  · -- an id that was found is one that fits
    have h_holds := holds_of_findDoor h_find
    have h_fits := (g i).moduleId.fits
    rw [h_holds.2] at h_fits
    rw [h_eq, List.take_of_length_le (Nat.le_of_lt_succ h_fits)]
    exact ⟨i, h_holds⟩
  · rw [h_eq]
    unfold Holds
    refine ⟨i, ?_⟩
    dsimp only
    rw [Function.update_self]
    exact ⟨rfl, rfl⟩
  · rw [h_eq] at h
    exact absurd rfl h

/-- A line whose module can have a slot leaves it with one. -/
theorem exists_holds_step {h : HubState} {e : HubEv} {mod type : CStr} {args : List CStr}
    (h_words : e.words = mod :: type :: args) (h_slot : HasSlot mod h.gDoors) :
    ∃ i, Holds (step h e).gDoors (mod.take 15) i := by
  obtain ⟨i, h_i⟩ := exists_holds_findOrCreateDoor h_slot
  obtain ⟨h_known, h_id⟩ := step_tag_of_words h h_words i
  refine ⟨i, ?_⟩
  unfold Holds at h_i ⊢
  rw [h_known, h_id]
  exact h_i

/-- The slot a module is given is found at once. -/
theorem findDoor_findOrCreateDoor {m : CStr} (h_m : m.length < HUB_MODULE_ID_LEN) {g : DoorTable}
    {d : Fin HUB_MAX_DOORS} (h : (findOrCreateDoor m g).2 = some d) :
    findDoor m (findOrCreateDoor m g).1 = some d := by
  rcases findOrCreateDoor_cases m g with ⟨i, h_find, h_eq⟩ | ⟨i, h_find, -, h_eq⟩ | ⟨-, -, h_eq⟩
  · rw [h_eq] at h ⊢
    rw [← h]
    exact h_find
  · rw [h_eq] at h ⊢
    obtain rfl : i = d := Option.some.inj h
    dsimp only
    refine findDoor_eq_some_iff.mpr ⟨holds_fresh h_m g i, fun j h_j h_holds => ?_⟩
    -- a lower slot is as before, where no slot held `m`
    unfold Holds at h_holds
    rw [Function.update_of_ne h_j.ne] at h_holds
    exact findDoor_eq_none_iff.mp h_find j h_holds
  · rw [h_eq] at h
    exact absurd h (by simp)

/-- A slot that was found is found after the insertion of any id that fits. -/
theorem findDoor_mono {m m' : CStr} (h_m' : m'.length < HUB_MODULE_ID_LEN) {g : DoorTable}
    {d : Fin HUB_MAX_DOORS} (h : findDoor m g = some d) :
    findDoor m (findOrCreateDoor m' g).1 = some d := by
  obtain ⟨h_d, h_least⟩ := findDoor_eq_some_iff.mp h
  rcases findOrCreateDoor_cases m' g with ⟨i, -, h_eq⟩ | ⟨i, h_find, h_free, h_eq⟩ | ⟨-, -, h_eq⟩
  · rw [h_eq]
    exact h
  · have h_kept : (findOrCreateDoor m' g).1 d = g d := h_d.findOrCreateDoor
    rw [h_eq] at h_kept ⊢
    dsimp only at h_kept ⊢
    refine findDoor_eq_some_iff.mpr ⟨?_, fun j h_j h_holds => ?_⟩
    · unfold Holds
      rw [h_kept]
      exact h_d
    · by_cases h_ji : j = i
      · subst h_ji
        -- the new slot holds `m'`, and `m'` had no slot
        have h_mm : m' = m := (holds_fresh h_m' g j).2.symm.trans h_holds.2
        rw [h_mm, h] at h_find
        exact absurd h_find (by simp)
      · unfold Holds at h_holds
        rw [Function.update_of_ne h_ji] at h_holds
        exact h_least j h_j h_holds
  · rw [h_eq]
    exact h

theorem SlotsDistinct.findOrCreateDoor {m : CStr} (h_m : m.length < HUB_MODULE_ID_LEN)
    {g : DoorTable} (h : SlotsDistinct g) : SlotsDistinct (findOrCreateDoor m g).1 := by
  rcases findOrCreateDoor_cases m g with ⟨i, -, h_eq⟩ | ⟨i, h_find, -, h_eq⟩ | ⟨-, -, h_eq⟩
  · rw [h_eq]
    exact h
  · rw [h_eq]
    dsimp only
    have h_new := holds_fresh h_m g i
    -- no old slot holds the module of the new one
    have h_other : ∀ j, j ≠ i → (g j).known = true →
        (g j).moduleId.str ≠ (Function.update g i (HubDoorStatus.fresh m) i).moduleId.str := by
      intro j _ h_known h_id
      rw [h_new.2] at h_id
      exact findDoor_eq_none_iff.mp h_find j ⟨h_known, h_id⟩
    intro j k h_j h_k h_id
    -- both new, one of the two new, both old
    by_cases h_ji : j = i <;> by_cases h_ki : k = i
    · rw [h_ji, h_ki]
    · subst h_ji
      rw [Function.update_of_ne h_ki] at h_k h_id
      exact absurd h_id.symm (h_other k h_ki h_k)
    · subst h_ki
      rw [Function.update_of_ne h_ji] at h_j h_id
      exact absurd h_id (h_other j h_ji h_j)
    · rw [Function.update_of_ne h_ji] at h_j h_id
      rw [Function.update_of_ne h_ki] at h_k h_id
      exact h j k h_j h_k h_id
  · rw [h_eq]
    exact h

/-! ### Slots are taken in order -/

/-- No free slot stands before a taken one. -/
def SlotsPacked (g : DoorTable) : Prop :=
  ∀ i j, i < j → (g j).known = true → (g i).known = true

theorem SlotsPacked.congr {g g' : DoorTable} (h : ∀ i, (g' i).known = (g i).known ∧
    (g' i).moduleId = (g i).moduleId) (h_pack : SlotsPacked g) : SlotsPacked g' := by
  intro i j h_ij h_j
  rw [(h j).1] at h_j
  rw [(h i).1]
  exact h_pack i j h_ij h_j

theorem SlotsPacked.findOrCreateDoor (m : CStr) {g : DoorTable} (h : SlotsPacked g) :
    SlotsPacked (findOrCreateDoor m g).1 := by
  rcases findOrCreateDoor_cases m g with ⟨i, -, h_eq⟩ | ⟨i, -, h_free, h_eq⟩ | ⟨-, -, h_eq⟩
  · rw [h_eq]
    exact h
  · rw [h_eq]
    dsimp only
    unfold freeDoor at h_free
    have h_below := (Fin.find?_eq_some_iff.mp h_free).2
    intro j k h_jk h_k
    by_cases h_ji : j = i
    · rw [h_ji, Function.update_self]
      rfl
    · rw [Function.update_of_ne h_ji]
      by_cases h_ki : k = i
      · -- every slot below the first free one is taken
        simpa using h_below j (h_ki ▸ h_jk)
      · rw [Function.update_of_ne h_ki] at h_k
        exact h j k h_jk h_k
  · rw [h_eq]
    exact h

theorem SlotsPacked.initial (url : CharBuf 512) : SlotsPacked (HubState.initial url).gDoors :=
  fun _ _ _ h_j => absurd h_j Bool.false_ne_true

theorem SlotsPacked.step {h : HubState} (h_pack : SlotsPacked h.gDoors) (e : HubEv) :
    SlotsPacked (step h e).gDoors := by
  rcases step_tag h e with ⟨mod, type, args, -, h_tag⟩ | ⟨-, h_tag⟩
  · exact (h_pack.findOrCreateDoor mod).congr h_tag
  · exact h_pack.congr h_tag

theorem slotsPacked_reached (url : CharBuf 512) (es : List HubEv) :
    SlotsPacked (reached url es).gDoors :=
  run_invariant (fun h : HubState => SlotsPacked h.gDoors) (fun _ e h_pack => h_pack.step e)
    (SlotsPacked.initial url) es

/-- In a packed table the slot that is found for a module never changes, whatever ids come in. -/
theorem SlotsPacked.findDoor_step {h : HubState} (h_pack : SlotsPacked h.gDoors) {m : CStr}
    {d : Fin HUB_MAX_DOORS} (h_find : findDoor m h.gDoors = some d) (e : HubEv) :
    findDoor m (Hub.step h e).gDoors = some d := by
  obtain ⟨h_d, h_least⟩ := findDoor_eq_some_iff.mp h_find
  refine findDoor_eq_some_iff.mpr ⟨h_d.step e, fun j h_j h_holds => h_least j h_j ?_⟩
  -- the lower slots are taken, so they keep their modules
  have h_old : Holds h.gDoors (h.gDoors j).moduleId.str j := ⟨h_pack j d h_j h_d.1, rfl⟩
  exact ⟨h_old.1, (h_old.step e).2.symm.trans h_holds.2⟩

/-! ### Short ids -/

/-- An id of at most 14 characters is no cut one, so no two taken slots hold it. -/
def ShortIdsDistinct (g : DoorTable) : Prop :=
  ∀ i j, (g i).known = true → (g j).known = true → (g i).moduleId.str = (g j).moduleId.str →
    (g i).moduleId.str.length < 15 → i = j

theorem ShortIdsDistinct.congr {g g' : DoorTable} (h : ∀ i, (g' i).known = (g i).known ∧
    (g' i).moduleId = (g i).moduleId) (h_ids : ShortIdsDistinct g) : ShortIdsDistinct g' := by
  intro i j h_i h_j h_id h_len
  rw [(h i).1] at h_i
  rw [(h j).1] at h_j
  rw [(h i).2, (h j).2] at h_id
  rw [(h i).2] at h_len
  exact h_ids i j h_i h_j h_id h_len

theorem ShortIdsDistinct.findOrCreateDoor (m : CStr) {g : DoorTable} (h : ShortIdsDistinct g) :
    ShortIdsDistinct (findOrCreateDoor m g).1 := by
  rcases findOrCreateDoor_cases m g with ⟨i, -, h_eq⟩ | ⟨i, h_find, -, h_eq⟩ | ⟨-, -, h_eq⟩
  · rw [h_eq]
    exact h
  · rw [h_eq]
    dsimp only
    -- an old slot with the short id of the new one would have been found
    have h_other : ∀ j, j ≠ i → (g j).known = true →
        (HubDoorStatus.fresh m).moduleId.str = (g j).moduleId.str →
        ¬ (HubDoorStatus.fresh m).moduleId.str.length < 15 := by
      intro j _ h_known h_id h_len
      have h_cut : (HubDoorStatus.fresh m).moduleId.str = m.take 15 := snprintf_str m
      rw [h_cut] at h_id h_len
      rw [List.length_take] at h_len
      rw [List.take_of_length_le (by omega)] at h_id
      exact findDoor_eq_none_iff.mp h_find j ⟨h_known, h_id.symm⟩
    intro j k h_j h_k h_id h_len
    by_cases h_ji : j = i <;> by_cases h_ki : k = i
    · rw [h_ji, h_ki]
    · subst h_ji
      rw [Function.update_of_ne h_ki] at h_k h_id
      rw [Function.update_self] at h_id h_len
      exact absurd h_len (h_other k h_ki h_k h_id)
    · subst h_ki
      rw [h_id] at h_len
      rw [Function.update_of_ne h_ji] at h_j h_id
      rw [Function.update_self] at h_id h_len
      exact absurd h_len (h_other j h_ji h_j h_id.symm)
    · rw [Function.update_of_ne h_ji] at h_j h_id h_len
      rw [Function.update_of_ne h_ki] at h_k h_id
      exact h j k h_j h_k h_id h_len
  · rw [h_eq]
    exact h

theorem ShortIdsDistinct.step {h : HubState} (h_ids : ShortIdsDistinct h.gDoors) (e : HubEv) :
    ShortIdsDistinct (Hub.step h e).gDoors := by
  rcases step_tag h e with ⟨mod, type, args, -, h_tag⟩ | ⟨-, h_tag⟩
  · exact (h_ids.findOrCreateDoor mod).congr h_tag
  · exact h_ids.congr h_tag

theorem shortIdsDistinct_reached (url : CharBuf 512) (es : List HubEv) :
    ShortIdsDistinct (reached url es).gDoors := by
  refine run_invariant (fun h : HubState => ShortIdsDistinct h.gDoors)
    (fun _ e h_ids => h_ids.step e) ?_ es
  exact fun _ _ h_i => absurd h_i Bool.false_ne_true

/-- The module `m` is found in the slot `d`, now and from now on. -/
def SlotFound (m : CStr) (d : Fin HUB_MAX_DOORS) (h : HubState) : Prop :=
  SlotsPacked h.gDoors ∧ findDoor m h.gDoors = some d

theorem SlotFound.step {m : CStr} {d : Fin HUB_MAX_DOORS} {h : HubState} (h_slot : SlotFound m d h)
    (e : HubEv) : SlotFound m d (Hub.step h e) :=
  ⟨h_slot.1.step e, h_slot.1.findDoor_step h_slot.2 e⟩

/-! ### Ids are words -/

/-- The words of an event are words of a datagram. -/
theorem isText_of_mem_words {e : HubEv} {w : CStr} (h : w ∈ e.words) : IsText w := by
  cases e with
  | datagram data src t tReg => exact isText_of_mem h
  | check now => exact absurd h List.not_mem_nil
  | alloc => exact absurd h List.not_mem_nil

/-- The ids of the taken slots are words that a datagram can carry. -/
def IdsAreText (g : DoorTable) : Prop := ∀ i, (g i).known = true → IsText (g i).moduleId.str

theorem IdsAreText.step {h : HubState} (h_ids : IdsAreText h.gDoors) (e : HubEv) :
    IdsAreText (step h e).gDoors := by
  intro i h_known
  rcases step_tag h e with ⟨mod, type, args, h_words, h_tag⟩ | ⟨-, h_tag⟩
  · rw [(h_tag i).1] at h_known
    rw [(h_tag i).2]
    rcases findOrCreateDoor_slot mod h.gDoors i with h_same | ⟨-, h_new⟩
    · rw [h_same] at h_known ⊢
      exact h_ids i h_known
    · -- a new slot holds a prefix of a word of the line
      rw [h_new]
      have h_mod : IsText mod := isText_of_mem_words (by rw [h_words]; exact List.mem_cons_self)
      exact h_mod.take (by norm_num)
  · rw [(h_tag i).1] at h_known
    rw [(h_tag i).2]
    exact h_ids i h_known

theorem idsAreText_reached (url : CharBuf 512) (es : List HubEv) :
    IdsAreText (reached url es).gDoors := by
  refine run_invariant (fun h : HubState => IdsAreText h.gDoors) (fun _ e h_ids => h_ids.step e)
    ?_ es
  intro i h_i
  exact absurd h_i Bool.false_ne_true

/-- The id of a taken slot is a word of at most 15 characters. -/
theorem isText_of_holds {m : CStr} {url : CharBuf 512} {es : List HubEv} {i : Fin HUB_MAX_DOORS}
    (h_i : Holds (reached url es).gDoors m i) : IsText m ∧ m.length < HUB_MODULE_ID_LEN := by
  -- the id was once a word of a line
  have h_text := idsAreText_reached url es i h_i.1
  have h_fits := ((reached url es).gDoors i).moduleId.fits
  rw [h_i.2] at h_text h_fits
  exact ⟨h_text, h_fits⟩

/-- The command counter stays in the range of an `int`. -/
theorem inInt_gNextCmdid (url : CharBuf 512) (es : List HubEv) :
    InInt (reached url es).gNextCmdid := by
  refine run_invariant (fun h : HubState => InInt h.gNextCmdid) (fun h e h_int => ?_) ?_ es
  · rw [step_gNextCmdid]
    cases e with
    | datagram data src t tReg => exact h_int
    | check now => exact h_int
    | alloc => exact inInt_toInt32 _
  · show InInt 1
    decide

/-! ### Endpoints -/

theorem endpointIds_hubUpdateEndpoint (m : CStr) (src : SockAddr) (eps : List HubEndpoint) :
    endpointIds (hubUpdateEndpoint m src eps) = endpointIds eps ∨
    (hubFindEndpoint m eps = none ∧ eps.length < HUB_MAX_MODULES ∧
      endpointIds (hubUpdateEndpoint m src eps) = endpointIds eps ++ [m.take 15]) := by
  unfold hubUpdateEndpoint
  split
  · next i _ =>
    -- an entry that exists keeps its id
    refine Or.inl ?_
    unfold endpointIds
    refine List.ext_getElem? ?_
    intro j
    rw [List.getElem?_map, List.getElem?_map, List.getElem?_modify]
    rw [Option.map_eq_map, Option.map_map]
    congr 1
    funext ep
    show (if i = j then _ else ep : HubEndpoint).moduleId.str = ep.moduleId.str
    split_ifs <;> rfl
  · next h_find =>
    split_ifs with h_full
    · exact Or.inl rfl
    · refine Or.inr ⟨h_find, not_le.mp h_full, ?_⟩
      unfold endpointIds
      rw [List.map_append]
      rfl

theorem hubFindEndpoint_eq (m : CStr) (eps : List HubEndpoint) :
    hubFindEndpoint m eps = (endpointIds eps).findIdx? (· == m) := by
  unfold hubFindEndpoint endpointIds
  rw [List.findIdx?_map]
  rfl

theorem not_mem_endpointIds {m : CStr} {eps : List HubEndpoint}
    (h : hubFindEndpoint m eps = none) : m ∉ endpointIds eps := by
  rw [hubFindEndpoint_eq, List.findIdx?_eq_none_iff] at h
  intro h_mem
  exact absurd (h m h_mem) (by simp)

/-- An entry that was found is found after every later update. -/
theorem hubFindEndpoint_mono (m' : CStr) (src : SockAddr) {m : CStr} {eps : List HubEndpoint}
    {i : ℕ} (h : hubFindEndpoint m eps = some i) :
    hubFindEndpoint m (hubUpdateEndpoint m' src eps) = some i := by
  rw [hubFindEndpoint_eq] at h ⊢
  rcases endpointIds_hubUpdateEndpoint m' src eps with h_ids | ⟨-, -, h_ids⟩
  · rw [h_ids]
    exact h
  · rw [h_ids, List.findIdx?_append, h]
    rfl

/-- The entry a module is given is found at once. -/
theorem hubFindEndpoint_hubUpdateEndpoint {m : CStr} (h_m : m.length < HUB_MODULE_ID_LEN)
    (src : SockAddr) {eps : List HubEndpoint} {i : ℕ} (h : endpointSlot m eps = some i) :
    hubFindEndpoint m (hubUpdateEndpoint m src eps) = some i := by
  unfold endpointSlot at h
  cases h_find : hubFindEndpoint m eps with
  | some j =>
    rw [h_find] at h
    obtain rfl : j = i := Option.some.inj h
    exact hubFindEndpoint_mono m src h_find
  | none =>
    rw [h_find] at h
    dsimp only at h
    split_ifs at h with h_full
    -- the new entry is the last one, and none before it has the id
    obtain rfl : eps.length = i := Option.some.inj h
    have h_new : hubUpdateEndpoint m src eps
        = eps ++ [{ moduleId := snprintf _ m, addr := src, hasAddr := true }] := by
      unfold hubUpdateEndpoint
      rw [h_find]
      exact if_neg h_full
    rw [hubFindEndpoint_eq] at h_find
    rw [hubFindEndpoint_eq, h_new]
    unfold endpointIds at h_find ⊢
    rw [List.map_append, List.findIdx?_append, h_find, List.map_singleton, snprintf_of_fits h_m]
    simp

theorem EndpointsDistinct.hubUpdateEndpoint {m : CStr} (h_m : m.length < HUB_MODULE_ID_LEN)
    (src : SockAddr) {eps : List HubEndpoint} (h : EndpointsDistinct eps) :
    EndpointsDistinct (hubUpdateEndpoint m src eps) := by
  unfold EndpointsDistinct at h ⊢
  rcases endpointIds_hubUpdateEndpoint m src eps with h_ids | ⟨h_find, -, h_ids⟩
  · rw [h_ids]
    exact h
  · have h_short : m.take 15 = m := List.take_of_length_le (Nat.le_of_lt_succ h_m)
    rw [h_ids, h_short]
    exact List.nodup_append.mpr ⟨h, List.nodup_singleton m, fun a h_a b h_b => by
      rw [List.mem_singleton.mp h_b]
      rintro rfl
      exact not_mem_endpointIds h_find h_a⟩

/-! ### Runs over ids that fit -/

/-- The module id of the line an event carries fits into the buffer. -/
def IdFits (e : HubEv) : Prop :=
  ∀ mod type args, e.words = mod :: type :: args → mod.length < HUB_MODULE_ID_LEN

/-- The invariant. -/
structure IdsDistinct (h : HubState) : Prop where
  slots : SlotsDistinct h.gDoors
  endpoints : EndpointsDistinct h.gEndpoints

theorem IdsDistinct.initial (url : CharBuf 512) : IdsDistinct (HubState.initial url) where
  slots := by
    intro i j h_i
    exact absurd h_i Bool.false_ne_true
  endpoints := List.nodup_nil

theorem step_findDoor {e : HubEv} (h_e : IdFits e) {h : HubState} {m : CStr}
    {d : Fin HUB_MAX_DOORS} (h_find : findDoor m h.gDoors = some d) :
    findDoor m (step h e).gDoors = some d := by
  rcases step_tag h e with ⟨mod, type, args, h_words, h_tag⟩ | ⟨-, h_tag⟩
  · rw [findDoor_congr h_tag]
    exact findDoor_mono (h_e mod type args h_words) h_find
  · rw [findDoor_congr h_tag]
    exact h_find

theorem step_hubFindEndpoint (e : HubEv) {h : HubState} {m : CStr} {i : ℕ}
    (h_find : hubFindEndpoint m h.gEndpoints = some i) :
    hubFindEndpoint m (step h e).gEndpoints = some i := by
  rw [step_gEndpoints]
  split
  · split_ifs
    · exact h_find
    · exact hubFindEndpoint_mono _ _ h_find
  · exact h_find

theorem run_findDoor {es : List HubEv} (h_es : ∀ e ∈ es, IdFits e) {h : HubState} {m : CStr}
    {d : Fin HUB_MAX_DOORS} (h_find : findDoor m h.gDoors = some d) :
    findDoor m (run step h es).gDoors = some d := by
  refine run_invariant_of_forall (fun h : HubState => findDoor m h.gDoors = some d) ?_ ?_ h_es
  · intro h e h_e h_find
    exact step_findDoor h_e h_find
  · exact h_find

theorem run_hubFindEndpoint (es : List HubEv) {h : HubState} {m : CStr} {i : ℕ}
    (h_find : hubFindEndpoint m h.gEndpoints = some i) :
    hubFindEndpoint m (run step h es).gEndpoints = some i := by
  refine run_invariant (fun h : HubState => hubFindEndpoint m h.gEndpoints = some i) ?_ ?_ es
  · intro h e h_find
    exact step_hubFindEndpoint e h_find
  · exact h_find

/-- **Step.** -/
theorem IdsDistinct.step {e : HubEv} (h_e : IdFits e) {h : HubState} (inv : IdsDistinct h) :
    IdsDistinct (step h e) where
  slots := by
    rcases step_tag h e with ⟨mod, type, args, h_words, h_tag⟩ | ⟨-, h_tag⟩
    · exact (inv.slots.findOrCreateDoor (h_e mod type args h_words)).congr h_tag
    · exact inv.slots.congr h_tag
  endpoints := by
    rw [step_gEndpoints]
    split
    · next mod type args h_words =>
      split_ifs
      · exact inv.endpoints
      · exact inv.endpoints.hubUpdateEndpoint (h_e mod type args h_words) _
    · exact inv.endpoints

theorem reached_split (url : CharBuf 512) (es₁ es₂ : List HubEv) (e : HubEv) :
    reached url (es₁ ++ e :: es₂) = run Hub.step (Hub.step (reached url es₁) e) es₂ := by
  unfold reached
  rw [run_append, run_cons]

/-- **Run.** Over ids that fit, every module keeps its slot and its endpoint. -/
theorem oneSlotPerModule_of_fits (url : CharBuf 512) {es : List HubEv}
    (h_es : ∀ e ∈ es, IdFits e) : OneSlotPerModule url es := by
  have h_inv : IdsDistinct (reached url es) :=
    run_invariant_of_forall IdsDistinct (fun _ _ h_e inv => inv.step h_e)
      (IdsDistinct.initial url) h_es
  refine ⟨h_inv.slots, h_inv.endpoints, ?_, ?_⟩
  · -- the slot is found right after the line, and from then on
    intro es₁ e es₂ h_split mod type args h_words d h_given
    subst h_split
    have h_e : IdFits e := h_es e (by simp)
    have h_after : findDoor mod (Hub.step (reached url es₁) e).gDoors = some d := by
      rw [findDoor_congr (step_tag_of_words (reached url es₁) h_words)]
      exact findDoor_findOrCreateDoor (h_e mod type args h_words) h_given
    have h_rest : ∀ e' ∈ es₂, IdFits e' := fun e' h_e' => h_es e' (by simp [h_e'])
    rw [reached_split]
    exact run_findDoor h_rest h_after
  · -- and so is the endpoint
    intro es₁ e es₂ h_split mod type args h_words h_type i h_given
    subst h_split
    have h_e : IdFits e := h_es e (by simp)
    have h_after : hubFindEndpoint mod (Hub.step (reached url es₁) e).gEndpoints = some i := by
      rw [step_gEndpoints, h_words]
      dsimp only
      rw [if_neg h_type]
      exact hubFindEndpoint_hubUpdateEndpoint (h_e mod type args h_words) _ h_given
    rw [reached_split]
    exact run_hubFindEndpoint es₂ h_after

/-! ### Longer ids -/

/-- A module token that a datagram can carry. -/
def Carried (m : CStr) : Prop :=
  ∃ data type args, lineTokens (datagramLine data) = m :: type :: args

/-- A datagram from the zero address. -/
def bareDatagram (data : List Char) : HubEv := .datagram data SockAddr.zero 0 0

/-- A truncated id is not the id. -/
theorem findDoor_long {m : CStr} (h_m : HUB_MODULE_ID_LEN ≤ m.length) (g : DoorTable) :
    findDoor m g = none := by
  rw [findDoor_eq_none_iff]
  rintro i ⟨-, h_id⟩
  have h_fits := (g i).moduleId.fits
  rw [h_id] at h_fits
  omega

/-- **Two slots for one module.** Two lines of a module whose id is too long leave the same
truncated id in the slots 0 and 1. -/
theorem not_oneSlotPerModule_of_long (url : CharBuf 512) {m type : CStr} {args : List CStr}
    {data : List Char} (h_words : lineTokens (datagramLine data) = m :: type :: args)
    (h_m : HUB_MODULE_ID_LEN ≤ m.length) :
    ¬ OneSlotPerModule url [bareDatagram data, bareDatagram data] := by
  intro h_one
  have h_tag : ∀ h i, ((step h (bareDatagram data)).gDoors i).known
        = ((findOrCreateDoor m h.gDoors).1 i).known ∧
      ((step h (bareDatagram data)).gDoors i).moduleId
        = ((findOrCreateDoor m h.gDoors).1 i).moduleId := by
    intro h i
    have h_line : (bareDatagram data).words = m :: type :: args := h_words
    exact step_tag_of_words h h_line i
  -- a long id is never found, so each line takes the next free slot
  have h_create : ∀ (g : DoorTable) (i : Fin HUB_MAX_DOORS), freeDoor g = some i →
      (findOrCreateDoor m g).1 = Function.update g i (HubDoorStatus.fresh m) := by
    intro g i h_free
    unfold findOrCreateDoor
    rw [findDoor_long h_m, h_free]
  -- the first line takes the slot 0
  let h₁ := step (HubState.initial url) (bareDatagram data)
  have h_first : ∀ i, (h₁.gDoors i).known
        = (Function.update (fun _ => HubDoorStatus.zero) 0 (HubDoorStatus.fresh m) i).known ∧
      (h₁.gDoors i).moduleId
        = (Function.update (fun _ => HubDoorStatus.zero) 0 (HubDoorStatus.fresh m) i).moduleId := by
    intro i
    have h_i := h_tag (HubState.initial url) i
    rw [h_create _ 0 rfl] at h_i
    exact h_i
  -- the second one takes the slot 1
  have h_free : freeDoor h₁.gDoors = some 1 := by
    refine Fin.find?_eq_some_iff.mpr ⟨?_, fun j h_j => ?_⟩
    · rw [(h_first 1).1]
      rfl
    · obtain rfl : j = 0 := Fin.lt_one_iff j |>.mp h_j
      rw [(h_first 0).1]
      rfl
  have h_second : ∀ i, i = 0 ∨ i = 1 → ((step h₁ (bareDatagram data)).gDoors i).known = true ∧
      ((step h₁ (bareDatagram data)).gDoors i).moduleId = snprintf _ m := by
    intro i h_i
    rw [(h_tag h₁ i).1, (h_tag h₁ i).2, h_create _ 1 h_free]
    rcases h_i with rfl | rfl
    · rw [Function.update_of_ne (by decide), (h_first 0).1, (h_first 0).2]
      exact ⟨rfl, rfl⟩
    · rw [Function.update_self]
      exact ⟨rfl, rfl⟩
  have h_ids : ((step h₁ (bareDatagram data)).gDoors 0).moduleId.str
      = ((step h₁ (bareDatagram data)).gDoors 1).moduleId.str := by
    rw [(h_second 0 (Or.inl rfl)).2, (h_second 1 (Or.inr rfl)).2]
  have h_eq : (0 : Fin HUB_MAX_DOORS) = 1 :=
    h_one.slots 0 1 (h_second 0 (Or.inl rfl)).1 (h_second 1 (Or.inr rfl)).1 h_ids
  exact absurd h_eq (by decide)

/-- Every line of the run has a module token in `M`. -/
def RunOver (M : Set {m : CStr // Carried m}) (es : List HubEv) : Prop :=
  ∀ e ∈ es, ∀ mod type args, e.words = mod :: type :: args → ∃ m ∈ M, m.val = mod

/-- **When one module has one slot.** For any set of module tokens that datagrams can carry, every
run over these tokens keeps one slot and one endpoint per module if and only if all of them are
at most 15 bytes long. -/
theorem oneSlotPerModule_iff (M : Set {m : CStr // Carried m}) :
    (∀ url es, RunOver M es → OneSlotPerModule url es) ↔
      ∀ m ∈ M, m.val.length < HUB_MODULE_ID_LEN := by
  constructor
  · -- a token that is too long breaks the run of two of its lines
    intro h_runs m h_m
    by_contra h_long
    obtain ⟨data, type, args, h_words⟩ := m.property
    refine not_oneSlotPerModule_of_long (CharBuf.zero _) h_words (not_lt.mp h_long)
      (h_runs _ _ ?_)
    intro e h_e mod type' args' h_words'
    obtain rfl : e = bareDatagram data := by simpa using h_e
    rw [show (bareDatagram data).words = m.val :: type :: args from h_words] at h_words'
    exact ⟨m, h_m, (List.cons.inj h_words').1⟩
  · intro h_fit url es h_over
    refine oneSlotPerModule_of_fits url (fun e h_e mod type args h_words => ?_)
    obtain ⟨m, h_m, rfl⟩ := h_over e h_e mod type args h_words
    exact h_fit m h_m

/-- Two lines of a module with a 16-character id. -/
theorem not_oneSlotPerModule_sixteen :
    ¬ OneSlotPerModule (CharBuf.zero _)
      [bareDatagram "FRONTDOOR-LOBBY1 EVENT\n".toList,
        bareDatagram "FRONTDOOR-LOBBY1 EVENT\n".toList] :=
  not_oneSlotPerModule_of_long _ (m := "FRONTDOOR-LOBBY1".toList)
    (show _ = _ :: "EVENT".toList :: [] by decide +kernel) (by decide +kernel)

end Hub

end DoorSystem
