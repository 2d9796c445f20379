import DoorSystem.Hub.Fields
import DoorSystem.Hub.Forwarding

/-!
# Modules do not disturb one another

`handle_line` writes through the slot that a linear search finds, and through the endpoint that
another search finds. A line of the module `m` reaches the entries of `m` in both tables, or fills a
free entry with the id `m`; as long as the id is stored whole, no search for another id ends there.

`leavesOthers` is the frame property of a line, for every other id and in every state of the hub:
whether the tables are full or not, and whether the other module is known or not.
-/

namespace DoorSystem

open CLib

namespace Hub

/-! ### The entry of a module -/

/-- The entry that `hub_find_endpoint` finds. -/
def hubEndpoint (m : CStr) (eps : List HubEndpoint) : Option HubEndpoint :=
  (hubFindEndpoint m eps).bind (fun i => eps[i]?)

theorem endpointAddr_eq_map (m : CStr) (eps : List HubEndpoint) :
    endpointAddr m eps = (hubEndpoint m eps).map HubEndpoint.addr := rfl

theorem hubEndpoint_eq_find? (m : CStr) (eps : List HubEndpoint) :
    hubEndpoint m eps = eps.find? (fun ep => ep.moduleId.str == m) :=
  List.find?_eq_bind_findIdx?_getElem?.symm

/-- An id is in the table when its entry is found. -/
theorem hubEndpoint_eq_none_iff {m : CStr} {eps : List HubEndpoint} :
    hubEndpoint m eps = none ↔ m ∉ endpointIds eps := by
  rw [hubEndpoint_eq_find?, List.find?_eq_none]
  unfold endpointIds
  rw [List.mem_map]
  constructor
  · rintro h_none ⟨ep, h_ep, h_id⟩
    exact h_none ep h_ep (beq_iff_eq.mpr h_id)
  · intro h_not ep h_ep h_id
    exact h_not ⟨ep, h_ep, beq_iff_eq.mp h_id⟩

/-- The search for an id ends at the same index as long as the ids before it stay as they are. -/
theorem hubFindEndpoint_congr {eps eps' : List HubEndpoint}
    (h : endpointIds eps' = endpointIds eps) (m : CStr) :
    hubFindEndpoint m eps' = hubFindEndpoint m eps := by
  rw [hubFindEndpoint_eq, hubFindEndpoint_eq, h]

/-- **Endpoints.** The line of one module leaves the entry of every other one alone. -/
theorem hubEndpoint_hubUpdateEndpoint_of_ne {m m' : CStr} (h_m : m.length < HUB_MODULE_ID_LEN)
    (h_ne : m' ≠ m) (src : SockAddr) (eps : List HubEndpoint) :
    hubEndpoint m' (hubUpdateEndpoint m src eps) = hubEndpoint m' eps := by
  rcases endpointIds_hubUpdateEndpoint m src eps with h_ids | ⟨h_find, h_room, -⟩
  · -- the ids stay, so the search for `m'` ends at the same index, which is not the one of `m`
    unfold hubEndpoint
    rw [hubFindEndpoint_congr h_ids]
    cases h_other : hubFindEndpoint m' eps with
    | none => rfl
    | some i =>
      show (hubUpdateEndpoint m src eps)[i]? = eps[i]?
      unfold hubUpdateEndpoint
      split
      · next j h_j =>
        refine List.getElem?_modify_ne _ _ ?_
        rintro rfl
        -- one entry cannot hold both ids
        unfold hubFindEndpoint at h_j h_other
        obtain ⟨h_lt, h_id, -⟩ := List.findIdx?_eq_some_iff_getElem.mp h_j
        obtain ⟨h_lt', h_id', -⟩ := List.findIdx?_eq_some_iff_getElem.mp h_other
        rw [beq_iff_eq] at h_id h_id'
        exact h_ne (h_id'.symm.trans h_id)
      · next h_none =>
        have h_lt : i < eps.length := by
          unfold hubFindEndpoint at h_other
          exact (List.findIdx?_eq_some_iff_getElem.mp h_other).1
        split_ifs
        · rfl
        · exact List.getElem?_append_left h_lt
  · -- a new entry at the end, with the id `m`
    rw [hubUpdateEndpoint_of_new h_find h_room, hubEndpoint_eq_find?, hubEndpoint_eq_find?,
      List.find?_append]
    have h_skip : List.find? (fun ep : HubEndpoint => ep.moduleId.str == m')
        [{ moduleId := snprintf _ m, addr := src, hasAddr := true }] = none := by
      refine List.find?_eq_none.mpr (fun ep h_ep => ?_)
      rw [List.mem_singleton.mp h_ep, snprintf_of_fits h_m]
      exact fun h_eq => h_ne (beq_iff_eq.mp h_eq).symm
    rw [h_skip, Option.or_none]

/-! ### The slot of a module -/

/-- A line of `m` creates no slot for another id. -/
theorem findDoor_findOrCreateDoor_of_ne {m m' : CStr} (h_m : m.length < HUB_MODULE_ID_LEN)
    (h_ne : m' ≠ m) (g : DoorTable) :
    findDoor m' (findOrCreateDoor m g).1 = findDoor m' g := by
  cases h_find : findDoor m' g with
  | some d => exact findDoor_mono h_m h_find
  | none =>
    rw [findDoor_eq_none_iff] at h_find ⊢
    rintro i h_holds
    rcases findOrCreateDoor_cases m g with ⟨j, -, h_eq⟩ | ⟨j, -, -, h_eq⟩ | ⟨-, -, h_eq⟩
    · rw [h_eq] at h_holds
      exact h_find i h_holds
    · -- the slot that is filled holds `m`, the others are as before
      rw [h_eq] at h_holds
      by_cases h_ij : i = j
      · subst h_ij
        exact h_ne (h_holds.2.symm.trans (holds_fresh h_m g i).2)
      · unfold Holds at h_holds
        dsimp only at h_holds
        rw [Function.update_of_ne h_ij] at h_holds
        exact h_find i h_holds
    · rw [h_eq] at h_holds
      exact h_find i h_holds

/-- **Slots.** A line of `m` changes no slot that is found for another id. -/
theorem lineDoors_status_of_ne {m m' : CStr} (h_m : m.length < HUB_MODULE_ID_LEN) (h_ne : m' ≠ m)
    (type : CStr) (args : List CStr) (src : SockAddr) (t : ℤ) (g : DoorTable) :
    (findDoor m' (lineDoors m type args src t g)).map (lineDoors m type args src t g)
      = (findDoor m' g).map g := by
  have h_find : findDoor m' (lineDoors m type args src t g) = findDoor m' g :=
    calc findDoor m' (lineDoors m type args src t g)
        = findDoor m' (findOrCreateDoor m g).1 :=
          findDoor_congr (lineDoors_tag m type args src t g) m'
      _ = findDoor m' g := findDoor_findOrCreateDoor_of_ne h_m h_ne g
  rw [h_find]
  cases h_d : findDoor m' g with
  | none => rfl
  | some d =>
    -- the slot of `m'` is a taken one, and only its own lines write it
    rcases lineDoors_of_holds (holds_of_findDoor h_d) m type args src t with h_same | ⟨h_eq, -⟩
    · exact congrArg some h_same
    · exact absurd h_eq.symm h_ne

/-! ### The status of a module after a line -/

/-- The line of one module leaves the status of every other one alone. -/
theorem hubUdpGetStatus_step_of_ne {e : HubEv} {mod type : CStr} {args : List CStr}
    (h_words : e.words = mod :: type :: args) (h_mod : mod.length < HUB_MODULE_ID_LEN) {m : CStr}
    (h_ne : m ≠ mod) (h : HubState) : hubUdpGetStatus m (step h e) = hubUdpGetStatus m h := by
  rcases step_gDoors_cases h e with ⟨mod', type', args', t, h_words', h_doors⟩ | ⟨h_no, -⟩
  · rw [h_words] at h_words'
    obtain rfl : mod = mod' := (List.cons.inj h_words').1
    unfold hubUdpGetStatus
    rw [h_doors]
    exact lineDoors_status_of_ne h_mod h_ne type' args' e.source t h.gDoors
  · exact absurd h_words (h_no mod type args)

/-- A line finds its module's status, or starts from a fresh slot. -/
theorem hubUdpGetStatus_step_self {e : HubEv} {mod type : CStr} {args : List CStr}
    (h_words : e.words = mod :: type :: args) (h_mod : mod.length < HUB_MODULE_ID_LEN)
    {h : HubState} (h_slot : HasSlot mod h.gDoors) :
    ∃ t, hubUdpGetStatus mod (step h e) = some (lineStatus mod type args e.source t
      ((hubUdpGetStatus mod h).getD (HubDoorStatus.fresh mod))) := by
  rcases step_gDoors_cases h e with ⟨mod', type', args', t, h_words', h_doors⟩ | ⟨h_no, -⟩
  · rw [h_words, List.cons.injEq, List.cons.injEq] at h_words'
    obtain ⟨rfl, rfl, rfl⟩ := h_words'
    obtain ⟨d, h_d⟩ := Option.ne_none_iff_exists'.mp h_slot
    have h_find : findDoor mod (lineDoors mod type args e.source t h.gDoors) = some d := by
      rw [findDoor_congr (lineDoors_tag mod type args e.source t h.gDoors)]
      exact findDoor_findOrCreateDoor h_mod h_d
    refine ⟨t, ?_⟩
    unfold hubUdpGetStatus
    rw [h_doors, h_find, Option.map_some]
    unfold lineDoors
    -- the slot is the one that was found, or the one that was filled
    rcases findOrCreateDoor_cases mod h.gDoors with ⟨i, h_old, h_eq⟩ | ⟨i, h_none, -, h_eq⟩ |
      ⟨-, -, h_eq⟩
    · rw [h_eq] at h_d ⊢
      obtain rfl : i = d := Option.some.inj h_d
      rw [h_old]
      exact congrArg some (Function.update_self _ _ _)
    · rw [h_eq] at h_d ⊢
      obtain rfl : i = d := Option.some.inj h_d
      rw [h_none]
      dsimp only
      rw [Function.update_self, Function.update_self]
      rfl
    · rw [h_eq] at h_d
      exact absurd h_d (by simp)
  · exact absurd h_words (h_no mod type args)

/-! ### A line -/

/-- A datagram with a line of the module `mod`, whose id fits into its buffers. -/
structure ModuleLine where
  data : List Char
  src : SockAddr
  t : ℤ
  tReg : ℤ
  mod : CStr
  rest : List CStr
  words : lineTokens (datagramLine data) = mod :: rest
  fits : mod.length < HUB_MODULE_ID_LEN

/-- The line is handled. -/
def ModuleLine.event (l : ModuleLine) : HubEv := .datagram l.data l.src l.t l.tReg

/-- **Frame.** The line changes neither the status of another module nor its endpoint. -/
def LeavesOthers (l : ModuleLine) (h : HubState) : Prop :=
  ∀ m, m ≠ l.mod →
    hubUdpGetStatus m (step h l.event) = hubUdpGetStatus m h ∧
      hubEndpoint m (step h l.event).gEndpoints = hubEndpoint m h.gEndpoints

/-- **No module disturbs another one**, in whatever state its line finds the hub. -/
theorem leavesOthers (l : ModuleLine) (h : HubState) : LeavesOthers l h := by
  intro m h_ne
  have h_event : l.event.words = l.mod :: l.rest := l.words
  cases h_rest : l.rest with
  | nil =>
    -- a line without a type is ignored
    have h_short : step h l.event = h := by
      apply step_datagram_short
      intro mod type args h_words
      rw [l.words, h_rest] at h_words
      simp at h_words
    rw [h_short]
    exact ⟨rfl, rfl⟩
  | cons type args =>
    rw [h_rest] at h_event
    refine ⟨hubUdpGetStatus_step_of_ne h_event l.fits h_ne h, ?_⟩
    rw [step_gEndpoints, h_event]
    dsimp only
    split_ifs
    · rfl
    · exact hubEndpoint_hubUpdateEndpoint_of_ne l.fits h_ne _ _

/-- `D1` says hello. -/
def helloD1 : ModuleLine where
  data := "D1 HELLO\n".toList
  src := SockAddr.zero
  t := 0
  tReg := 0
  mod := "D1".toList
  rest := ["HELLO".toList]
  words := by decide
  fits := by decide

/-- A hub that has heard of `D2`. -/
def knowsD2 : HubState := reached (CharBuf.zero 512) [bareDatagram "D2 HELLO\n".toList]

theorem leavesOthers_helloD1 :
    hubUdpGetStatus "D2".toList (step knowsD2 helloD1.event)
      = hubUdpGetStatus "D2".toList knowsD2 :=
  (leavesOthers helloD1 knowsD2 "D2".toList (by decide)).1

end Hub

end DoorSystem
