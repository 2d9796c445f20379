import DoorSystem.System.Network

/-!
# A hub that knows its doors

What the forwarding of commands rests on: each door has a slot in the door table, and its endpoint
is its address (`HubReady`). A hub that has heard a line from each of the three doors, and from
nobody else, is ready (`hubReady_start`), and it stays so while every line but a COMMAND comes from
the door that it names.
-/

namespace DoorSystem

open CLib

namespace System

open Door Hub Node

/-! ### What is kept -/

/-- Every line but a COMMAND comes from the door that it names. -/
def Honest (A : Addresses) (e : HubEv) : Prop :=
  ∀ mod type args, e.words = mod :: type :: args → type ≠ "COMMAND".toList →
    ∃ d : DoorId, mod = d.name ∧ e.source = A.door d

/-- The hub can take commands for every door and forward them. -/
structure HubReady (A : Addresses) (h : HubState) : Prop where
  slots : ∀ d : DoorId, ∃ i, Holds h.gDoors d.name i
  endpoints : ∀ d : DoorId, endpointAddr d.name h.gEndpoints = some (A.door d)
  path : PathOpen h

theorem endpointSlot_of_endpointAddr {m : CStr} {eps : List HubEndpoint} {addr : SockAddr}
    (h : endpointAddr m eps = some addr) : endpointSlot m eps ≠ none := by
  obtain ⟨ep, h_ep, -⟩ := Option.map_eq_some_iff.mp h
  obtain ⟨i, h_i, -⟩ := Option.bind_eq_some_iff.mp h_ep
  unfold endpointSlot
  rw [h_i]
  simp

/-- What one line does to the endpoints of the doors. -/
theorem endpointAddr_step {A : Addresses} {h : HubState} {e : HubEv} (h_e : Honest A e) {d : DoorId}
    (h_addr : endpointAddr d.name h.gEndpoints = some (A.door d)) :
    endpointAddr d.name (Hub.step h e).gEndpoints = some (A.door d) := by
  rw [step_gEndpoints]
  split
  · next mod type args h_words =>
    split_ifs with h_type
    · exact h_addr
    · obtain ⟨d', rfl, h_src⟩ := h_e mod type args h_words h_type
      rw [h_src]
      -- its own line gives its own address, and those of other doors leave it
      by_cases h_d : d' = d
      · subst h_d
        exact endpointAddr_hubUpdateEndpoint_self _ d'.isText_name.2
          (endpointSlot_of_endpointAddr h_addr)
      · exact endpointAddr_hubUpdateEndpoint_of_ne _ (fun h_eq => h_d (DoorId.name_injective h_eq))
          h_addr
  · exact h_addr

/-- **Step.** -/
theorem HubReady.step {A : Addresses} {h : HubState} (ready : HubReady A h) {e : HubEv}
    (h_e : Honest A e) : HubReady A (Hub.step h e) where
  slots d := by
    obtain ⟨i, h_i⟩ := ready.slots d
    exact ⟨i, h_i.step e⟩
  endpoints d := endpointAddr_step h_e (ready.endpoints d)
  path := ready.path.step e

/-! ### The first lines -/

/-- The tables of the hub hold nothing but the three doors. -/
structure OnlyDoors (h : HubState) : Prop where
  distinct : IdsDistinct h
  slots : ∀ i, (h.gDoors i).known = true → ∃ d : DoorId, (h.gDoors i).moduleId.str = d.name
  endpoints : ∀ m ∈ endpointIds h.gEndpoints, ∃ d : DoorId, m = d.name

/-- There are more slots than doors. -/
theorem OnlyDoors.hasSlot {h : HubState} (only : OnlyDoors h) (d : DoorId) :
    HasSlot d.name h.gDoors := by
  unfold HasSlot
  rcases findOrCreateDoor_cases d.name h.gDoors with ⟨i, -, h_eq⟩ | ⟨i, -, -, h_eq⟩ |
    ⟨-, h_full, -⟩
  · rw [h_eq]
    simp
  · rw [h_eq]
    simp
  · -- eight taken slots would hold eight doors
    exfalso
    have h_known := freeDoor_eq_none h_full
    choose f h_f using fun i => only.slots i (h_known i)
    have h_inj : Function.Injective f := by
      intro i j h_ij
      refine only.distinct.slots i j (h_known i) (h_known j) ?_
      rw [h_f i, h_f j, h_ij]
    have h_card := Fintype.card_le_of_injective f h_inj
    rw [Fintype.card_fin] at h_card
    exact absurd h_card (by decide)

/-- There are more endpoints than doors. -/
theorem OnlyDoors.endpointSlot {h : HubState} (only : OnlyDoors h) (d : DoorId) :
    endpointSlot d.name h.gEndpoints ≠ none := by
  have h_sub : endpointIds h.gEndpoints ⊆ [DoorId.D1.name, DoorId.D2.name, DoorId.D3.name] := by
    intro m h_m
    obtain ⟨d', rfl⟩ := only.endpoints m h_m
    cases d' <;> decide
  -- the ids are distinct, so there are three at most
  have h_len := (only.distinct.endpoints.subperm h_sub).length_le
  unfold endpointIds at h_len
  rw [List.length_map] at h_len
  unfold Hub.endpointSlot
  split
  · simp
  · have h_room : ¬ HUB_MAX_MODULES ≤ h.gEndpoints.length := by
      have h_three : [DoorId.D1.name, DoorId.D2.name, DoorId.D3.name].length = 3 := rfl
      unfold HUB_MAX_MODULES
      omega
    rw [if_neg h_room]
    simp

/-- An event of the time before the web commands: a quiet line of a door, or an offline check. -/
inductive FromDoor (A : Addresses) : HubEv → Prop
  | check (now : ℤ) : FromDoor A (.check now)
  | line (d : DoorId) (line : CStr) (t tReg : ℤ) :
    QuietLine d.name line → FromDoor A (.datagram line (A.door d) t tReg)

theorem FromDoor.honest {A : Addresses} {e : HubEv} (h : FromDoor A e) : Honest A e := by
  intro mod type args h_words _
  cases h with
  | check now => exact absurd h_words (by simp [HubEv.words])
  | line d line t tReg h_quiet =>
    obtain ⟨type', args', h_line, -, -⟩ := h_quiet
    exact ⟨d, (List.cons.inj (h_words.symm.trans h_line)).1, rfl⟩

theorem FromDoor.idFits {A : Addresses} {e : HubEv} (h : FromDoor A e) : IdFits e := by
  intro mod type args h_words
  cases h with
  | check now => exact absurd h_words (by simp [HubEv.words])
  | line d line t tReg h_quiet =>
    obtain ⟨type', args', h_line, -, -⟩ := h_quiet
    rw [(List.cons.inj (h_words.symm.trans h_line)).1]
    exact d.isText_name.2

theorem OnlyDoors.step {A : Addresses} {h : HubState} (only : OnlyDoors h) {e : HubEv}
    (h_e : FromDoor A e) : OnlyDoors (Hub.step h e) where
  distinct := only.distinct.step h_e.idFits
  slots i h_i := by
    rcases step_tag h e with ⟨mod, type, args, h_words, h_tag⟩ | ⟨-, h_tag⟩
    · rw [(h_tag i).1] at h_i
      rw [(h_tag i).2]
      rcases findOrCreateDoor_slot mod h.gDoors i with h_same | ⟨-, h_new⟩
      · rw [h_same] at h_i ⊢
        exact only.slots i h_i
      · -- the new slot holds the door whose line it is
        rw [h_new]
        cases h_e with
        | check now => exact absurd h_words (by simp [HubEv.words])
        | line d line t tReg h_quiet =>
          obtain ⟨type', args', h_line, -, -⟩ := h_quiet
          refine ⟨d, ?_⟩
          rw [(List.cons.inj (h_words.symm.trans h_line)).1]
          exact snprintf_of_fits d.isText_name.2
    · rw [(h_tag i).1] at h_i
      rw [(h_tag i).2]
      exact only.slots i h_i
  endpoints m h_m := by
    rw [step_gEndpoints] at h_m
    split at h_m
    · next mod type args h_words =>
      split_ifs at h_m with h_type
      · exact only.endpoints m h_m
      · obtain ⟨d, rfl, -⟩ := h_e.honest mod type args h_words h_type
        -- the endpoint is there, or it is added for the door
        rcases endpointIds_hubUpdateEndpoint d.name e.source h.gEndpoints with h_ids | ⟨-, -, h_ids⟩
        · rw [h_ids] at h_m
          exact only.endpoints m h_m
        · rw [h_ids, List.mem_append, List.mem_singleton] at h_m
          rcases h_m with h_m | rfl
          · exact only.endpoints m h_m
          · refine ⟨d, ?_⟩
            exact List.take_of_length_le (Nat.le_of_lt_succ d.isText_name.2)
    · exact only.endpoints m h_m

/-- The door `d` is known to the hub. -/
def Knows (A : Addresses) (h : HubState) (d : DoorId) : Prop :=
  (∃ i, Holds h.gDoors d.name i) ∧ endpointAddr d.name h.gEndpoints = some (A.door d)

theorem OnlyDoors.knows_step {A : Addresses} {h : HubState} (only : OnlyDoors h) {d : DoorId}
    {line : CStr} (h_quiet : QuietLine d.name line) (t tReg : ℤ) :
    Knows A (Hub.step h (.datagram line (A.door d) t tReg)) d := by
  obtain ⟨type, args, h_line, h_command, -⟩ := h_quiet
  have h_words : (HubEv.datagram line (A.door d) t tReg).words = d.name :: type :: args := h_line
  constructor
  · -- the door slot
    obtain ⟨i, h_i⟩ := exists_holds_step h_words (only.hasSlot d)
    rw [List.take_of_length_le (Nat.le_of_lt_succ d.isText_name.2)] at h_i
    exact ⟨i, h_i⟩
  · -- the endpoint
    rw [step_gEndpoints, h_words]
    dsimp only
    rw [if_neg h_command]
    exact endpointAddr_hubUpdateEndpoint_self _ d.isText_name.2 (only.endpointSlot d)

theorem Knows.step {A : Addresses} {h : HubState} {d : DoorId} (h_knows : Knows A h d) {e : HubEv}
    (h_e : Honest A e) : Knows A (Hub.step h e) d := by
  obtain ⟨⟨i, h_i⟩, h_addr⟩ := h_knows
  exact ⟨⟨i, h_i.step e⟩, endpointAddr_step h_e h_addr⟩

/-- The hub knows the doors it has heard. -/
theorem onlyDoors_reached {A : Addresses} (url : CharBuf 512) {es : List HubEv}
    (h_es : ∀ e ∈ es, FromDoor A e) :
    OnlyDoors (reached url es) ∧ ∀ d line t tReg, QuietLine (DoorId.name d) line →
      .datagram line (A.door d) t tReg ∈ es → Knows A (reached url es) d := by
  -- on the events, the last one first; what is known stays known
  induction es using List.reverseRecOn with
  | nil =>
    refine ⟨⟨IdsDistinct.initial url, ?_, ?_⟩, ?_⟩
    · exact fun i h_i => absurd h_i Bool.false_ne_true
    · exact fun m h_m => absurd h_m List.not_mem_nil
    · exact fun d line t tReg _ h_mem => absurd h_mem List.not_mem_nil
  | append_singleton es e ih =>
    obtain ⟨only, knows⟩ := ih (fun e' h_mem => h_es e' (List.mem_append_left _ h_mem))
    have h_e : FromDoor A e := h_es e (by simp)
    rw [reached_concat]
    refine ⟨only.step h_e, fun d line t tReg h_quiet h_mem => ?_⟩
    rcases List.mem_append.mp h_mem with h_old | h_new
    · exact (knows d line t tReg h_quiet h_old).step h_e.honest
    · -- its line was the last event
      rw [← List.mem_singleton.mp h_new]
      exact only.knows_step h_quiet t tReg

/-- **A hub that has heard a quiet line from each door is ready.** -/
theorem hubReady_start {A : Addresses} (url : CharBuf 512) {es : List HubEv}
    (h_es : ∀ e ∈ es, FromDoor A e)
    (h_all : ∀ d, ∃ line t tReg, QuietLine (DoorId.name d) line ∧
      .datagram line (A.door d) t tReg ∈ es) : HubReady A (reached url es) := by
  have h_knows : ∀ d, Knows A (reached url es) d := by
    intro d
    obtain ⟨line, t, tReg, h_quiet, h_mem⟩ := h_all d
    exact (onlyDoors_reached url h_es).2 d line t tReg h_quiet h_mem
  exact ⟨fun d => (h_knows d).1, fun d => (h_knows d).2, pathOpen_reached url es⟩

end System

end DoorSystem
