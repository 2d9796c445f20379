import DoorSystem.Hub.Fields
import DoorSystem.Hub.SlotIdentity

/-!
# Who becomes known

A module is known to `hub_udp_get_status` while a slot holds its id. `handle_line` takes the slot
before it looks at the line type, so the lines of a client create slots just as the lines of a door
module do. `SlotsEarned` asks of a run that every slot it takes is taken by the module itself;
`onlyModulesKnown_iff` shows that this is what it takes for the known ids to be those of modules
that were heard.

The id of a slot is cut to 15 characters. A longer token earns a slot only for a module that was
heard under the cut id.
-/

namespace DoorSystem

open CLib

namespace Hub

/-! ### Known modules -/

/-- `hub_udp_get_status` succeeds for the module `m`. -/
def Known (m : CStr) (h : HubState) : Prop := hubUdpGetStatus m h ≠ none

theorem known_iff {m : CStr} {h : HubState} : Known m h ↔ ∃ i, Holds h.gDoors m i := by
  unfold Known hubUdpGetStatus
  rw [Ne, Option.map_eq_none_iff, findDoor_eq_none_iff]
  push Not
  rfl

/-- The hub knows ids that are words of at most 15 characters, and no others. -/
theorem isText_of_known {m : CStr} {url : CharBuf 512} {es : List HubEv}
    (h_known : Known m (reached url es)) : IsText m ∧ m.length ≤ 15 := by
  obtain ⟨i, h_i⟩ := known_iff.mp h_known
  obtain ⟨h_text, h_fits⟩ := isText_of_holds h_i
  exact ⟨h_text, Nat.le_of_lt_succ h_fits⟩

/-- A line of the module `m` itself. -/
def Speaks (m : CStr) (e : HubEv) : Prop :=
  ∃ type args, e.words = m :: type :: args ∧ type ≠ "COMMAND".toList

/-- A line that a client sends to a module. -/
def IsCommandLine (e : HubEv) : Prop := ∃ m args, e.words = m :: "COMMAND".toList :: args

/-- The slots are taken as before, by the same modules. -/
def KeepsSlots (h : HubState) (e : HubEv) : Prop :=
  ∀ i, ((step h e).gDoors i).known = (h.gDoors i).known ∧
    ((step h e).gDoors i).moduleId = (h.gDoors i).moduleId

/-- **Only modules are known** at any time of a run, and commands change nothing about it. -/
structure OnlyModulesKnown (url : CharBuf 512) (es : List HubEv) : Prop where
  heard : ∀ es₁ es₂, es = es₁ ++ es₂ → ∀ m, Known m (reached url es₁) → ∃ e ∈ es₁, Speaks m e
  slots : ∀ es₁ e es₂, es = es₁ ++ e :: es₂ → IsCommandLine e → KeepsSlots (reached url es₁) e
  known : ∀ es₁ e es₂, es = es₁ ++ e :: es₂ → IsCommandLine e →
    ∀ m, Known m (step (reached url es₁) e) ↔ Known m (reached url es₁)

/-! ### Slots that are taken -/

/-- A line of `m` takes a free slot. -/
def TakesSlot (m : CStr) (g : DoorTable) : Prop := findDoor m g = none ∧ freeDoor g ≠ none

instance (m : CStr) (g : DoorTable) : Decidable (TakesSlot m g) :=
  inferInstanceAs (Decidable (_ ∧ _))

/-- Every slot of the run is taken by a line of a module, under an id that was heard. -/
def SlotsEarned (url : CharBuf 512) (es : List HubEv) : Prop :=
  ∀ es₁ e es₂, es = es₁ ++ e :: es₂ → ∀ m type args, e.words = m :: type :: args →
    TakesSlot m (reached url es₁).gDoors → type ≠ "COMMAND".toList ∧
      (m.length < HUB_MODULE_ID_LEN ∨ ∃ e' ∈ es₁, Speaks (m.take 15) e')

/-- While a slot is free, every module can have one. -/
theorem hasSlot_of_freeDoor {m : CStr} {g : DoorTable} (h_free : freeDoor g ≠ none) :
    HasSlot m g := by
  unfold HasSlot
  rcases findOrCreateDoor_cases m g with ⟨i, -, h_eq⟩ | ⟨i, -, -, h_eq⟩ | ⟨-, h_none, -⟩
  · rw [h_eq]
    simp
  · rw [h_eq]
    simp
  · exact absurd h_none h_free

/-- A line that takes no slot leaves the table of ids alone. -/
theorem findOrCreateDoor_of_not_takesSlot {m : CStr} {g : DoorTable} (h : ¬ TakesSlot m g) :
    (findOrCreateDoor m g).1 = g := by
  rcases findOrCreateDoor_cases m g with ⟨i, -, h_eq⟩ | ⟨i, h_find, h_free, -⟩ | ⟨-, -, h_eq⟩
  · rw [h_eq]
  · exact absurd ⟨h_find, by rw [h_free]; simp⟩ h
  · rw [h_eq]

/-- A line that takes a slot writes the cut id into a slot that was free. -/
theorem TakesSlot.exists_fresh {m : CStr} {g : DoorTable} (h : TakesSlot m g) :
    ∃ i, (g i).known = false ∧
      (findOrCreateDoor m g).1 = Function.update g i (HubDoorStatus.fresh m) := by
  rcases findOrCreateDoor_cases m g with ⟨i, h_find, -⟩ | ⟨i, -, h_free, h_eq⟩ | ⟨-, h_full, -⟩
  · rw [h.1] at h_find
    exact absurd h_find (by simp)
  · exact ⟨i, freeDoor_eq_some h_free, by rw [h_eq]⟩
  · exact absurd h_full h.2

theorem keepsSlots_of_not_takesSlot {h : HubState} {e : HubEv} {m type : CStr} {args : List CStr}
    (h_words : e.words = m :: type :: args) (h_takes : ¬ TakesSlot m h.gDoors) :
    KeepsSlots h e := by
  intro i
  have h_tag := step_tag_of_words h h_words i
  rw [findOrCreateDoor_of_not_takesSlot h_takes] at h_tag
  exact h_tag

theorem KeepsSlots.known_iff {h : HubState} {e : HubEv} (h_keeps : KeepsSlots h e) (m : CStr) :
    Known m (step h e) ↔ Known m h := by
  rw [Hub.known_iff, Hub.known_iff]
  unfold Holds
  simp only [(h_keeps _).1, (h_keeps _).2]

/-! ### Runs -/

/-- **Step.** A slot that is taken after an event was taken before, or holds the id of the event's
line. -/
theorem holds_step_cases {h : HubState} {e : HubEv} {m : CStr} {i : Fin HUB_MAX_DOORS}
    (h_holds : Holds (step h e).gDoors m i) :
    Holds h.gDoors m i ∨ ∃ m' type args, e.words = m' :: type :: args ∧
      TakesSlot m' h.gDoors ∧ m'.take 15 = m := by
  unfold Holds at h_holds ⊢
  rcases step_tag h e with ⟨m', type, args, h_words, h_tag⟩ | ⟨-, h_tag⟩
  · rw [(h_tag i).1, (h_tag i).2] at h_holds
    -- only a line that takes a slot writes an id
    by_cases h_takes : TakesSlot m' h.gDoors
    · obtain ⟨j, -, h_eq⟩ := h_takes.exists_fresh
      rw [h_eq] at h_holds
      by_cases h_ij : i = j
      · subst h_ij
        rw [Function.update_self] at h_holds
        exact Or.inr ⟨m', type, args, h_words, h_takes, h_holds.2⟩
      · rw [Function.update_of_ne h_ij] at h_holds
        exact Or.inl h_holds
    · rw [findOrCreateDoor_of_not_takesSlot h_takes] at h_holds
      exact Or.inl h_holds
  · rw [(h_tag i).1, (h_tag i).2] at h_holds
    exact Or.inl h_holds

/-- **Run.** Where slots are earned, every slot holds the id of a module that was heard. -/
theorem SlotsEarned.heard {url : CharBuf 512} {es : List HubEv} (h_earned : SlotsEarned url es)
    (es₁ es₂ : List HubEv) (h_split : es = es₁ ++ es₂) {m : CStr} {i : Fin HUB_MAX_DOORS}
    (h_holds : Holds (reached url es₁).gDoors m i) : ∃ e ∈ es₁, Speaks m e := by
  -- on the last event: it found the slot taken, or took it
  induction es₁ using List.reverseRecOn generalizing es₂ with
  | nil => exact absurd h_holds.1 Bool.false_ne_true
  | append_singleton es₁ e ih =>
    rw [List.append_assoc, List.singleton_append] at h_split
    rw [reached_split] at h_holds
    rcases holds_step_cases h_holds with h_old | ⟨m', type, args, h_words, h_takes, h_take⟩
    · obtain ⟨e', h_mem, h_speaks⟩ := ih (e :: es₂) h_split h_old
      exact ⟨e', List.mem_append_left _ h_mem, h_speaks⟩
    · obtain ⟨h_type, h_fits | ⟨e', h_mem, h_speaks⟩⟩ :=
        h_earned es₁ e es₂ h_split m' type args h_words h_takes
      -- the id was not cut, or the cut id was heard before
      · rw [List.take_of_length_le (Nat.le_of_lt_succ h_fits)] at h_take
        subst h_take
        exact ⟨e, by simp, type, args, h_words, h_type⟩
      · rw [h_take] at h_speaks
        exact ⟨e', List.mem_append_left _ h_mem, h_speaks⟩

/-- A slot that is taken makes its cut id known. -/
theorem TakesSlot.known {h : HubState} {e : HubEv} {m type : CStr} {args : List CStr}
    (h_words : e.words = m :: type :: args) (h_takes : TakesSlot m h.gDoors) :
    Known (m.take 15) (step h e) := by
  obtain ⟨i, -, h_eq⟩ := h_takes.exists_fresh
  have h_tag := step_tag_of_words h h_words i
  rw [h_eq, Function.update_self] at h_tag
  refine known_iff.mpr ⟨i, h_tag.1, ?_⟩
  rw [h_tag.2]
  rfl

/-- **When only modules are known.** In every run, the known ids are those of modules that were
heard, and commands take no slot, if and only if every slot is taken by a line of a module, whose
token fits into the slot or whose cut token was heard before. -/
theorem onlyModulesKnown_iff (url : CharBuf 512) (es : List HubEv) :
    OnlyModulesKnown url es ↔ SlotsEarned url es := by
  constructor
  · intro h_only es₁ e es₂ h_split m type args h_words h_takes
    refine ⟨?_, ?_⟩
    · -- a command that takes a slot changes its `known` flag
      rintro rfl
      obtain ⟨i, h_free, h_eq⟩ := h_takes.exists_fresh
      have h_keeps := h_only.slots es₁ e es₂ h_split ⟨m, args, h_words⟩ i
      have h_tag := step_tag_of_words (reached url es₁) h_words i
      rw [h_eq, Function.update_self] at h_tag
      have h_known : (HubDoorStatus.fresh m).known = false := by
        calc (HubDoorStatus.fresh m).known
            = ((step (reached url es₁) e).gDoors i).known := h_tag.1.symm
          _ = ((reached url es₁).gDoors i).known := h_keeps.1
          _ = false := h_free
      exact absurd h_known (by simp [HubDoorStatus.fresh])
    · by_contra h_none
      push Not at h_none
      obtain ⟨h_long, h_before⟩ := h_none
      change 16 ≤ m.length at h_long
      -- the cut id is known now, and no line before this one carries it
      have h_known : Known (m.take 15) (reached url (es₁ ++ [e])) := by
        rw [reached_split]
        exact h_takes.known h_words
      have h_app : es = (es₁ ++ [e]) ++ es₂ := by simpa using h_split
      obtain ⟨e', h_mem, h_speaks⟩ := h_only.heard (es₁ ++ [e]) es₂ h_app _ h_known
      rcases List.mem_append.mp h_mem with h_old | h_new
      · exact h_before e' h_old h_speaks
      · obtain ⟨type', args', h_words', -⟩ := h_speaks
        rw [List.mem_singleton.mp h_new, h_words] at h_words'
        have h_cut : m = m.take 15 := (List.cons.inj h_words').1
        have h_len := congrArg List.length h_cut
        rw [List.length_take] at h_len
        omega
  · intro h_earned
    have h_keeps : ∀ es₁ e es₂, es = es₁ ++ e :: es₂ → IsCommandLine e →
        KeepsSlots (reached url es₁) e := by
      rintro es₁ e es₂ h_split ⟨m, args, h_words⟩
      refine keepsSlots_of_not_takesSlot h_words (fun h_takes => ?_)
      exact (h_earned es₁ e es₂ h_split m _ args h_words h_takes).1 rfl
    refine ⟨?_, h_keeps, ?_⟩
    · intro es₁ es₂ h_split m h_known
      obtain ⟨i, h_i⟩ := known_iff.mp h_known
      exact h_earned.heard es₁ es₂ h_split h_i
    · intro es₁ e es₂ h_split h_command m
      exact (h_keeps es₁ e es₂ h_split h_command).known_iff m

/-- A client's command for a module that was never heard makes that module known. -/
theorem not_onlyModulesKnown :
    ¬ OnlyModulesKnown (CharBuf.zero _) [bareDatagram "D9 COMMAND 1 D0 LOCK\n".toList] := by
  intro h_only
  have h_known : Known "D9".toList
      (reached (CharBuf.zero _) [bareDatagram "D9 COMMAND 1 D0 LOCK\n".toList]) := by
    unfold Known
    decide +kernel
  obtain ⟨e, h_mem, type, args, h_words, h_type⟩ := h_only.heard _ [] rfl _ h_known
  have h_line : e.words = ["D9".toList, "COMMAND".toList, "1".toList, "D0".toList,
      "LOCK".toList] := by
    rw [List.mem_singleton.mp h_mem]
    decide +kernel
  rw [h_line, List.cons.injEq, List.cons.injEq] at h_words
  exact h_type h_words.2.1.symm

end Hub

end DoorSystem
