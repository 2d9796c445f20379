import DoorSystem.Web.Tabs

/-!
# Clicks on a door that is known to be closed

The button of a door is disabled by `updateUIForModule` when the door is open or its state is
unknown, and `toggleDoor` itself refuses an open door only. The flag fits the cache from the first
update of the row on, but the page is loaded with the button enabled and nothing in the cache.
-/

namespace DoorSystem

open CLib CLib.Js

namespace Web

variable (U : UpperCase)

/-! ### What a click may do -/

/-- The requests of a click fit the entry of the module. -/
structure Cautious (state : DoorState) (rs : List Request) : Prop where
  lock : ∀ r ∈ rs, r.action = "LOCK".toList → state = ⟨some false, some false⟩
  unlock : ∀ r ∈ rs, r.action = "UNLOCK".toList → state = ⟨some false, some true⟩
  nothing : state.doorOpen ≠ some false ∨ state.lockLocked = none → rs = []

/-- Every click of the run does what fits the cache. -/
def ActsOnKnown (es : List PageEv) : Prop :=
  ∀ pre m post, es = pre ++ .click m :: post →
    Cautious ((Page.visited U pre).doorStates m) ((Page.visited U pre).exec U (.click m)).2

/-- The event updates the row of the module. -/
def Updates (m : ModuleId) : PageEv → Prop
  | .receive (.commandFeedback module _ _ _ _) => module = m.text
  | .receive (.doorFeedback module _ action) =>
    module = m.text ∧ "STATUS_".toList <+: U.toUpperCase action
  | .receive (.hubEvent module _ event _) =>
    module = m.text ∧ partsUpdate (listWords (U.toUpperCase event)) = true
  | _ => False

/-- The handlers of the page are set up. -/
def SetUp (es : List PageEv) : Prop :=
  Since (fun _ e => e = .domContentLoaded) (· ≠ .load) es

theorem setUp_concat (es : List PageEv) (e : PageEv) :
    SetUp (es ++ [e]) ↔ e = .domContentLoaded ∨ (SetUp es ∧ e ≠ .load) :=
  since_concat (fun _ e => e = PageEv.domContentLoaded) (fun e => e ≠ PageEv.load) es e

/-- An event has updated the row of the module on this page. -/
def Shown (m : ModuleId) (es : List PageEv) : Prop :=
  Since (fun pre e => SetUp pre ∧ Updates U m e) (· ≠ .load) es

theorem shown_concat (m : ModuleId) (es : List PageEv) (e : PageEv) :
    Shown U m (es ++ [e]) ↔ (SetUp es ∧ Updates U m e) ∨ (Shown U m es ∧ e ≠ .load) :=
  since_concat (fun pre e => SetUp pre ∧ Updates U m e) (· ≠ .load) es e

/-! ### The flag of the button -/

/-- `updateUIForModule` disables the button for this entry. -/
def DoorState.disables (state : DoorState) : Bool :=
  !(state.doorOpen = some false && state.lockLocked.isSome)

theorem Page.rowOf_disabled (state : DoorState) (message : CStr) :
    (Page.rowOf state message).disabled = state.disables := by
  obtain ⟨door, lock⟩ := state
  rcases door with _ | _ | _ <;> rcases lock with _ | _ | _ <;> rfl

/-- Words that say nothing change nothing. -/
theorem applyParts_of_not_update {parts : List CStr} (h_parts : ¬ partsUpdate parts = true)
    (state : DoorState) : applyParts parts state = state := by
  unfold partsUpdate at h_parts
  simp only [Bool.or_eq_true, List.contains_iff_mem, not_or] at h_parts
  obtain ⟨⟨⟨h_open, h_closed⟩, h_locked⟩, h_unlocked⟩ := h_parts
  obtain ⟨door, lock⟩ := state
  rw [applyParts_mk, if_neg h_open, if_neg h_closed, if_neg h_locked, if_neg h_unlocked]

namespace Page

/-- What an event does to the entry and the button of the module: it updates the row, or it leaves
both. -/
inductive Touch (p p' : Page) (m : ModuleId) : Prop → Prop
  | updated {P : Prop} (h_P : P) (h_flag : (p'.rows m).disabled = (p'.doorStates m).disables) :
      Touch p p' m P
  | left {P : Prop} (h_P : ¬ P) (h_states : p'.doorStates m = p.doorStates m)
      (h_flag : (p'.rows m).disabled = (p.rows m).disabled) : Touch p p' m P

variable {p : Page} {m : ModuleId}

theorem setMessage_disabled (m' : ModuleId) (text : CStr) (p : Page) (m : ModuleId) :
    ((p.setMessage m' text).rows m).disabled = (p.rows m).disabled := by
  unfold setMessage
  dsimp only
  by_cases h_m : m = m'
  · subst h_m
    rw [Function.update_self]
  · rw [Function.update_of_ne h_m]

/-- The entry is written and the row updated. -/
theorem touch_update (p : Page) (m' : ModuleId) (f : DoorState → DoorState) (m : ModuleId) :
    Touch p ((p.applyTo m' f).updateUIForModule m') m (m' = m) := by
  by_cases h_m : m' = m
  · subst h_m
    refine .updated rfl ?_
    unfold updateUIForModule applyTo
    dsimp only
    rw [Function.update_self, rowOf_disabled, Function.update_self]
  · refine .left h_m ?_ ?_
    · unfold updateUIForModule applyTo
      dsimp only
      rw [Function.update_of_ne (Ne.symm h_m)]
    · unfold updateUIForModule applyTo
      dsimp only
      rw [Function.update_of_ne (Ne.symm h_m)]

/-- The entry is written as it is. -/
theorem applyTo_eq_self {f : DoorState → DoorState} (h_f : f (p.doorStates m) = p.doorStates m) :
    p.applyTo m f = p := by
  unfold applyTo
  rw [h_f, Function.update_eq_self]

theorem Touch.congr {p' : Page} {P Q : Prop} (h : Touch p p' m P) (h_iff : P ↔ Q) :
    Touch p p' m Q := by
  rwa [← propext h_iff]

/-- An event whose handler writes to no entry and no button. -/
theorem Touch.of_eq {p' : Page} {P : Prop} (h_P : ¬ P)
    (h_same : p'.doorStates = p.doorStates ∧ (p'.rows m).disabled = (p.rows m).disabled) :
    Touch p p' m P :=
  .left h_P (congrFun h_same.1 m) h_same.2

theorem touch_commandFeedback (p : Page) (module action : CStr) (m : ModuleId) :
    Touch p (p.onCommandFeedback U module action).1 m (module = m.text) := by
  unfold onCommandFeedback
  rcases h_lookup : ModuleId.lookup module with _ | m'
  · refine .of_eq (fun h_m => ?_) ⟨rfl, rfl⟩
    rw [← ModuleId.lookup_eq_some, h_lookup] at h_m
    exact absurd h_m (by simp)
  · refine (touch_update p m' _ m).congr ?_
    rw [← ModuleId.lookup_eq_some, h_lookup, Option.some.injEq]

theorem touch_doorFeedback (p : Page) (module action : CStr) (m : ModuleId) :
    Touch p (p.onDoorFeedback U module action).1 m
      (module = m.text ∧ "STATUS_".toList <+: U.toUpperCase action) := by
  unfold onDoorFeedback
  rcases h_lookup : ModuleId.lookup module with _ | m'
  · refine .of_eq (fun h_m => ?_) ⟨rfl, rfl⟩
    rw [← ModuleId.lookup_eq_some, h_lookup] at h_m
    exact absurd h_m.1 (by simp)
  · dsimp only
    by_cases h_status : "STATUS_".toList <+: U.toUpperCase action
    · rw [if_pos h_status]
      refine (touch_update p m' _ m).congr ?_
      rw [← ModuleId.lookup_eq_some, h_lookup, Option.some.injEq, and_iff_left h_status]
    · -- LOCK and UNLOCK only ask for the status
      have h_self : p.applyTo m' (applyDoorFeedback U action) = p :=
        applyTo_eq_self (if_neg h_status)
      rw [if_neg h_status, h_self]
      refine .of_eq (fun h_m => h_status h_m.2) ?_
      split
      · exact ⟨rfl, rfl⟩
      · split
        · exact ⟨rfl, rfl⟩
        · exact ⟨rfl, rfl⟩

theorem touch_hubEvent (p : Page) (module event : CStr) (m : ModuleId) :
    Touch p (p.onHubEvent U module event).1 m
      (module = m.text ∧ partsUpdate (listWords (U.toUpperCase event)) = true) := by
  unfold onHubEvent
  rcases h_lookup : ModuleId.lookup module with _ | m'
  · refine .of_eq (fun h_m => ?_) ⟨rfl, rfl⟩
    rw [← ModuleId.lookup_eq_some, h_lookup] at h_m
    exact absurd h_m.1 (by simp)
  · dsimp only
    by_cases h_parts : partsUpdate (listWords (U.toUpperCase event)) = true
    · rw [if_pos h_parts]
      refine (touch_update p m' _ m).congr ?_
      rw [← ModuleId.lookup_eq_some, h_lookup, Option.some.injEq, and_iff_left h_parts]
    · rw [if_neg h_parts, applyTo_eq_self (applyParts_of_not_update h_parts _)]
      exact .of_eq (fun h_m => h_parts h_m.2) ⟨rfl, rfl⟩

theorem touch_receive (p : Page) (e : Node.Emit) (m : ModuleId) :
    Touch p (p.receive U e).1 m (Updates U m (.receive e)) := by
  cases e with
  | commandFeedback module cmdid target action raw =>
    exact p.touch_commandFeedback U module action m
  | doorFeedback module target action => exact p.touch_doorFeedback U module action m
  | hubEvent module target event raw => exact p.touch_hubEvent U module event m
  | commandError module cmdid error =>
    refine .of_eq id ⟨(p.onCommandError_fst module error).1, ?_⟩
    unfold receive onCommandError
    dsimp only
    split
    · rfl
    · exact setMessage_disabled _ _ p m
  | hubHeartbeat module raw => exact .of_eq id ⟨rfl, rfl⟩
  | hubHello module raw => exact .of_eq id ⟨rfl, rfl⟩
  | hubRaw raw => exact .of_eq id ⟨rfl, rfl⟩

/-- At most messages, timers and the connection differ. -/
structure Frame (p p' : Page) : Prop where
  states : p'.doorStates = p.doorStates
  flags : ∀ m, (p'.rows m).disabled = (p.rows m).disabled
  ready : p'.ready = p.ready

theorem Frame.refl (p : Page) : Frame p p := ⟨rfl, fun _ => rfl, rfl⟩

theorem frame_setMessage (p : Page) (m : ModuleId) (text : CStr) : Frame p (p.setMessage m text) :=
  ⟨rfl, setMessage_disabled m text p, rfl⟩

theorem frame_onTimer (p : Page) (t : PageTimer) : Frame p (p.onTimer t).1 := by
  cases t with
  | clearMessage m => exact frame_setMessage p m []
  | poll m targetLocked pollCount =>
    unfold onTimer
    dsimp only
    split
    · exact Frame.refl p
    · exact ⟨rfl, fun _ => rfl, rfl⟩

theorem frame_toggleDoor (p : Page) (m : ModuleId) : Frame p (p.toggleDoor m).1 := by
  have h_message (text : CStr) (t : PageTimer) : Frame p ((p.setMessage m text).setTimeout t) :=
    ⟨rfl, setMessage_disabled m text p, rfl⟩
  unfold toggleDoor
  dsimp only
  split
  · exact h_message _ _
  · exact h_message _ _

/-- **What an event can do.** Only a load, `DOMContentLoaded` and events of the socket reach the
cache, the buttons and the handlers. -/
theorem frame_step (p : Page) {e : PageEv} (h_load : e ≠ .load) (h_loaded : e ≠ .domContentLoaded)
    (h_receive : ∀ x, e ≠ .receive x) : Frame p (p.step U e) := by
  unfold step exec
  cases e with
  | load => exact absurd rfl h_load
  | domContentLoaded => exact absurd rfl h_loaded
  | connect =>
    -- asks for the states, which come back as messages
    unfold onConnect
    dsimp only
    split
    · exact ⟨rfl, fun _ => rfl, rfl⟩
    · exact ⟨rfl, fun _ => rfl, rfl⟩
  | disconnect =>
    unfold onDisconnect
    dsimp only
    split
    · exact ⟨rfl, fun _ => rfl, rfl⟩
    · exact ⟨rfl, fun _ => rfl, rfl⟩
  | receive x => exact absurd rfl (h_receive x)
  | tick => exact ⟨rfl, fun _ => rfl, rfl⟩
  | timer i =>
    -- whatever the timer does, only its own entry is gone from the list
    dsimp only
    rcases p.timers[i]? with _ | t
    · exact Frame.refl p
    · have h_frame := frame_onTimer { p with timers := p.timers.eraseIdx i } t
      exact ⟨h_frame.states, h_frame.flags, h_frame.ready⟩
  | click m =>
    dsimp only
    split
    · exact frame_toggleDoor p m
    · exact Frame.refl p

/-- `DOMContentLoaded` sets up the handlers. -/
theorem step_domContentLoaded (p : Page) :
    (p.step U .domContentLoaded).doorStates = p.doorStates ∧
      (p.step U .domContentLoaded).rows = p.rows ∧ (p.step U .domContentLoaded).ready = true := by
  unfold step exec onLoaded
  dsimp only
  split
  · exact ⟨rfl, rfl, ‹_›⟩
  · split
    · exact ⟨rfl, rfl, rfl⟩
    · exact ⟨rfl, rfl, rfl⟩

theorem Touch.of_frame {p' : Page} {P : Prop} (h_P : ¬ P) (h : Frame p p') : Touch p p' m P :=
  .of_eq h_P ⟨h.states, h.flags m⟩

/-- **Step.** On one page, an event updates the row of the module as `Updates` says, and otherwise
leaves its entry and its button. -/
theorem touch_step (p : Page) {e : PageEv} (h_load : e ≠ .load) (m : ModuleId) :
    Touch p (p.step U e) m (p.ready = true ∧ Updates U m e) := by
  cases e with
  | load => exact absurd rfl h_load
  | domContentLoaded =>
    -- setting up leaves the states and the rows
    obtain ⟨h_states, h_rows, -⟩ := p.step_domContentLoaded U
    refine .of_eq And.right ⟨h_states, ?_⟩
    rw [h_rows]
  | receive x =>
    unfold step exec
    dsimp only
    -- a message is heard once the page is set up
    by_cases h_ready : p.ready = true
    · rw [if_pos h_ready]
      exact (p.touch_receive U x m).congr (and_iff_right h_ready).symm
    · rw [if_neg h_ready]
      exact .of_eq (fun h => h_ready h.1) ⟨rfl, rfl⟩
  -- no event below touches a state or a row
  | connect => exact .of_frame And.right (p.frame_step U h_load (by simp) (by simp))
  | disconnect => exact .of_frame And.right (p.frame_step U h_load (by simp) (by simp))
  | tick => exact .of_frame And.right (p.frame_step U h_load (by simp) (by simp))
  | timer i => exact .of_frame And.right (p.frame_step U h_load (by simp) (by simp))
  | click m' => exact .of_frame And.right (p.frame_step U h_load (by simp) (by simp))

/-- The handlers are set up by `DOMContentLoaded`, until the page is loaded anew. -/
theorem ready_step (p : Page) (e : PageEv) :
    (p.step U e).ready = true ↔ e = .domContentLoaded ∨ (p.ready = true ∧ e ≠ .load) := by
  by_cases h_loaded : e = .domContentLoaded
  · subst h_loaded
    exact iff_of_true (p.step_domContentLoaded U).2.2 (Or.inl rfl)
  by_cases h_load : e = .load
  · subst h_load
    simp [step, exec, loaded]
  -- every other event leaves the handlers
  have h_same : (p.step U e).ready = p.ready := by
    by_cases h_receive : ∃ x, e = .receive x
    · obtain ⟨x, rfl⟩ := h_receive
      unfold step exec
      dsimp only
      split
      · exact (p.receive_fst U x).2
      · rfl
    · exact (p.frame_step U h_load h_loaded (fun x h => h_receive ⟨x, h⟩)).ready
  rw [h_same, or_iff_right h_loaded, and_iff_left h_load]

/-! ### Runs -/

theorem visited_ready (es : List PageEv) : (visited U es).ready = true ↔ SetUp es := by
  induction es using List.reverseRecOn with
  | nil => exact iff_of_false (show ¬ false = true by simp) (not_since_nil _ _)
  | append_singleton es e ih => rw [visited_concat, ready_step, ih, setUp_concat]

/-- The button fits the cache once the row has been updated, and is enabled with nothing in the
cache before that. -/
theorem visited_row (es : List PageEv) (m : ModuleId) :
    (Shown U m es → ((visited U es).rows m).disabled = ((visited U es).doorStates m).disables) ∧
      (¬ Shown U m es → (visited U es).doorStates m = .unknown ∧
        ((visited U es).rows m).disabled = false) := by
  induction es using List.reverseRecOn with
  | nil => exact ⟨fun h => absurd h (not_since_nil _ _), fun _ => ⟨rfl, rfl⟩⟩
  | append_singleton es e ih =>
    obtain ⟨ih_shown, ih_fresh⟩ := ih
    rw [shown_concat, visited_concat]
    -- a load forgets everything that was shown
    by_cases h_load : e = .load
    · subst h_load
      refine ⟨fun h => ?_, fun _ => ⟨rfl, rfl⟩⟩
      rcases h with ⟨-, h_updates⟩ | ⟨-, h_ne⟩
      · exact absurd h_updates id
      · exact absurd rfl h_ne
    · have h_touch := touch_step U (visited U es) h_load m
      rw [visited_ready] at h_touch
      cases h_touch with
      | updated h_P h_flag => exact ⟨fun _ => h_flag, fun h => absurd (Or.inl h_P) h⟩
      | left h_P h_states h_flag =>
        rw [h_states, h_flag]
        refine ⟨fun h => ?_, fun h => ?_⟩
        · rcases h with h_now | ⟨h_shown, -⟩
          · exact absurd h_now h_P
          · exact ih_shown h_shown
        · exact ih_fresh (fun h_shown => h (Or.inr ⟨h_shown, h_load⟩))

end Page

/-! ### Clicks -/

/-- A click that does nothing. -/
theorem cautious_nil (state : DoorState) : Cautious state [] where
  lock := fun _ h_r => absurd h_r List.not_mem_nil
  unlock := fun _ h_r => absurd h_r List.not_mem_nil
  nothing := fun _ => rfl

/-- The request of a click on a door that is known to be closed. -/
theorem cautious_request (m : ModuleId) (locked : Bool) :
    Cautious ⟨some false, some locked⟩ [⟨m.text, "D0".toList,
      if some locked = some true then "UNLOCK".toList else "LOCK".toList⟩] where
  lock := by
    intro r h_r h_action
    obtain rfl := List.mem_singleton.mp h_r
    cases locked with
    | false => rfl
    | true => exact absurd (show "UNLOCK".toList = "LOCK".toList from h_action) (by decide)
  unlock := by
    intro r h_r h_action
    obtain rfl := List.mem_singleton.mp h_r
    cases locked with
    | false => exact absurd (show "LOCK".toList = "UNLOCK".toList from h_action) (by decide)
    | true => rfl
  nothing := by
    rintro (h_door | h_lock)
    · exact absurd rfl h_door
    · exact absurd h_lock (by simp)

/-- A click on an enabled button does what fits the cache exactly if the door is open or its button
should not be disabled. -/
theorem cautious_click_iff {p : Page} {m : ModuleId} (h_ready : p.ready = true)
    (h_enabled : (p.rows m).disabled = false) :
    Cautious (p.doorStates m) (p.exec U (.click m)).2 ↔
      (p.doorStates m).doorOpen = some true ∨ (p.doorStates m).disables = false := by
  unfold Page.exec Page.toggleDoor
  dsimp only
  rw [if_pos ⟨h_ready, h_enabled⟩]
  obtain ⟨door, lock⟩ := p.doorStates m
  dsimp only
  by_cases h_open : door = some true
  · rw [if_pos h_open]
    exact iff_of_true (cautious_nil _) (Or.inl h_open)
  · rw [if_neg h_open]
    constructor
    · intro h_cautious
      refine Or.inr ?_
      by_contra h_disables
      -- the request is sent all the same
      have h_nothing := h_cautious.nothing ?_
      · exact absurd h_nothing (List.cons_ne_nil _ _)
      · unfold DoorState.disables at h_disables
        rcases lock with _ | _
        · exact Or.inr rfl
        · simpa using h_disables
    · rintro (h_door | h_disables)
      · exact absurd h_door h_open
      · unfold DoorState.disables at h_disables
        rcases door with _ | _ | _
        · exact absurd h_disables (by simp)
        · rcases lock with _ | locked
          · exact absurd h_disables (by simp)
          · exact cautious_request m locked
        · exact absurd rfl h_open

/-- **One click.** A click fits the cache exactly if the handlers are not set up, or the row has
been updated on this page. -/
theorem cautious_visited_iff (pre : List PageEv) (m : ModuleId) :
    Cautious ((Page.visited U pre).doorStates m) ((Page.visited U pre).exec U (.click m)).2 ↔
      (SetUp pre → Shown U m pre) := by
  obtain ⟨h_shown, h_fresh⟩ := Page.visited_row U pre m
  by_cases h_ready : (Page.visited U pre).ready = true
  · have h_setUp := (Page.visited_ready U pre).mp h_ready
    -- shown once: the row follows the state
    by_cases h_m : Shown U m pre
    · refine iff_of_true ?_ (fun _ => h_m)
      rcases h_flag : ((Page.visited U pre).rows m).disabled with _ | _
      · rw [cautious_click_iff U h_ready h_flag, ← h_shown h_m]
        exact Or.inr h_flag
      · -- no request goes out
        have h_ignored : ((Page.visited U pre).exec U (.click m)).2 = [] := by
          unfold Page.exec
          dsimp only
          rw [if_neg (fun h => absurd h.2 (by rw [h_flag]; simp))]
        rw [h_ignored]
        exact cautious_nil _
    · -- never shown: the state is unknown and the button is enabled
      obtain ⟨h_unknown, h_enabled⟩ := h_fresh h_m
      rw [cautious_click_iff U h_ready h_enabled, h_unknown]
      exact iff_of_false (by decide) (fun h => h_m (h h_setUp))
  · have h_ignored : ((Page.visited U pre).exec U (.click m)).2 = [] := by
      unfold Page.exec
      dsimp only
      rw [if_neg (fun h => h_ready h.1)]
    rw [h_ignored]
    exact iff_of_true (cautious_nil _)
      (fun h_setUp => absurd ((Page.visited_ready U pre).mpr h_setUp) h_ready)

/-- Every click on a page whose handlers are set up comes after an update of the row. -/
def ClicksOnShown (es : List PageEv) : Prop :=
  ∀ pre m post, es = pre ++ .click m :: post → SetUp pre → Shown U m pre

/-- **Clicks.** In a run, every click does what fits the cache exactly if none comes before the
row of its module has been updated on this page. -/
theorem actsOnKnown_iff (es : List PageEv) : ActsOnKnown U es ↔ ClicksOnShown U es := by
  unfold ActsOnKnown ClicksOnShown
  simp only [cautious_visited_iff]

/-- A click on the page as it is loaded locks a door whose state is not known. -/
theorem not_actsOnKnown :
    ¬ ActsOnKnown UpperCase.asciiLetters [.domContentLoaded, .click .D1] := by
  intro h_known
  have h_lock := (h_known [.domContentLoaded] .D1 [] rfl).lock
    ⟨"D1".toList, "D0".toList, "LOCK".toList⟩ (by decide +kernel) rfl
  exact absurd h_lock (by decide +kernel)

end Web

end DoorSystem
