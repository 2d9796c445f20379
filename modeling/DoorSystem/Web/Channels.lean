import DoorSystem.Lib.Assign
import DoorSystem.Web.Control

/-!
# The two feedback channels

A FEEDBACK reaches the page twice: as `door-feedback`, with the action that `door_server.js` has
normalised, and as `command-feedback`, with the action as it is. Both are assignment programs on the
entry of the module. They agree unless the text is muddled: it is not of the form `STATUS_*`, it is
normalised from its words, and its words give a door word next to the lock state, two lock states
of which the last is UNLOCKED, or CLOSED alone, which the page does not know as a status.
-/

namespace DoorSystem

open CLib CLib.Js

namespace Web

/-! ### Action texts -/

/-- An action of a FEEDBACK: words of the datagram, joined by blanks. -/
structure ActionText where
  words : List CStr
  ne_nil : words ≠ []
  isToken : ∀ w ∈ words, IsToken isWhite w

namespace ActionText

def text (a : ActionText) : CStr := spaced a.words

/-- The action text of the single word `w`. -/
def single (w : CStr) (h_w : IsToken isWhite w) : ActionText where
  words := [w]
  ne_nil := List.cons_ne_nil _ _
  isToken := fun _ h_mem => List.mem_singleton.mp h_mem ▸ h_w

end ActionText

theorem head_spaced {ws : List CStr} (h_ws : ∀ w ∈ ws, IsToken isWhite w) :
    ∀ c ∈ (spaced ws).head?, isWhite c = false := by
  intro c h_c
  cases ws with
  | nil => exact absurd h_c (by simp [spaced, List.intercalate])
  | cons w ws =>
    have h_w := h_ws w List.mem_cons_self
    obtain ⟨d, ds, rfl⟩ := List.exists_cons_of_ne_nil h_w.1
    have h_head : (spaced ((d :: ds) :: ws)).head? = some d := by
      cases ws with
      | nil => rw [spaced_singleton]; rfl
      | cons w' ws => rw [spaced_cons_cons]; rfl
    rw [h_head] at h_c
    obtain rfl := Option.some.inj h_c
    exact h_w.2 d List.mem_cons_self

theorem getLast_spaced {ws : List CStr} (h_ws : ∀ w ∈ ws, IsToken isWhite w) :
    ∀ c ∈ (spaced ws).getLast?, isWhite c = false := by
  induction ws with
  | nil =>
    intro c h_c
    exact absurd h_c (by simp [spaced, List.intercalate])
  | cons w ws ih =>
    -- the text ends with its last word
    cases ws with
    | nil =>
      intro c h_c
      rw [spaced_singleton] at h_c
      exact (h_ws w List.mem_cons_self).2 c (List.mem_of_getLast? h_c)
    | cons w' ws =>
      intro c h_c
      have h_tail : ∀ v ∈ w' :: ws, IsToken isWhite v :=
        fun v h_v => h_ws v (List.mem_cons_of_mem _ h_v)
      have h_ne : spaced (w' :: ws) ≠ [] := by
        intro h_nil
        have h_len := length_spaced (List.cons_ne_nil w' ws)
        have h_w' := List.length_pos_of_ne_nil (h_tail w' List.mem_cons_self).1
        rw [h_nil, List.map_cons, List.sum_cons] at h_len
        simp only [List.length_nil] at h_len
        omega
      rw [spaced_cons_cons, List.getLast?_append_of_ne_nil _ (List.cons_ne_nil _ _),
        List.getLast?_cons_of_ne_nil h_ne] at h_c
      exact ih h_tail c h_c

variable (U : UpperCase)

/-- Nothing is trimmed from an action. -/
theorem ActionText.trim_toUpperCase (a : ActionText) :
    trim (U.toUpperCase a.text) = U.toUpperCase a.text :=
  U.trim_toUpperCase (head_spaced a.isToken) (getLast_spaced a.isToken)

/-! ### Assignments to the entry -/

/-- The fields of an entry. -/
inductive Field
  | doorOpen
  | lockLocked
deriving DecidableEq

def DoorState.get (state : DoorState) : Field → Option Bool
  | .doorOpen => state.doorOpen
  | .lockLocked => state.lockLocked

theorem DoorState.get_injective : Function.Injective DoorState.get := by
  intro a b h
  have h_door : a.doorOpen = b.doorOpen := congrFun h .doorOpen
  have h_lock : a.lockLocked = b.lockLocked := congrFun h .lockLocked
  cases a
  cases b
  simp_all

instance : Nonempty DoorState := ⟨.unknown⟩

/-- An assignment to both fields. -/
theorem isAssign_both (state : DoorState) : IsAssign DoorState.get (fun _ => state) :=
  fun i => Or.inl ⟨state.get i, fun _ => rfl⟩

theorem isAssign_doorOpen (v : Option Bool) :
    IsAssign DoorState.get (fun state => { state with doorOpen := v }) := by
  intro i
  cases i with
  | doorOpen => exact Or.inl ⟨v, fun _ => rfl⟩
  | lockLocked => exact Or.inr (fun _ => rfl)

theorem isAssign_lockLocked (v : Option Bool) :
    IsAssign DoorState.get (fun state => { state with lockLocked := v }) := by
  intro i
  cases i with
  | doorOpen => exact Or.inr (fun _ => rfl)
  | lockLocked => exact Or.inl ⟨v, fun _ => rfl⟩

theorem isAssign_applyStatusStateToDoor (statusState : CStr) :
    IsAssign DoorState.get (applyStatusStateToDoor U statusState) := by
  unfold applyStatusStateToDoor
  dsimp only
  split
  · exact isAssign_both _
  · split
    · exact isAssign_both _
    · split
      · exact isAssign_doorOpen _
      · exact isAssign_both _

theorem isAssign_applyDoorWord (parts : List CStr) :
    IsAssign DoorState.get (applyDoorWord parts) := by
  unfold applyDoorWord
  split
  · exact isAssign_doorOpen _
  · split
    · exact isAssign_doorOpen _
    · exact IsAssign.id

theorem isAssign_applyLockWord (parts : List CStr) :
    IsAssign DoorState.get (applyLockWord parts) := by
  unfold applyLockWord
  split
  · exact isAssign_lockLocked _
  · split
    · exact isAssign_lockLocked _
    · exact IsAssign.id

/-- The four tests one after the other. -/
theorem isAssign_applyParts (parts : List CStr) : IsAssign DoorState.get (applyParts parts) :=
  (isAssign_applyLockWord parts).comp (isAssign_applyDoorWord parts)

theorem isAssign_applyCommandFeedback (rawAction : CStr) :
    IsAssign DoorState.get (applyCommandFeedback U rawAction) := by
  unfold applyCommandFeedback
  dsimp only
  split
  · exact isAssign_applyStatusStateToDoor U _
  · exact isAssign_applyParts _

theorem isAssign_applyDoorFeedback (action : CStr) :
    IsAssign DoorState.get (applyDoorFeedback U action) := by
  unfold applyDoorFeedback
  dsimp only
  split
  · exact isAssign_applyStatusStateToDoor U _
  · exact IsAssign.id

/-! ### What the channels make of a text -/

/-- The event `door-feedback` that the server makes of the action, applied to the entry. -/
def viaDoorFeedback (a : ActionText) : DoorState → DoorState :=
  applyDoorFeedback U (Node.Server.formattedAction U a.text)

/-- The event `command-feedback` with the action, applied to the entry. -/
def viaCommandFeedback (a : ActionText) : DoorState → DoorState :=
  applyCommandFeedback U a.text

/-- The channels set no field to different values, and either order gives the same entry. -/
def ChannelsAgree (a : ActionText) : Prop :=
  Compatible DoorState.get (viaDoorFeedback U a) (viaCommandFeedback U a) ∧
    ∀ state, viaDoorFeedback U a (viaCommandFeedback U a state) =
      viaCommandFeedback U a (viaDoorFeedback U a state)

def isDoorWord (w : CStr) : Bool := w = "OPEN".toList || w = "CLOSED".toList

def isLockWord (w : CStr) : Bool := w = "LOCKED".toList || w = "UNLOCKED".toList

/-- The last of the words that say whether the door is open. -/
def lastDoorWord (ws : List CStr) : Option CStr := (ws.filter isDoorWord).getLast?

/-- The last of the words that say whether the door is locked. -/
def lastLockWord (ws : List CStr) : Option CStr := (ws.filter isLockWord).getLast?

/-- The words give more than one status, or CLOSED alone. -/
def MuddledWords (ws : List CStr) : Prop :=
  (lastLockWord ws ≠ none ∧ "OPEN".toList ∈ ws) ∨
    (lastLockWord ws = some "UNLOCKED".toList ∧ "LOCKED".toList ∈ ws) ∨
      (lastLockWord ws = none ∧ lastDoorWord ws = some "CLOSED".toList)

/-- The text is no `STATUS_*`, OPEN or CLOSED is in it, and its words are muddled. -/
def Muddled (upper : CStr) : Prop :=
  ¬ "STATUS_".toList <+: upper ∧ ("OPEN".toList <:+: upper ∨ "CLOSED".toList <:+: upper) ∧
    MuddledWords (listWords upper)

/-! ### The words -/

/-- The loop of the server finds the last words. -/
theorem lastWords_eq (ws : List CStr) (states : Option CStr × Option CStr) :
    Node.Server.lastWords ws states =
      ((lastDoorWord ws).or states.1, (lastLockWord ws).or states.2) := by
  induction ws generalizing states with
  | nil => rfl
  | cons w ws ih =>
    obtain ⟨door, lock⟩ := states
    unfold Node.Server.lastWords
    rw [ih]
    -- a word is the last of its kind unless a later one is
    have h_last (P : CStr → Bool) (x : Option CStr) :
        ((ws.filter P).getLast?).or (if P w = true then some w else x) =
          (((w :: ws).filter P).getLast?).or x := by
      by_cases h_w : P w = true
      · rw [if_pos h_w, List.filter_cons_of_pos h_w, List.getLast?_cons]
        cases (ws.filter P).getLast? <;> rfl
      · rw [if_neg h_w, List.filter_cons_of_neg h_w]
    unfold lastDoorWord lastLockWord
    rw [← h_last isDoorWord, ← h_last isLockWord]
    simp only [isDoorWord, isLockWord, Bool.or_eq_true, decide_eq_true_eq]

theorem lastLockWord_cases (ws : List CStr) :
    (lastLockWord ws = some "LOCKED".toList ∧ "LOCKED".toList ∈ ws) ∨
      (lastLockWord ws = some "UNLOCKED".toList ∧ "UNLOCKED".toList ∈ ws) ∨
        (lastLockWord ws = none ∧ "LOCKED".toList ∉ ws ∧ "UNLOCKED".toList ∉ ws) := by
  rcases h_last : lastLockWord ws with _ | w
  · have h_none : ∀ v ∈ ws, ¬ isLockWord v = true :=
      List.filter_eq_nil_iff.mp (List.getLast?_eq_none_iff.mp h_last)
    exact Or.inr (Or.inr ⟨rfl, fun h => h_none _ h (by decide), fun h => h_none _ h (by decide)⟩)
  · obtain ⟨h_mem, h_lock⟩ := List.mem_filter.mp (List.mem_of_getLast? h_last)
    unfold isLockWord at h_lock
    rcases Bool.or_eq_true _ _ ▸ h_lock with h_w | h_w
    · obtain rfl := of_decide_eq_true h_w
      exact Or.inl ⟨rfl, h_mem⟩
    · obtain rfl := of_decide_eq_true h_w
      exact Or.inr (Or.inl ⟨rfl, h_mem⟩)

theorem lastDoorWord_cases (ws : List CStr) :
    (lastDoorWord ws = some "OPEN".toList ∧ "OPEN".toList ∈ ws) ∨
      (lastDoorWord ws = some "CLOSED".toList ∧ "CLOSED".toList ∈ ws) ∨
        (lastDoorWord ws = none ∧ "OPEN".toList ∉ ws ∧ "CLOSED".toList ∉ ws) := by
  rcases h_last : lastDoorWord ws with _ | w
  · have h_none : ∀ v ∈ ws, ¬ isDoorWord v = true :=
      List.filter_eq_nil_iff.mp (List.getLast?_eq_none_iff.mp h_last)
    exact Or.inr (Or.inr ⟨rfl, fun h => h_none _ h (by decide), fun h => h_none _ h (by decide)⟩)
  · obtain ⟨h_mem, h_door⟩ := List.mem_filter.mp (List.mem_of_getLast? h_last)
    unfold isDoorWord at h_door
    rcases Bool.or_eq_true _ _ ▸ h_door with h_w | h_w
    · obtain rfl := of_decide_eq_true h_w
      exact Or.inl ⟨rfl, h_mem⟩
    · obtain rfl := of_decide_eq_true h_w
      exact Or.inr (Or.inl ⟨rfl, h_mem⟩)

/-! ### The two programs -/

/-- The status words of the server are upper case. -/
theorem applyDoorFeedback_status {w : CStr} (h_w : ∀ c ∈ w, c.toNat < 128 ∧ c.toUpper = c) :
    applyDoorFeedback U ("STATUS_".toList ++ w) = applyStatusStateToDoor U w := by
  have h_upper : U.toUpperCase ("STATUS_".toList ++ w) = "STATUS_".toList ++ w := by
    refine U.toUpperCase_of_ascii (fun c h_c => ?_)
    rcases List.mem_append.mp h_c with h_c | h_c
    · exact (by simp : ∀ c ∈ "STATUS_".toList, c.toNat < 128 ∧ c.toUpper = c) c h_c
    · exact h_w c h_c
  funext state
  unfold applyDoorFeedback
  dsimp only
  rw [h_upper, if_pos (List.prefix_append _ _)]
  rfl

theorem applyStatusStateToDoor_locked (state : DoorState) :
    applyStatusStateToDoor U "LOCKED".toList state = ⟨some false, some true⟩ := by
  unfold applyStatusStateToDoor
  rw [U.toUpperCase_of_ascii (by simp)]
  rfl

theorem applyStatusStateToDoor_unlocked (state : DoorState) :
    applyStatusStateToDoor U "UNLOCKED".toList state = ⟨some false, some false⟩ := by
  unfold applyStatusStateToDoor
  rw [U.toUpperCase_of_ascii (by simp)]
  rfl

theorem applyStatusStateToDoor_open (state : DoorState) :
    applyStatusStateToDoor U "OPEN".toList state = { state with doorOpen := some true } := by
  unfold applyStatusStateToDoor
  rw [U.toUpperCase_of_ascii (by simp)]
  rfl

/-- CLOSED is no status of its own. -/
theorem applyStatusStateToDoor_closed (state : DoorState) :
    applyStatusStateToDoor U "CLOSED".toList state = .unknown := by
  unfold applyStatusStateToDoor
  rw [U.toUpperCase_of_ascii (by simp)]
  rfl

theorem applyStatusStateToDoor_unknown (state : DoorState) :
    applyStatusStateToDoor U "UNKNOWN".toList state = .unknown := by
  unfold applyStatusStateToDoor
  rw [U.toUpperCase_of_ascii (by simp)]
  rfl

variable (a : ActionText)

/-- Words of an upper-case text are read as they are. -/
theorem applyLegacyStatusString_upper :
    applyLegacyStatusString U (U.toUpperCase a.text) =
      applyParts (listWords (U.toUpperCase a.text)) := by
  have h_words : (listWords (U.toUpperCase a.text)).map U.toUpperCase =
      listWords (U.toUpperCase a.text) :=
    (List.map_congr_left (fun _ h_w => U.toUpperCase_of_mem_tokens h_w)).trans (List.map_id _)
  unfold applyLegacyStatusString
  rw [h_words]

/-- A text `STATUS_*` is read the same way on both channels. -/
theorem via_of_status (h_status : "STATUS_".toList <+: U.toUpperCase a.text) :
    viaDoorFeedback U a = viaCommandFeedback U a := by
  funext state
  unfold viaDoorFeedback viaCommandFeedback Node.Server.formattedAction applyDoorFeedback
    applyCommandFeedback
  dsimp only
  rw [a.trim_toUpperCase, if_pos h_status, U.toUpperCase_toUpperCase, if_pos h_status,
    if_pos h_status]

/-- Any other text is read word by word on `command-feedback`. -/
theorem viaCommandFeedback_of_words (h_status : ¬ "STATUS_".toList <+: U.toUpperCase a.text) :
    viaCommandFeedback U a = applyParts (listWords (U.toUpperCase a.text)) := by
  rw [← applyLegacyStatusString_upper]
  funext state
  unfold viaCommandFeedback applyCommandFeedback
  dsimp only
  rw [if_neg h_status]

/-- The status word that the server makes of the words. -/
def statusWord (ws : List CStr) : CStr :=
  match lastLockWord ws, lastDoorWord ws with
  | some lockState, _ => lockState
  | none, some doorState => doorState
  | none, none => "UNKNOWN".toList

/-- A text with OPEN or CLOSED in it is sent as one status word on `door-feedback`. -/
theorem viaDoorFeedback_of_words (h_status : ¬ "STATUS_".toList <+: U.toUpperCase a.text)
    (h_word : "OPEN".toList <:+: U.toUpperCase a.text ∨ "CLOSED".toList <:+: U.toUpperCase a.text) :
    viaDoorFeedback U a =
      applyStatusStateToDoor U (statusWord (listWords (U.toUpperCase a.text))) := by
  have h_bare : U.toUpperCase a.text ≠ "STATUS".toList := by
    -- a bare STATUS has neither word
    intro h_eq
    rw [h_eq] at h_word
    revert h_word
    decide +kernel
  unfold viaDoorFeedback Node.Server.formattedAction
  dsimp only
  rw [a.trim_toUpperCase, if_neg h_status, if_neg h_bare, if_pos h_word, lastWords_eq]
  unfold statusWord
  -- the lock word goes before the door word, and with neither the status is UNKNOWN
  rcases lastLockWord_cases (listWords (U.toUpperCase a.text)) with
    ⟨h_lock, -⟩ | ⟨h_lock, -⟩ | ⟨h_lock, -⟩
  · rw [h_lock]
    exact applyDoorFeedback_status U (by simp)
  · rw [h_lock]
    exact applyDoorFeedback_status U (by simp)
  · rw [h_lock]
    rcases lastDoorWord_cases (listWords (U.toUpperCase a.text)) with
      ⟨h_door, -⟩ | ⟨h_door, -⟩ | ⟨h_door, -⟩
    · rw [h_door]
      exact applyDoorFeedback_status U (by simp)
    · rw [h_door]
      exact applyDoorFeedback_status U (by simp)
    · rw [h_door]
      exact applyDoorFeedback_status U (w := "UNKNOWN".toList) (by simp)

/-- The bare STATUS is an unknown status on `door-feedback`. -/
theorem viaDoorFeedback_of_bare (h_bare : U.toUpperCase a.text = "STATUS".toList) :
    viaDoorFeedback U a = fun _ => .unknown := by
  have h_status : ¬ "STATUS_".toList <+: "STATUS".toList := by decide
  unfold viaDoorFeedback Node.Server.formattedAction
  dsimp only
  rw [a.trim_toUpperCase, h_bare, if_neg h_status, if_pos rfl]
  funext state
  rw [← applyStatusStateToDoor_unknown U state]
  exact congrFun (applyDoorFeedback_status U (w := "UNKNOWN".toList) (by simp)) state

/-- Any other text is no status on `door-feedback`. -/
theorem viaDoorFeedback_of_no_words (h_status : ¬ "STATUS_".toList <+: U.toUpperCase a.text)
    (h_bare : U.toUpperCase a.text ≠ "STATUS".toList)
    (h_word : ¬ ("OPEN".toList <:+: U.toUpperCase a.text ∨
      "CLOSED".toList <:+: U.toUpperCase a.text)) :
    viaDoorFeedback U a = id := by
  funext state
  unfold viaDoorFeedback Node.Server.formattedAction applyDoorFeedback
  dsimp only
  rw [a.trim_toUpperCase, if_neg h_status, if_neg h_bare, if_neg h_word, if_neg h_status]
  rfl

/-! ### Agreement -/

theorem applyDoorWord_mk (ws : List CStr) (door lock : Option Bool) :
    applyDoorWord ws ⟨door, lock⟩ =
      ⟨if "OPEN".toList ∈ ws then some true
        else if "CLOSED".toList ∈ ws then some false else door, lock⟩ := by
  unfold applyDoorWord
  simp only [List.contains_iff_mem]
  split
  · rfl
  · split
    · rfl
    · rfl

theorem applyLockWord_mk (ws : List CStr) (door lock : Option Bool) :
    applyLockWord ws ⟨door, lock⟩ =
      ⟨door, if "LOCKED".toList ∈ ws then some true
        else if "UNLOCKED".toList ∈ ws then some false else lock⟩ := by
  unfold applyLockWord
  simp only [List.contains_iff_mem]
  split
  · rfl
  · split
    · rfl
    · rfl

theorem applyParts_mk (ws : List CStr) (door lock : Option Bool) :
    applyParts ws ⟨door, lock⟩ =
      ⟨if "OPEN".toList ∈ ws then some true else if "CLOSED".toList ∈ ws then some false else door,
        if "LOCKED".toList ∈ ws then some true
        else if "UNLOCKED".toList ∈ ws then some false else lock⟩ := by
  unfold applyParts
  rw [applyDoorWord_mk, applyLockWord_mk]

/-- A lock state agrees with the words if these leave the door closed and the lock as it is. -/
theorem applyParts_closed_iff (ws : List CStr) (locked : Bool) :
    applyParts ws ⟨some false, some locked⟩ = ⟨some false, some locked⟩ ↔
      "OPEN".toList ∉ ws ∧ ("LOCKED".toList ∈ ws → locked = true) ∧
        ("UNLOCKED".toList ∈ ws → "LOCKED".toList ∉ ws → locked = false) := by
  rw [applyParts_mk]
  generalize "OPEN".toList = op, "CLOSED".toList = cl, "LOCKED".toList = lo, "UNLOCKED".toList = un
  by_cases h_op : op ∈ ws <;> by_cases h_cl : cl ∈ ws <;> by_cases h_lo : lo ∈ ws <;>
    by_cases h_un : un ∈ ws <;> simp [h_op, h_cl, h_lo, h_un, eq_comm]

/-- An unknown status agrees with words that say nothing. -/
theorem applyParts_unknown_iff (ws : List CStr) :
    applyParts ws .unknown = .unknown ↔ "OPEN".toList ∉ ws ∧ "CLOSED".toList ∉ ws ∧
      "LOCKED".toList ∉ ws ∧ "UNLOCKED".toList ∉ ws := by
  unfold DoorState.unknown
  rw [applyParts_mk]
  generalize "OPEN".toList = op, "CLOSED".toList = cl, "LOCKED".toList = lo, "UNLOCKED".toList = un
  by_cases h_op : op ∈ ws <;> by_cases h_cl : cl ∈ ws <;> by_cases h_lo : lo ∈ ws <;>
    by_cases h_un : un ∈ ws <;> simp [h_op, h_cl, h_lo, h_un]

/-- **Words.** The status word of the words and the words one by one agree exactly if the words
are not muddled. -/
theorem comm_applyParts_iff (ws : List CStr) :
    (∀ state, applyStatusStateToDoor U (statusWord ws) (applyParts ws state) =
      applyParts ws (applyStatusStateToDoor U (statusWord ws) state)) ↔ ¬ MuddledWords ws := by
  unfold statusWord MuddledWords
  rcases lastLockWord_cases ws with
    ⟨h_lock, h_mem⟩ | ⟨h_lock, h_mem⟩ | ⟨h_lock, h_locked, h_unlocked⟩
  · -- LOCKED: no door word may say that the door is open
    simp only [h_lock, applyStatusStateToDoor_locked, forall_const]
    rw [eq_comm, applyParts_closed_iff]
    constructor
    · rintro ⟨h_open, -, -⟩ (⟨-, h_muddled⟩ | ⟨h_muddled, -⟩ | ⟨h_muddled, -⟩)
      · exact h_open h_muddled
      · exact absurd h_muddled (by decide)
      · exact absurd h_muddled (Option.some_ne_none _)
    · intro h_clear
      refine ⟨fun h_open => ?_, fun _ => rfl, fun _ h_locked => absurd h_mem h_locked⟩
      exact h_clear (Or.inl ⟨Option.some_ne_none _, h_open⟩)
  · -- UNLOCKED: nor may LOCKED stand before it
    simp only [h_lock, applyStatusStateToDoor_unlocked, forall_const]
    rw [eq_comm, applyParts_closed_iff]
    constructor
    · rintro ⟨h_open, h_locked, -⟩ (⟨-, h_muddled⟩ | ⟨-, h_muddled⟩ | ⟨h_muddled, -⟩)
      · exact h_open h_muddled
      · exact absurd (h_locked h_muddled) (by simp)
      · exact absurd h_muddled (Option.some_ne_none _)
    · intro h_clear
      refine ⟨fun h_open => ?_, fun h_locked => ?_, fun _ _ => rfl⟩
      · exact h_clear (Or.inl ⟨Option.some_ne_none _, h_open⟩)
      · exact absurd (Or.inr (Or.inl ⟨trivial, h_locked⟩)) h_clear
  · -- no lock state: the last door word counts
    rcases lastDoorWord_cases ws with
      ⟨h_door, h_mem⟩ | ⟨h_door, h_mem⟩ | ⟨h_door, h_open, h_closed⟩
    · simp only [h_lock, h_door, applyStatusStateToDoor_open]
      refine iff_of_true (fun state => ?_) ?_
      · obtain ⟨door, lock⟩ := state
        rw [applyParts_mk, applyParts_mk, if_pos h_mem, if_pos h_mem]
      · rintro (⟨h_muddled, -⟩ | ⟨h_muddled, -⟩ | ⟨-, h_muddled⟩)
        · exact h_muddled rfl
        · exact absurd h_muddled.symm (Option.some_ne_none _)
        · exact absurd h_muddled (by decide)
    · simp only [h_lock, h_door, applyStatusStateToDoor_closed, forall_const]
      refine iff_of_false (fun h_comm => ?_) (fun h_clear => ?_)
      · exact ((applyParts_unknown_iff ws).mp h_comm.symm).2.1 h_mem
      · exact h_clear (Or.inr (Or.inr ⟨trivial, trivial⟩))
    · simp only [h_lock, h_door, applyStatusStateToDoor_unknown, forall_const]
      refine iff_of_true ?_ ?_
      · exact ((applyParts_unknown_iff ws).mpr ⟨h_open, h_closed, h_locked, h_unlocked⟩).symm
      · rintro (⟨h_muddled, -⟩ | ⟨h_muddled, -⟩ | ⟨-, h_muddled⟩)
        · exact h_muddled rfl
        · exact absurd h_muddled.symm (Option.some_ne_none _)
        · exact absurd h_muddled.symm (Option.some_ne_none _)

/-- **Channels.** The two events of a FEEDBACK set no field to different values, and give the same
entry in either order, exactly if the action is not muddled. -/
theorem channelsAgree_iff : ChannelsAgree U a ↔ ¬ Muddled (U.toUpperCase a.text) := by
  have h_comm : ChannelsAgree U a ↔ ∀ state, viaDoorFeedback U a (viaCommandFeedback U a state) =
      viaCommandFeedback U a (viaDoorFeedback U a state) :=
    ⟨And.right, fun h => ⟨(IsAssign.comm_iff DoorState.get_injective
      (isAssign_applyDoorFeedback U _) (isAssign_applyCommandFeedback U _)).mp h, h⟩⟩
  rw [h_comm]
  unfold Muddled
  -- a STATUS answer: both channels read the same text
  by_cases h_status : "STATUS_".toList <+: U.toUpperCase a.text
  · rw [via_of_status U a h_status]
    exact iff_of_true (fun _ => rfl) (fun h => h.1 h_status)
  -- a door word: one channel applies a status, the other every word
  by_cases h_word : "OPEN".toList <:+: U.toUpperCase a.text ∨
      "CLOSED".toList <:+: U.toUpperCase a.text
  · rw [viaDoorFeedback_of_words U a h_status h_word, viaCommandFeedback_of_words U a h_status,
      comm_applyParts_iff]
    tauto
  refine iff_of_true (fun state => ?_) (fun h => h_word h.2.1)
  -- no door word: the formatted text is STATUS_UNKNOWN, or the text itself
  by_cases h_bare : U.toUpperCase a.text = "STATUS".toList
  · have h_words : listWords "STATUS".toList = ["STATUS".toList] := by decide +kernel
    rw [viaDoorFeedback_of_bare U a h_bare, viaCommandFeedback_of_words U a h_status, h_bare,
      h_words]
    exact ((applyParts_unknown_iff _).mpr (by decide)).symm
  · rw [viaDoorFeedback_of_no_words U a h_status h_bare h_word]
    rfl

/-- A door that reports CLOSED: the state of the door is unknown on one channel and false on the
other. -/
theorem not_channelsAgree :
    ¬ ChannelsAgree UpperCase.asciiLetters (.single "CLOSED".toList (by decide)) := by
  intro h_agree
  exact absurd (h_agree.2 .unknown) (by decide +kernel)

end Web

end DoorSystem
