import DoorSystem.Hub.Effects

/-!
# What a line says about the state of its module

HEARTBEAT and EVENT lines write the state bits of their module's slot. For the two bits that stand
for a door and its lock, `d0_open` and `d1_locked`, `Field.lineSays` is what a line says about the
bit, if it does. `step_field` is the effect of any event on the bit: what its line says, or what was
there before.
-/

namespace DoorSystem

open CLib

namespace Hub

/-! ### Words and tokens -/

/-- What a door word says. -/
def openSays (w : CStr) : Option Bool :=
  if w = "OPEN".toList then some true else if w = "CLOSED".toList then some false else none

/-- What a lock word says. -/
def lockedSays (w : CStr) : Option Bool :=
  if w = "LOCKED".toList then some true else if w = "UNLOCKED".toList then some false else none

theorem openWord_eq (w : CStr) (p : Bool) : openWord w p = (openSays w).getD p := by
  unfold openWord openSays
  split_ifs <;> rfl

theorem lockedWord_eq (w : CStr) (p : Bool) : lockedWord w p = (lockedSays w).getD p := by
  unfold lockedWord lockedSays
  split_ifs <;> rfl

/-- The door word of a token `D<n>=<door>,<lock>`. -/
def tokenOpen (token : CStr) : Option Bool :=
  match token.dropWhile (fun c => c ≠ '=') with
  | [] => none
  | _ :: states => openSays (splitStates states).1.str

/-- The lock word of such a token. -/
def tokenLocked (token : CStr) : Option Bool :=
  match token.dropWhile (fun c => c ≠ '=') with
  | [] => none
  | _ :: states =>
    if (splitStates states).2.str = [] then lockedSays (splitStates states).1.str
    else lockedSays (splitStates states).2.str

theorem parseDState_eq (token : CStr) (pOpen pLocked : Bool) :
    parseDState token pOpen pLocked
      = ((tokenOpen token).getD pOpen, (tokenLocked token).getD pLocked) := by
  unfold parseDState tokenOpen tokenLocked
  cases token.dropWhile (fun c => c ≠ '=') with
  | nil => rfl
  | cons c states =>
    dsimp only
    rw [openWord_eq, lockedWord_eq, lockedWord_eq]
    split_ifs with h_second
    · rw [h_second]
      rfl
    · rfl

/-! ### Lines -/

/-- The bits that stand for the door and for its lock. -/
inductive Field
  | d0Open
  | d1Locked
deriving DecidableEq

/-- The bit in a slot. -/
def Field.get : Field → HubDoorStatus → Bool
  | .d0Open, s => s.d0Open
  | .d1Locked, s => s.d1Locked

/-- What a token of a HEARTBEAT says about the bit. -/
def Field.tokenSays : Field → CStr → Option Bool
  | .d0Open, tok => if tok.take 3 = "D0=".toList then tokenOpen tok else none
  | .d1Locked, tok => if tok.take 3 = "D1=".toList then tokenLocked tok else none

/-- What the tokens of a HEARTBEAT say: the last one that says anything counts. -/
def Field.tokensSay (f : Field) : List CStr → Option Bool
  | [] => none
  | tok :: toks => (f.tokensSay toks).or (f.tokenSays tok)

/-- What an EVENT says. -/
def Field.eventSays (f : Field) (args : List CStr) : Option Bool :=
  match args with
  | which :: what :: state :: _ =>
    match f with
    | .d0Open => if which = "D0".toList ∧ what = "DOOR".toList then openSays state else none
    | .d1Locked => if which = "D1".toList ∧ what = "LOCK".toList then lockedSays state else none
  | _ => none

/-- What a line says about its module's bit. -/
def Field.argsSay (f : Field) (type : CStr) (args : List CStr) : Option Bool :=
  if type = "HEARTBEAT".toList then f.tokensSay args
  else if type = "EVENT".toList then f.eventSays args
  else none

/-- What the line with the words `ws` says about the bit of the module `m`. -/
def Field.lineSays (f : Field) (m : CStr) : List CStr → Option Bool
  | mod :: type :: args => if mod = m then f.argsSay type args else none
  | _ => none

theorem heartbeatToken_field (f : Field) (tok : CStr) (s : HubDoorStatus)
    (buf : CharBuf HUB_LINE_LEN) :
    f.get (heartbeatToken tok s buf).1 = (f.tokenSays tok).getD (f.get s) := by
  unfold heartbeatToken Field.tokenSays
  dsimp only
  cases f with
  | d0Open =>
    dsimp only [Field.get]
    split_ifs with h_d0 h_d1
    · rw [parseDState_eq]
    · rfl
    · rfl
  | d1Locked =>
    dsimp only [Field.get]
    split_ifs with h_d0 h_d1 h_d1
    · -- a token is not about both doors
      rw [h_d0] at h_d1
      exact absurd h_d1 (by decide)
    · rfl
    · rw [parseDState_eq]
    · rfl

theorem heartbeatLoop_field (f : Field) (toks : List CStr) (s : HubDoorStatus)
    (buf : CharBuf HUB_LINE_LEN) :
    f.get (heartbeatLoop toks s buf).1 = (f.tokensSay toks).getD (f.get s) := by
  -- the later tokens overwrite what this one wrote
  induction toks generalizing s buf with
  | nil => rfl
  | cons tok toks ih =>
    unfold heartbeatLoop Field.tokensSay
    dsimp only
    rw [ih, heartbeatToken_field]
    cases f.tokensSay toks <;> rfl

theorem eventBranch_field (f : Field) (args : List CStr) (t : ℤ) (s : HubDoorStatus) :
    f.get (eventBranch args t s) = (f.eventSays args).getD (f.get s) := by
  unfold eventBranch Field.eventSays
  -- an event with fewer than three arguments says nothing
  rcases args with _ | ⟨which, _ | ⟨what, _ | ⟨state, rest⟩⟩⟩
  · cases f <;> rfl
  · cases f <;> rfl
  · cases f <;> rfl
  · dsimp only
    unfold eventBits
    cases f with
    | d0Open =>
      dsimp only [Field.get]
      -- only a D0 DOOR event writes the bit
      by_cases h_which : which = "D0".toList
      · rw [if_pos h_which]
        by_cases h_what : what = "DOOR".toList
        · rw [if_pos h_what, if_pos ⟨h_which, h_what⟩]
          exact openWord_eq _ _
        · have h_not : ¬ (which = "D0".toList ∧ what = "DOOR".toList) := fun h => h_what h.2
          rw [if_neg h_what, if_neg h_not]
          split_ifs <;> rfl
      · have h_not : ¬ (which = "D0".toList ∧ what = "DOOR".toList) := fun h => h_which h.1
        rw [if_neg h_which, if_neg h_not]
        split_ifs <;> rfl
    | d1Locked =>
      dsimp only [Field.get]
      -- only a D1 LOCK event writes the bit
      by_cases h_which : which = "D1".toList
      · rw [if_neg (by rw [h_which]; decide), if_pos h_which]
        by_cases h_what : what = "LOCK".toList
        · rw [if_neg (by rw [h_what]; decide), if_pos h_what, if_pos ⟨h_which, h_what⟩]
          exact lockedWord_eq _ _
        · have h_not : ¬ (which = "D1".toList ∧ what = "LOCK".toList) := fun h => h_what h.2
          rw [if_neg h_what, if_neg h_not]
          split_ifs <;> rfl
      · have h_not : ¬ (which = "D1".toList ∧ what = "LOCK".toList) := fun h => h_which h.1
        rw [if_neg h_which, if_neg h_not]
        split_ifs <;> rfl

/-- **Lines.** -/
theorem lineStatus_field (f : Field) (mod type : CStr) (args : List CStr) (src : SockAddr) (t : ℤ)
    (s : HubDoorStatus) :
    f.get (lineStatus mod type args src t s) = (f.argsSay type args).getD (f.get s) := by
  have h_addr : f.get (updateLastAddr type src s) = f.get s := by
    unfold updateLastAddr
    cases f <;> split_ifs <;> rfl
  unfold lineStatus dispatchStatus Field.argsSay
  rw [← h_addr]
  split_ifs with h_hb h_ev h_fb h_cmd
  · -- after the token loop the branch writes its stamps only
    unfold heartbeatBranch
    dsimp only
    rw [← heartbeatLoop_field f args _ (CharBuf.zero _)]
    cases f <;> rfl
  · exact eventBranch_field f args t _
  · cases f <;> split <;> rfl
  · rfl
  · cases f <;> rfl

/-- **Events.** The bit of a module becomes what the event's line says about it, if it says
anything. -/
theorem step_field (f : Field) {h : HubState} {m : CStr} {d : Fin HUB_MAX_DOORS}
    (h_d : findDoor m h.gDoors = some d) (e : HubEv) :
    f.get ((step h e).gDoors d) = (f.lineSays m e.words).getD (f.get (h.gDoors d)) := by
  rcases step_gDoors_cases h e with ⟨mod, type, args, t, h_words, h_doors⟩ | ⟨h_no, h_doors⟩
  · rw [h_doors, h_words]
    unfold Field.lineSays
    dsimp only
    by_cases h_mod : mod = m
    · subst h_mod
      rw [lineDoors_of_findDoor h_d, lineStatus_field, if_pos rfl]
    · -- a line of another module leaves the slot alone
      rw [if_neg h_mod]
      rcases lineDoors_of_holds (holds_of_findDoor h_d) mod type args e.source t with
        h_same | ⟨h_eq, -⟩
      · rw [h_same]
        rfl
      · exact absurd h_eq h_mod
  · -- no line, so nothing is said; the offline check writes other fields
    have h_none : f.lineSays m e.words = none := by
      unfold Field.lineSays
      split
      · next mod type args h_words => exact absurd h_words (h_no mod type args)
      · rfl
    rw [h_none, h_doors d]
    cases f <;> rfl

/-- `hub_udp_get_status`: the slot that is copied out. -/
def hubUdpGetStatus (moduleId : CStr) (h : HubState) : Option HubDoorStatus :=
  (findDoor moduleId h.gDoors).map h.gDoors

end Hub

end DoorSystem
