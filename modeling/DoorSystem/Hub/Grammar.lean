import DoorSystem.Hub.Isolation

/-!
# The grammar of a heartbeat

A heartbeat shows a door and its lock in one token, `D0=CLOSED,LOCKED`. `parse_d_state` copies the
two words into buffers of 32 bytes, on one path when there is a comma and on another one when there
is none, and looks at the first word again when the second one is empty.

`PairToken` is the abstract syntax: a pair, the text up to the first comma, and the text behind it
if there is a comma. `readToken` reads a token and `PairToken.text` prints it again, and these two
are inverse to each other. `PairToken.meaning` is the meaning, without any buffer. The line handler
folds the meanings of the tokens, from left to right, into the four booleans of the module
(`heartbeatReading`). The buffers do not show: the words that mean something are shorter than a
buffer, so a copy that was cut is none of them and is not empty.
-/

namespace DoorSystem

open CLib

namespace Hub

/-! ### Syntax -/

/-- The two pairs of booleans of a module, by the doors they are about. -/
inductive DoorPair
  | d0
  | d1
deriving DecidableEq

/-- What a token about the pair starts with. -/
def DoorPair.tag : DoorPair → CStr
  | .d0 => "D0=".toList
  | .d1 => "D1=".toList

/-- A token about a pair: the text before the first comma and, if there is a comma, the text
behind it. -/
structure PairToken where
  /-- The pair that the token is about. -/
  pair : DoorPair
  /-- The text before the first comma. -/
  first : CStr
  /-- Nothing after the first comma belongs to the first word. -/
  noComma : ',' ∉ first
  /-- The text behind the first comma. -/
  second : Option CStr

theorem PairToken.ext {p q : PairToken} (h_pair : p.pair = q.pair) (h_first : p.first = q.first)
    (h_second : p.second = q.second) : p = q := by
  cases p
  cases q
  dsimp only at h_pair h_first h_second
  subst h_pair h_first h_second
  rfl

namespace PairToken

/-- The text behind the tag. -/
def states (p : PairToken) : CStr :=
  match p.second with
  | none => p.first
  | some w => p.first ++ ',' :: w

/-- The token as it stands in the line. -/
def text (p : PairToken) : CStr := p.pair.tag ++ p.states

/-- The token with the text `states` behind the tag. -/
def ofStates (pair : DoorPair) (states : CStr) : PairToken where
  pair := pair
  first := states.takeWhile (fun c => c ≠ ',')
  noComma := not_mem_takeWhile_ne states
  second := (strchr ',' states).map Prod.snd

/-- Printing undoes reading. -/
theorem states_ofStates (pair : DoorPair) (s : CStr) : (ofStates pair s).states = s := by
  unfold ofStates PairToken.states
  dsimp only
  cases h_cut : strchr ',' s with
  | none =>
    -- without a comma the first word is everything
    exact takeWhile_ne_of_not_mem (strchr_eq_none_iff.mp h_cut)
  | some ab =>
    obtain ⟨a, b⟩ := ab
    obtain ⟨rfl, h_a⟩ := strchr_eq_some_iff.mp h_cut
    rw [takeWhile_ne_append_cons h_a]
    rfl

/-- Reading undoes printing. -/
theorem ofStates_states (p : PairToken) : ofStates p.pair p.states = p := by
  unfold ofStates PairToken.states
  cases h_second : p.second with
  | none =>
    -- no comma: one state
    have h_cut := strchr_eq_none_iff.mpr p.noComma
    apply PairToken.ext
    · rfl
    · exact takeWhile_ne_of_not_mem p.noComma
    · dsimp only
      rw [h_cut, h_second]
      rfl
  | some w =>
    -- the first comma is the one between the two
    have h_cut : strchr ',' (p.first ++ ',' :: w) = some (p.first, w) :=
      strchr_eq_some_iff.mpr ⟨rfl, p.noComma⟩
    apply PairToken.ext
    · rfl
    · exact takeWhile_ne_append_cons p.noComma w
    · dsimp only
      rw [h_cut, h_second]
      rfl

end PairToken

/-- What a token is read as, if it is about a pair. -/
def readToken (tok : CStr) : Option PairToken :=
  if tok.take 3 = DoorPair.d0.tag then some (.ofStates .d0 (tok.drop 3))
  else if tok.take 3 = DoorPair.d1.tag then some (.ofStates .d1 (tok.drop 3))
  else none

/-- **Unambiguous.** A token is read in one way, and every token that prints is read. -/
theorem readToken_eq_some_iff {tok : CStr} {p : PairToken} :
    readToken tok = some p ↔ p.text = tok := by
  constructor
  · intro h_read
    have h_tok : ∀ pair : DoorPair, tok.take 3 = pair.tag →
        (PairToken.ofStates pair (tok.drop 3)).text = tok := by
      intro pair h_tag
      unfold PairToken.text
      rw [PairToken.states_ofStates]
      show pair.tag ++ tok.drop 3 = tok
      rw [← h_tag, List.take_append_drop]
    unfold readToken at h_read
    split_ifs at h_read with h_d0 h_d1
    · rw [← Option.some.inj h_read]
      exact h_tok .d0 h_d0
    · rw [← Option.some.inj h_read]
      exact h_tok .d1 h_d1
  · rintro rfl
    -- the tag tells the pair, and the rest is read again
    calc readToken p.text = some (.ofStates p.pair p.states) := by
          unfold readToken PairToken.text
          cases p.pair <;> rfl
      _ = some p := by rw [p.ofStates_states]

/-- The tokens that are skipped are those that start with neither tag. -/
theorem readToken_eq_none_iff {tok : CStr} :
    readToken tok = none ↔ ∀ pair : DoorPair, ¬ pair.tag <+: tok := by
  constructor
  · rintro h_none pair ⟨states, rfl⟩
    have h_text : (PairToken.ofStates pair states).text = pair.tag ++ states := by
      unfold PairToken.text
      rw [PairToken.states_ofStates]
      rfl
    rw [readToken_eq_some_iff.mpr h_text] at h_none
    exact Option.some_ne_none _ h_none
  · intro h_not
    by_contra h_some
    obtain ⟨p, h_read⟩ := Option.ne_none_iff_exists'.mp h_some
    exact h_not p.pair ⟨p.states, readToken_eq_some_iff.mp h_read⟩

/-! ### Meaning -/

/-- Open and locked, for both doors of a module. -/
abbrev DoorBits := DoorPair → Bool × Bool

/-- The four booleans in a slot. -/
def HubDoorStatus.bits (s : HubDoorStatus) : DoorBits
  | .d0 => (s.d0Open, s.d0Locked)
  | .d1 => (s.d1Open, s.d1Locked)

/-- The word about the lock: the second one, or the first one when the second one is absent or
empty. -/
def PairToken.lockWord (p : PairToken) : CStr :=
  if p.second.getD [] = [] then p.first else p.second.getD []

/-- What the pair is after the token. A word that says nothing leaves its boolean as it was. -/
def PairToken.meaning (p : PairToken) (bits : Bool × Bool) : Bool × Bool :=
  ((openSays p.first).getD bits.1, (lockedSays p.lockWord).getD bits.2)

/-- A token changes its own pair. -/
def PairToken.apply (bits : DoorBits) (p : PairToken) : DoorBits :=
  Function.update bits p.pair (p.meaning (bits p.pair))

/-- The reading of the tokens of a heartbeat, from left to right. -/
def readTokens (toks : List CStr) (bits : DoorBits) : DoorBits :=
  (toks.filterMap readToken).foldl PairToken.apply bits

theorem readTokens_cons (tok : CStr) (toks : List CStr) (bits : DoorBits) :
    readTokens (tok :: toks) bits = readTokens toks (readTokens [tok] bits) := by
  unfold readTokens
  cases h_read : readToken tok with
  | none =>
    rw [List.filterMap_cons_none h_read, List.filterMap_cons_none h_read]
    rfl
  | some p =>
    rw [List.filterMap_cons_some h_read, List.filterMap_cons_some h_read]
    rfl

-- a second comma belongs to the second word, and an empty second word is none
example : readTokens ["D0=OPEN,LOCKED,".toList, "D1=UNLOCKED,".toList] (fun _ => (false, true)) .d0
    = (true, true) := by decide

example : readTokens ["D0=OPEN,LOCKED,".toList, "D1=UNLOCKED,".toList] (fun _ => (false, true)) .d1
    = (false, false) := by decide

/-! ### Buffers -/

section Buffers

variable {n : ℕ} [NeZero n]

/-- The words about a door are told apart in a buffer of ten bytes. -/
theorem openSays_snprintf (h_n : 9 < n) (w : CStr) : openSays (snprintf n w).str = openSays w := by
  have h_open : (snprintf n w).str = "OPEN".toList ↔ w = "OPEN".toList :=
    snprintf_str_eq_iff (lt_of_le_of_lt (by decide) h_n) w
  have h_closed : (snprintf n w).str = "CLOSED".toList ↔ w = "CLOSED".toList :=
    snprintf_str_eq_iff (lt_of_le_of_lt (by decide) h_n) w
  unfold openSays
  simp only [h_open, h_closed]

/-- So are the words about a lock. -/
theorem lockedSays_snprintf (h_n : 9 < n) (w : CStr) :
    lockedSays (snprintf n w).str = lockedSays w := by
  have h_locked : (snprintf n w).str = "LOCKED".toList ↔ w = "LOCKED".toList :=
    snprintf_str_eq_iff (lt_of_le_of_lt (by decide) h_n) w
  have h_unlocked : (snprintf n w).str = "UNLOCKED".toList ↔ w = "UNLOCKED".toList :=
    snprintf_str_eq_iff (lt_of_le_of_lt (by decide) h_n) w
  unfold lockedSays
  simp only [h_locked, h_unlocked]

end Buffers

/-- The two paths of `parse_d_state`: its buffers hold the two words as far as they fit. -/
theorem splitStates_states (p : PairToken) :
    splitStates p.states = (snprintf 32 p.first, snprintf 32 (p.second.getD [])) := by
  unfold splitStates PairToken.states
  cases p.second with
  | none =>
    dsimp only
    rw [dropWhile_ne_of_not_mem p.noComma]
    rfl
  | some w =>
    dsimp only
    rw [dropWhile_ne_append_cons p.noComma, takeWhile_ne_append_cons p.noComma]
    rfl

/-- `parse_d_state` finds the `=` of the tag. -/
theorem dropWhile_text (p : PairToken) :
    p.text.dropWhile (fun c => c ≠ '=') = '=' :: p.states := by
  unfold PairToken.text
  cases p.pair with
  | d0 => exact dropWhile_ne_append_cons (a := "D0".toList) (by decide) p.states
  | d1 => exact dropWhile_ne_append_cons (a := "D1".toList) (by decide) p.states

/-- **Buffers.** `parse_d_state` computes the meaning of the token, whatever the lengths of its
words. -/
theorem parseDState_text (p : PairToken) (pOpen pLocked : Bool) :
    parseDState p.text pOpen pLocked = p.meaning (pOpen, pLocked) := by
  have h_open : tokenOpen p.text = openSays p.first := by
    unfold tokenOpen
    rw [dropWhile_text]
    dsimp only
    rw [splitStates_states, openSays_snprintf (by decide)]
  have h_locked : tokenLocked p.text = lockedSays p.lockWord := by
    -- a copy that was cut is not empty, so the same word is looked at
    have h_empty : (snprintf 32 (p.second.getD [])).str = [] ↔ p.second.getD [] = [] :=
      snprintf_str_eq_iff (by decide) _
    unfold tokenLocked PairToken.lockWord
    rw [dropWhile_text]
    dsimp only
    rw [splitStates_states]
    by_cases h_second : p.second.getD [] = []
    · rw [if_pos (h_empty.mpr h_second), if_pos h_second, lockedSays_snprintf (by decide)]
    · rw [if_neg (fun h => h_second (h_empty.mp h)), if_neg h_second,
        lockedSays_snprintf (by decide)]
  rw [parseDState_eq, h_open, h_locked]
  rfl

/-! ### The token loop -/

/-- **Step.** One round of the token loop is the reading of its token. -/
theorem heartbeatToken_bits (tok : CStr) (s : HubDoorStatus) (buf : CharBuf HUB_LINE_LEN) :
    (heartbeatToken tok s buf).1.bits = readTokens [tok] s.bits := by
  unfold heartbeatToken readTokens
  dsimp only
  cases h_read : readToken tok with
  | none =>
    -- a token with another start is only copied
    have h_not := readToken_eq_none_iff.mp h_read
    have h_skip : ∀ pair : DoorPair, tok.take 3 ≠ pair.tag :=
      fun pair h_tag => h_not pair (h_tag ▸ List.take_prefix 3 tok)
    have h_d0 : tok.take 3 ≠ "D0=".toList := h_skip .d0
    have h_d1 : tok.take 3 ≠ "D1=".toList := h_skip .d1
    rw [List.filterMap_cons_none h_read, if_neg h_d0, if_neg h_d1]
    rfl
  | some p =>
    obtain rfl := readToken_eq_some_iff.mp h_read
    have h_tag : p.text.take 3 = p.pair.tag := by
      unfold PairToken.text
      cases p.pair <;> rfl
    rw [List.filterMap_cons_some h_read]
    show _ = p.apply s.bits
    unfold PairToken.apply
    rw [h_tag]
    -- the other pair stays as it was
    ext1 pair
    cases h_pair : p.pair with
    | d0 =>
      rw [if_pos (by rfl), parseDState_text]
      cases pair <;> rfl
    | d1 =>
      rw [if_neg (by decide), if_pos (by rfl), parseDState_text]
      cases pair <;> rfl

/-- **Run.** The token loop is the reading of the tokens, from left to right. -/
theorem heartbeatLoop_bits (toks : List CStr) (s : HubDoorStatus) (buf : CharBuf HUB_LINE_LEN) :
    (heartbeatLoop toks s buf).1.bits = readTokens toks s.bits := by
  induction toks generalizing s buf with
  | nil => rfl
  | cons tok toks ih =>
    unfold heartbeatLoop
    dsimp only
    calc (heartbeatLoop toks (heartbeatToken tok s buf).1 (heartbeatToken tok s buf).2).1.bits
        = readTokens toks (heartbeatToken tok s buf).1.bits := ih _ _
      _ = readTokens toks (readTokens [tok] s.bits) := by rw [heartbeatToken_bits]
      _ = readTokens (tok :: toks) s.bits := (readTokens_cons tok toks s.bits).symm

/-- The rest of the line handler leaves the four booleans alone. -/
theorem lineStatus_heartbeat_bits (mod : CStr) (args : List CStr) (src : SockAddr) (t : ℤ)
    (s : HubDoorStatus) :
    (lineStatus mod "HEARTBEAT".toList args src t s).bits = readTokens args s.bits := by
  have h_addr : (updateLastAddr "HEARTBEAT".toList src s).bits = s.bits := by
    ext1 pair
    cases pair <;> rfl
  unfold lineStatus dispatchStatus
  rw [if_pos rfl, ← h_addr]
  unfold heartbeatBranch
  dsimp only
  rw [← heartbeatLoop_bits args _ (CharBuf.zero _)]
  ext1 pair
  cases pair <;> rfl

/-! ### Heartbeats -/

/-- **Reading.** When the hub handles the datagram `data` in the state `h`, a heartbeat changes the
four booleans of its module as the grammar says. -/
structure HeartbeatReading (h : HubState) (data : List Char) (src : SockAddr) (t tReg : ℤ) :
    Prop where
  /-- A token is read as what prints as this token, and in no other way. -/
  reads : ∀ tok p, readToken tok = some p ↔ p.text = tok
  /-- The tokens that count are those that start with `D0=` or `D1=`. -/
  skips : ∀ tok, readToken tok = none ↔ ∀ pair : DoorPair, ¬ pair.tag <+: tok
  /-- The slot that the line handler finds or creates, for a module id of any length. -/
  slot : ∀ mod args d,
    lineTokens (datagramLine data) = mod :: "HEARTBEAT".toList :: args →
    (findOrCreateDoor mod h.gDoors).2 = some d →
      ((step h (.datagram data src t tReg)).gDoors d).bits
        = readTokens args ((findOrCreateDoor mod h.gDoors).1 d).bits
  /-- What `hub_udp_get_status` returns before and after. -/
  status : ∀ mod args,
    lineTokens (datagramLine data) = mod :: "HEARTBEAT".toList :: args →
    mod.length < HUB_MODULE_ID_LEN → HasSlot mod h.gDoors →
      (hubUdpGetStatus mod (step h (.datagram data src t tReg))).map HubDoorStatus.bits
        = some (readTokens args
            ((hubUdpGetStatus mod h).getD (HubDoorStatus.fresh mod)).bits)

/-- **A heartbeat is read as its grammar says**, for every datagram and in every state of the
hub. -/
theorem heartbeatReading (h : HubState) (data : List Char) (src : SockAddr) (t tReg : ℤ) :
    HeartbeatReading h data src t tReg where
  reads _ _ := readToken_eq_some_iff
  skips _ := readToken_eq_none_iff
  slot mod args d h_words h_d := by
    rw [step_datagram_slot h_words h_d]
    exact lineStatus_heartbeat_bits mod args src t _
  status mod args h_words h_mod h_slot := by
    obtain ⟨t', h_status⟩ :=
      hubUdpGetStatus_step_self (e := .datagram data src t tReg) h_words h_mod h_slot
    rw [h_status, Option.map_some, lineStatus_heartbeat_bits]

end Hub

end DoorSystem
