import DoorSystem.Lib.CInt

/-!
# The line protocol

Door modules, the hub and the web bridge exchange UDP datagrams that hold one line of words each:
`<MODULE> <TYPE> <ARG>...`. Hub and door cut a line up with the same `strtok_r` delimiters; the
words themselves are plain text.
-/

namespace DoorSystem

open CLib

/-! ### Buffer sizes -/

-- the sizes of the program's buffers, so that every use of a buffer finds the same proof
instance neZero_sixteen : NeZero 16 := ⟨by decide⟩
instance neZero_thirtyTwo : NeZero 32 := ⟨by decide⟩
instance neZero_twoFiftySix : NeZero 256 := ⟨by decide⟩
instance neZero_fiveTwelve : NeZero 512 := ⟨by decide⟩

/-! ### Addresses and words -/

/-- The sender or receiver of a datagram (`struct sockaddr_in`). -/
structure SockAddr where
  ip : ℕ
  port : ℕ
deriving DecidableEq, Repr

/-- The address that `memset` leaves. -/
def SockAddr.zero : SockAddr := ⟨0, 0⟩

/-- The delimiters `" \t\r\n"`. -/
def isBlank (c : Char) : Bool := c = ' ' || c = '\t' || c = '\r' || c = '\n'

/-- The words of a line, as successive `strtok_r` calls with these delimiters return them. -/
def lineTokens (line : CStr) : List CStr := tokens isBlank line

/-- A word of a line. -/
abbrev IsWord (w : CStr) : Prop := IsToken isBlank w

theorem isWord_of_mem_lineTokens {line w : CStr} (h : w ∈ lineTokens line) : IsWord w :=
  isToken_of_mem_tokens h

theorem sum_length_lineTokens_le (line : CStr) :
    ((lineTokens line).map (fun w => w.length + 1)).sum ≤ line.length + 1 :=
  sum_length_tokens_le line

theorem length_spaced_lineTokens_le (line : CStr) :
    (spaced (lineTokens line)).length ≤ line.length :=
  length_spaced_tokens_le line

/-- A decimal text is one word. -/
theorem isWord_fmtInt (x : ℤ) : IsWord (fmtInt x) := by
  refine isToken_fmtInt (fun c hc => ?_) rfl x
  rw [isDigit_iff] at hc
  unfold isBlank
  simp only [Bool.or_eq_false_iff, decide_eq_false_iff_not]
  refine ⟨⟨⟨?_, ?_⟩, ?_⟩, ?_⟩ <;> rintro rfl <;> simp at hc

/-- The words of a line that was formatted with single blanks and a final newline. -/
theorem lineTokens_spaced {ws : List CStr} (hws : ∀ w ∈ ws, IsWord w) :
    lineTokens (spaced ws ++ ['\n']) = ws :=
  tokens_spaced_line rfl rfl hws

/-! ### Datagrams -/

/-- The text of a datagram in a 256-byte buffer: at most 255 bytes are received, and the text ends
at the first NUL. -/
def datagramLine (data : List Char) : CStr := cstr (data.take 255)

/-- A line that is passed on arrives as it is. -/
theorem datagramLine_datagramLine (data : List Char) :
    datagramLine (datagramLine data) = datagramLine data := by
  unfold datagramLine
  rw [List.take_of_length_le]
  · exact cstr_of_noNul (noNul_cstr _)
  · -- the text up to the NUL is a prefix of the 255 bytes
    calc (cstr (data.take 255)).length
        ≤ (data.take 255).length := (List.takeWhile_prefix _).length_le
      _ ≤ 255 := List.length_take_le _ _

/-- A word of the text of a datagram. -/
def IsText (w : CStr) : Prop := IsWord w ∧ Char.ofNat 0 ∉ w

instance (w : CStr) : Decidable (IsText w) := inferInstanceAs (Decidable (_ ∧ _))

theorem IsText.no_newline {w : CStr} (h : IsText w) : '\n' ∉ w := by
  intro h_mem
  exact absurd (h.1.2 _ h_mem) (by decide)

theorem isText_of_mem {data : List Char} {w : CStr} (h : w ∈ lineTokens (datagramLine data)) :
    IsText w := by
  refine ⟨isWord_of_mem_lineTokens h, ?_⟩
  intro h_nul
  -- the line ends before its first NUL
  exact noNul_cstr _ (mem_of_mem_tokens h h_nul)

theorem isText_fmtInt (x : ℤ) : IsText (fmtInt x) := by
  refine ⟨isWord_fmtInt x, ?_⟩
  intro h_nul
  -- NUL is neither a digit nor a sign
  rcases mem_fmtInt h_nul with h_digit | h_sign
  · exact absurd h_digit (by decide)
  · exact absurd h_sign (by decide)

/-- A prefix of a word is a word, unless it is empty. -/
theorem IsText.take {w : CStr} (h : IsText w) {n : ℕ} (h_n : 0 < n) : IsText (w.take n) := by
  refine ⟨⟨?_, fun c hc => h.1.2 c (List.mem_of_mem_take hc)⟩,
    fun h_nul => h.2 (List.mem_of_mem_take h_nul)⟩
  intro h_nil
  rcases List.take_eq_nil_iff.mp h_nil with h_zero | h_zero
  · omega
  · exact h.1.1 h_zero

/-- A line of words has no NUL before its end. -/
theorem noNul_line {ws : List CStr} (hws : ∀ w ∈ ws, IsText w) :
    Char.ofNat 0 ∉ spaced ws ++ ['\n'] := by
  rw [List.mem_append, List.mem_singleton]
  rintro (h_mem | h_mem)
  · exact not_mem_spaced (by decide) (fun w hw => (hws w hw).2) h_mem
  · exact absurd h_mem (by decide)

/-- A line of words that fits into its buffer is received word by word. -/
theorem lineTokens_sent {ws : List CStr} (hws : ∀ w ∈ ws, IsText w)
    (h_len : (spaced ws ++ ['\n']).length ≤ 255) :
    lineTokens (datagramLine (snprintf 256 (spaced ws ++ ['\n'])).str) = ws := by
  -- neither the sender's buffer nor the receiver's cuts the line
  have h_line : datagramLine (snprintf 256 (spaced ws ++ ['\n'])).str = spaced ws ++ ['\n'] := by
    unfold datagramLine
    rw [snprintf_of_fits (by omega), List.take_of_length_le h_len, cstr_of_noNul (noNul_line hws)]
  rw [h_line]
  exact lineTokens_spaced (fun w hw => (hws w hw).1)

theorem length_datagramLine_le (data : List Char) : (datagramLine data).length ≤ 255 :=
  ((List.takeWhile_prefix _).length_le).trans (List.length_take_le _ _)

/-- **The limit of a line.** A line of words is received word by word exactly when its buffer has
room for everything but the newline. -/
theorem lineTokens_sent_iff {ws : List CStr} (hws : ∀ w ∈ ws, IsText w) :
    lineTokens (datagramLine (snprintf 256 (spaced ws ++ ['\n'])).str) = ws ↔
      (spaced ws).length ≤ 255 := by
  constructor
  · intro h_words
    -- the words that are received fit into the line they are read from
    have h_len := length_spaced_lineTokens_le
      (datagramLine (snprintf 256 (spaced ws ++ ['\n'])).str)
    rw [h_words] at h_len
    exact h_len.trans (length_datagramLine_le _)
  · intro h_len
    rcases Nat.lt_or_eq_of_le h_len with h_lt | h_eq
    · refine lineTokens_sent hws ?_
      rw [List.length_append, List.length_singleton]
      exact h_lt
    · -- only the newline is cut off
      have h_nul : Char.ofNat 0 ∉ spaced ws :=
        fun h_mem => noNul_line hws (List.mem_append_left _ h_mem)
      have h_line : datagramLine (snprintf 256 (spaced ws ++ ['\n'])).str = spaced ws := by
        unfold datagramLine
        rw [snprintf_str, List.take_take, Nat.min_self, List.take_append_of_le_length h_eq.ge,
          List.take_of_length_le h_len, cstr_of_noNul h_nul]
      have h_line_words := lineTokens_spaced (fun w hw => (hws w hw).1)
      unfold lineTokens at h_line_words
      rw [tokens_append_delim rfl, tokens_nil, List.append_nil] at h_line_words
      rw [h_line]
      exact h_line_words

/-- A line either has a module and a type, or is ignored. -/
theorem words_cases (ws : List CStr) :
    (∃ mod type args, ws = mod :: type :: args) ∨ ∀ mod type args, ws ≠ mod :: type :: args := by
  rcases ws with _ | ⟨mod, _ | ⟨type, args⟩⟩
  · exact Or.inr (by simp)
  · exact Or.inr (by simp)
  · exact Or.inl ⟨mod, type, args, rfl⟩

/-! ### COMMAND and FEEDBACK lines -/

/-- The words of a FEEDBACK or COMMAND line that has a command id, a target and an action. -/
structure CmdWords where
  mod : CStr
  cmdid : ℤ
  target : CStr
  action : CStr
deriving DecidableEq

/-- The words `<MODULE> <type> <CMDID> <TARGET> <ACTION> ...`. -/
def cmdWords (type : CStr) : List CStr → Option CmdWords
  | mod :: type' :: cmdidS :: target :: action :: _ =>
    if type' = type then some ⟨mod, atoi cmdidS, target, action⟩ else none
  | _ => none

/-- A complete FEEDBACK line. -/
def feedbackOf (ws : List CStr) : Option CmdWords := cmdWords "FEEDBACK".toList ws

/-- A complete COMMAND line. -/
def commandOf (ws : List CStr) : Option CmdWords := cmdWords "COMMAND".toList ws

theorem cmdWords_eq_some {type : CStr} {ws : List CStr} {f : CmdWords}
    (h : cmdWords type ws = some f) :
    ∃ cmdidS rest, ws = f.mod :: type :: cmdidS :: f.target :: f.action :: rest ∧
      f.cmdid = atoi cmdidS := by
  unfold cmdWords at h
  split at h
  · split at h
    · next h_type =>
      rw [← Option.some.inj h, h_type]
      exact ⟨_, _, rfl, rfl⟩
    · exact absurd h (by simp)
  · exact absurd h (by simp)

theorem cmdWords_self (type mod cmdidS target action : CStr) (rest : List CStr) :
    cmdWords type (mod :: type :: cmdidS :: target :: action :: rest)
      = some ⟨mod, atoi cmdidS, target, action⟩ := by
  simp [cmdWords]

theorem cmdWords_ne {type type' : CStr} (h_ne : type' ≠ type) (mod : CStr) (args : List CStr) :
    cmdWords type (mod :: type' :: args) = none := by
  unfold cmdWords
  split
  · next h_eq =>
    rw [List.cons.injEq, List.cons.injEq] at h_eq
    rw [if_neg (by rw [← h_eq.2.1]; exact h_ne)]
  · rfl

/-- The module of the line is its first word. -/
theorem cmdWords_mod {type type' mod : CStr} {args : List CStr} {f : CmdWords}
    (h : cmdWords type (mod :: type' :: args) = some f) : f.mod = mod := by
  obtain ⟨cmdidS, rest, h_eq, -⟩ := cmdWords_eq_some h
  exact (List.cons.inj h_eq).1.symm

/-- The words of a line that is received are text, and its id is an `int`. -/
theorem isText_of_cmdWords {type : CStr} {data : List Char} {c : CmdWords}
    (h : cmdWords type (lineTokens (datagramLine data)) = some c) :
    IsText c.mod ∧ IsText c.target ∧ IsText c.action ∧ InInt c.cmdid := by
  obtain ⟨cmdidS, rest, h_words, h_id⟩ := cmdWords_eq_some h
  have h_text : ∀ w ∈ lineTokens (datagramLine data), IsText w := fun w h_w => isText_of_mem h_w
  rw [h_words] at h_text
  refine ⟨h_text _ (by simp), h_text _ (by simp), h_text _ (by simp), ?_⟩
  rw [h_id]
  exact inInt_atoi cmdidS

/-- The pair of module and command id. -/
def CmdWords.pair (f : CmdWords) : CStr × ℤ := (f.mod, f.cmdid)

theorem feedbackOf_of_command {ws : List CStr} {c : CmdWords} (h_c : commandOf ws = some c) :
    feedbackOf ws = none := by
  obtain ⟨cmdidS, rest, h_ws, -⟩ := cmdWords_eq_some h_c
  rw [h_ws]
  exact cmdWords_ne (by decide) _ _

theorem commandOf_of_feedback {ws : List CStr} {f : CmdWords} (h_f : feedbackOf ws = some f) :
    commandOf ws = none := by
  obtain ⟨cmdidS, rest, h_ws, -⟩ := cmdWords_eq_some h_f
  rw [h_ws]
  exact cmdWords_ne (by decide) _ _

/-- `"%s FEEDBACK %d %s %s\n"`. -/
def feedbackLine (mod : CStr) (cmdid : ℤ) (target action : CStr) : CStr :=
  spaced [mod, "FEEDBACK".toList, fmtInt cmdid, target, action] ++ ['\n']

/-- `"%s COMMAND %d %s %s\n"`. -/
def commandLine (mod : CStr) (cmdid : ℤ) (target action : CStr) : CStr :=
  spaced [mod, "COMMAND".toList, fmtInt cmdid, target, action] ++ ['\n']

theorem length_feedbackLine (mod : CStr) (cmdid : ℤ) (target action : CStr) :
    (feedbackLine mod cmdid target action).length
      = mod.length + (fmtInt cmdid).length + target.length + action.length + 13 := by
  simp [feedbackLine, spaced, List.intercalate]
  omega

theorem length_commandLine (mod : CStr) (cmdid : ℤ) (target action : CStr) :
    (commandLine mod cmdid target action).length
      = mod.length + (fmtInt cmdid).length + target.length + action.length + 12 := by
  simp [commandLine, spaced, List.intercalate]
  omega

theorem isText_cmdLine {mod type target action : CStr} (h_mod : IsText mod)
    (h_type : IsText type) (cmdid : ℤ) (h_target : IsText target) (h_action : IsText action) :
    ∀ w ∈ [mod, type, fmtInt cmdid, target, action], IsText w := by
  simp only [List.forall_mem_cons]
  exact ⟨h_mod, h_type, isText_fmtInt cmdid, h_target, h_action, by simp⟩

/-- A line with a command id that fits into its buffer is received as it was sent. -/
theorem cmdWords_sent {mod type target action : CStr} {cmdid : ℤ} (h_mod : IsText mod)
    (h_type : IsText type) (h_id : InInt cmdid) (h_target : IsText target)
    (h_action : IsText action)
    (h_len : (spaced [mod, type, fmtInt cmdid, target, action] ++ ['\n']).length ≤ 255) :
    cmdWords type (lineTokens (datagramLine
      (snprintf 256 (spaced [mod, type, fmtInt cmdid, target, action] ++ ['\n'])).str))
      = some ⟨mod, cmdid, target, action⟩ := by
  rw [lineTokens_sent (isText_cmdLine h_mod h_type cmdid h_target h_action) h_len, cmdWords_self,
    atoi_fmtInt h_id]

/-- A FEEDBACK line of words that is not cut is received as it was sent. -/
theorem feedbackOf_feedbackLine {mod target action : CStr} {cmdid : ℤ} (h_mod : IsText mod)
    (h_id : InInt cmdid) (h_target : IsText target) (h_action : IsText action)
    (h_len : mod.length + target.length + action.length ≤ 231) :
    feedbackOf (lineTokens (datagramLine
      (snprintf 256 (feedbackLine mod cmdid target action)).str))
      = some ⟨mod, cmdid, target, action⟩ := by
  have h_num := length_fmtInt_le h_id
  have h_fits : (feedbackLine mod cmdid target action).length ≤ 255 := by
    rw [length_feedbackLine]
    omega
  exact cmdWords_sent h_mod (by decide) h_id h_target h_action h_fits

/-- A COMMAND line of words that is not cut is received as it was sent. -/
theorem commandOf_commandLine {mod target action : CStr} {cmdid : ℤ} (h_mod : IsText mod)
    (h_id : InInt cmdid) (h_target : IsText target) (h_action : IsText action)
    (h_len : mod.length + target.length + action.length ≤ 232) :
    commandOf (lineTokens (datagramLine
      (snprintf 256 (commandLine mod cmdid target action)).str))
      = some ⟨mod, cmdid, target, action⟩ := by
  have h_num := length_fmtInt_le h_id
  have h_fits : (commandLine mod cmdid target action).length ≤ 255 := by
    rw [length_commandLine]
    omega
  exact cmdWords_sent h_mod (by decide) h_id h_target h_action h_fits

/-! ### Lines that are cut -/

/-- The words before and after a blank. -/
theorem lineTokens_append_blank (a b : CStr) :
    lineTokens (a ++ ' ' :: b) = lineTokens a ++ lineTokens b :=
  tokens_append_delim rfl

theorem lineTokens_word {w : CStr} (h : IsText w) : lineTokens w = [w] := tokens_token h.1

theorem take_append_blank (a b : CStr) (n : ℕ) :
    (a ++ ' ' :: b).take (a.length + 1 + n) = a ++ ' ' :: b.take n := by
  rw [Nat.add_assoc, List.take_length_add_append, Nat.add_comm 1 n, List.take_succ_cons]

/-- What is left of the last word of a line. -/
theorem lineTokens_take_last {w : CStr} (h : IsText w) {n : ℕ} (h_n : 0 < n) :
    lineTokens ((w ++ ['\n']).take n) = [w.take n] := by
  rcases Nat.lt_or_ge w.length n with h_lt | h_le
  · -- the word is whole, and perhaps its newline
    rw [List.take_of_length_le (by simpa using h_lt), List.take_of_length_le h_lt.le]
    have h_word : ∀ w' ∈ [w], IsWord w' := by simpa using h.1
    have h_line := lineTokens_spaced h_word
    rw [spaced_singleton] at h_line
    exact h_line
  · rw [List.take_append_of_le_length h_le]
    exact lineTokens_word (h.take h_n)

/-- The start of a line with a command id: everything before its target. -/
def cmdHead (mod type : CStr) (cmdid : ℤ) : CStr := mod ++ ' ' :: (type ++ ' ' :: fmtInt cmdid)

theorem length_cmdHead (mod type : CStr) (cmdid : ℤ) :
    (cmdHead mod type cmdid).length
      = mod.length + type.length + (fmtInt cmdid).length + 2 := by
  simp [cmdHead]
  omega

/-- A line whose start is short is received with its start, and with what the buffer had room for
behind it. -/
theorem lineTokens_sent_head {mod type tail : CStr} {cmdid : ℤ} (h_mod : IsText mod)
    (h_type : IsText type) (h_tail : Char.ofNat 0 ∉ tail) {n : ℕ}
    (h_room : 255 = (cmdHead mod type cmdid).length + 1 + n) :
    lineTokens (datagramLine (snprintf 256 (cmdHead mod type cmdid ++ ' ' :: tail)).str)
      = mod :: type :: fmtInt cmdid :: lineTokens (tail.take n) := by
  have h_head : lineTokens (cmdHead mod type cmdid) = [mod, type, fmtInt cmdid] := by
    unfold cmdHead
    rw [lineTokens_append_blank, lineTokens_append_blank, lineTokens_word h_mod,
      lineTokens_word h_type, lineTokens_word (isText_fmtInt cmdid)]
    rfl
  have h_nul : Char.ofNat 0 ∉ cmdHead mod type cmdid ++ ' ' :: tail := by
    simp only [cmdHead, List.mem_append, List.mem_cons, not_or]
    have h_blank : Char.ofNat 0 ≠ ' ' := by decide
    exact ⟨⟨h_mod.2, h_blank, h_type.2, h_blank, (isText_fmtInt cmdid).2⟩, h_blank, h_tail⟩
  -- what was cut for the buffer is not cut again on the way
  have h_line : datagramLine (snprintf 256 (cmdHead mod type cmdid ++ ' ' :: tail)).str
      = cmdHead mod type cmdid ++ ' ' :: tail.take n := by
    unfold datagramLine
    rw [snprintf_str, List.take_take, Nat.min_self,
      cstr_of_noNul (fun h_mem => h_nul (List.mem_of_mem_take h_mem))]
    show List.take 255 _ = _
    rw [h_room, take_append_blank]
  rw [h_line, lineTokens_append_blank, h_head]
  rfl

theorem feedbackLine_eq (mod : CStr) (cmdid : ℤ) (target action : CStr) :
    feedbackLine mod cmdid target action
      = cmdHead mod "FEEDBACK".toList cmdid ++ ' ' :: (target ++ ' ' :: (action ++ ['\n'])) := by
  unfold feedbackLine cmdHead
  rw [spaced_cons_cons, spaced_cons_cons, spaced_cons_cons, spaced_cons_cons, spaced_singleton]
  simp only [List.append_assoc, List.cons_append]

theorem commandLine_eq (mod : CStr) (cmdid : ℤ) (target action : CStr) :
    commandLine mod cmdid target action
      = cmdHead mod "COMMAND".toList cmdid ++ ' ' :: (target ++ ' ' :: (action ++ ['\n'])) := by
  unfold commandLine cmdHead
  rw [spaced_cons_cons, spaced_cons_cons, spaced_cons_cons, spaced_cons_cons, spaced_singleton]
  simp only [List.append_assoc, List.cons_append]

/-- **When a COMMAND line is received as it was meant.** Its target and its action have to be words,
and its buffer has to have room for everything but the newline. -/
theorem commandOf_sent_iff {mod target action : CStr} (h_mod : IsText mod)
    (h_fits : mod.length ≤ 15) {cmdid : ℤ} (h_id : InInt cmdid)
    (h_target : Char.ofNat 0 ∉ target) (h_action : Char.ofNat 0 ∉ action) :
    commandOf (lineTokens (datagramLine
        (snprintf 256 (commandLine mod cmdid target action)).str))
        = some ⟨mod, cmdid, target, action⟩ ↔
      IsWord target ∧ IsWord action ∧ (commandLine mod cmdid target action).length ≤ 256 := by
  have h_line : commandLine mod cmdid target action
      = spaced [mod, "COMMAND".toList, fmtInt cmdid, target, action] ++ ['\n'] := rfl
  constructor
  · intro h_c
    obtain ⟨cmdidS, rest, h_words, -⟩ := cmdWords_eq_some h_c
    dsimp only at h_words
    have h_word : ∀ w ∈ mod :: "COMMAND".toList :: cmdidS :: target :: action :: rest,
        IsWord w := by
      rw [← h_words]
      exact fun w h_w => isWord_of_mem_lineTokens h_w
    -- the buffer has room for the head of the line, so the third word is the whole number
    have h_num : cmdidS = fmtInt cmdid := by
      have h_len := length_fmtInt_le h_id
      have h_head := length_cmdHead mod "COMMAND".toList cmdid
      have h_seven : "COMMAND".toList.length = 7 := rfl
      obtain ⟨n, h_room⟩ : ∃ n, 255 = (cmdHead mod "COMMAND".toList cmdid).length + 1 + n :=
        ⟨254 - (cmdHead mod "COMMAND".toList cmdid).length, by omega⟩
      have h_tail : Char.ofNat 0 ∉ target ++ ' ' :: (action ++ ['\n']) := by
        rw [List.mem_append, List.mem_cons, List.mem_append, List.mem_singleton]
        rintro (h | h | h | h)
        · exact h_target h
        · exact absurd h (by decide)
        · exact h_action h
        · exact absurd h (by decide)
      rw [commandLine_eq, lineTokens_sent_head h_mod (by decide) h_tail h_room] at h_words
      exact (List.cons.inj (List.cons.inj (List.cons.inj h_words).2).2).1.symm
    refine ⟨h_word _ (by simp), h_word _ (by simp), ?_⟩
    -- the words that are received fit into the line they are read from
    have h_sum := sum_length_lineTokens_le
      (datagramLine (snprintf 256 (commandLine mod cmdid target action)).str)
    rw [h_words, h_num] at h_sum
    have h_255 := length_datagramLine_le
      (snprintf 256 (commandLine mod cmdid target action)).str
    have h_seven : "COMMAND".toList.length = 7 := rfl
    rw [length_commandLine]
    simp only [List.map_cons, List.sum_cons] at h_sum
    omega
  · rintro ⟨h_target_word, h_action_word, h_len⟩
    have h_type : IsText "COMMAND".toList := by decide
    have h_text := isText_cmdLine h_mod h_type cmdid ⟨h_target_word, h_target⟩
      ⟨h_action_word, h_action⟩
    rw [h_line, List.length_append, List.length_singleton] at h_len
    rw [h_line, (lineTokens_sent_iff h_text).mpr (Nat.le_of_lt_succ (by omega))]
    unfold commandOf
    rw [cmdWords_self, atoi_fmtInt h_id]

theorem take_concat_take (w : CStr) (c : Char) (n : ℕ) :
    (w.take n ++ [c]).take n = (w ++ [c]).take n := by
  rcases Nat.lt_or_ge w.length n with h_lt | h_le
  · rw [List.take_of_length_le h_lt.le]
  · rw [List.take_append_of_le_length h_le, List.take_append_of_le_length (by simpa using h_le),
      List.take_take, Nat.min_self]

/-- **A FEEDBACK line that may be cut** is received without its action, and is then incomplete, or
with a rest of its action, and formatting these words again gives the line that was received. -/
theorem feedbackOf_sent {mod target action : CStr} {cmdid : ℤ} (h_mod : IsText mod)
    (h_fits : mod.length ≤ 15) (h_id : InInt cmdid) (h_target : IsText target)
    (h_action : IsText action) {data : CStr}
    (h_data : (snprintf 256 (feedbackLine mod cmdid target action)).str = data) :
    feedbackOf (lineTokens (datagramLine data)) = none ∨
      ∃ a, feedbackOf (lineTokens (datagramLine data)) = some ⟨mod, cmdid, target, a⟩ ∧
        (snprintf 256 (feedbackLine mod cmdid target a)).str = data := by
  let head := cmdHead mod "FEEDBACK".toList cmdid
  -- the buffer has room for the head and `n` more characters
  obtain ⟨n, h_room, h_n⟩ : ∃ n, 255 = head.length + 1 + n ∧ 0 < n := by
    have h_len : head.length = mod.length + 8 + (fmtInt cmdid).length + 2 :=
      length_cmdHead mod "FEEDBACK".toList cmdid
    have h_num := length_fmtInt_le h_id
    exact ⟨254 - head.length, by omega, by omega⟩
  have h_sent : ∀ a, (snprintf 256 (feedbackLine mod cmdid target a)).str
      = head ++ ' ' :: (target ++ ' ' :: (a ++ ['\n'])).take n := by
    intro a
    rw [snprintf_str, feedbackLine_eq]
    show List.take 255 (head ++ _) = _
    rw [h_room, take_append_blank]
  have h_words : lineTokens (datagramLine data) = mod :: "FEEDBACK".toList :: fmtInt cmdid ::
      lineTokens ((target ++ ' ' :: (action ++ ['\n'])).take n) := by
    rw [← h_data, feedbackLine_eq]
    refine lineTokens_sent_head h_mod (by decide) ?_ h_room
    rw [List.mem_append, List.mem_cons, List.mem_append, List.mem_singleton]
    rintro (h_mem | h_mem | h_mem | h_mem)
    · exact h_target.2 h_mem
    · exact absurd h_mem (by decide)
    · exact h_action.2 h_mem
    · exact absurd h_mem (by decide)
  rw [h_words]
  rcases Nat.lt_or_ge target.length n with h_lt | h_le
  · -- the target is whole, and `k` characters are left for the action
    obtain ⟨k, rfl⟩ := Nat.exists_eq_add_of_lt h_lt
    rw [Nat.add_right_comm, take_append_blank, lineTokens_append_blank, lineTokens_word h_target]
    rcases Nat.eq_zero_or_pos k with rfl | h_k
    · -- the cut falls right behind the blank
      exact Or.inl rfl
    · rw [lineTokens_take_last h_action h_k]
      refine Or.inr ⟨action.take k, ?_, ?_⟩
      · unfold feedbackOf
        rw [List.singleton_append, cmdWords_self, atoi_fmtInt h_id]
      · rw [← h_data, h_sent, h_sent, Nat.add_right_comm, take_append_blank, take_append_blank,
          take_concat_take]
  · -- the cut falls into the target
    rw [List.take_append_of_le_length h_le, lineTokens_word (h_target.take h_n)]
    exact Or.inl rfl

end DoorSystem
