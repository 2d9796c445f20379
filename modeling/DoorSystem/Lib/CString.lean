import Mathlib.Data.List.TakeWhile
import Mathlib.Tactic

/-!
# C strings, bounded buffers and `strtok_r`

The part of `<string.h>` and `<stdio.h>` that line-oriented C programs lean on, over lists of
characters. A C string is the list of the bytes before its terminating NUL, each byte written as
the character of that code.

* `CharBuf n` is a `char buf[n]` that holds a NUL-terminated string. The terminator takes one of
  the `n` bytes, so the string is shorter than `n`; the bound is a field, and `snprintf` is the
  only way a string gets in.
* A string that does not fit is cut. A word with room to spare is still told from every other string
  in the buffer, cut or not (`snprintf_str_eq_iff`).
* `strncmpEq n a b` is `strncmp(a, b, n) == 0`. Against a string that sits in a `CharBuf n` it is
  equality (`CharBuf.strncmpEq_iff`), because the terminator is compared too.
* `tokens delim s` is the list of the tokens that successive calls of `strtok_r` return.
  `strtok_r` itself is one call, and `tokens_eq` says that the list is obtained by iterating it.
* `strchr` and `strstr` look for the first occurrence of a character or of a text.
* `tokens_append_delim` splits the token list at a delimiter, and `tokens_spaced` reads back the
  words of a line that was formatted with single blanks.
-/

namespace CLib

/-- A C string: the bytes before the terminating NUL. -/
abbrev CStr := List Char

/-! ### Up to a character -/

section UpTo

variable {c : Char} {a : CStr}

theorem not_mem_takeWhile_ne (s : CStr) : c ∉ s.takeWhile (fun x => x ≠ c) := by
  intro h_mem
  have h_ne := List.mem_takeWhile_imp h_mem
  exact of_decide_eq_true h_ne rfl

theorem takeWhile_ne_of_not_mem (h : c ∉ a) : a.takeWhile (fun x => x ≠ c) = a :=
  List.takeWhile_eq_self_iff.mpr fun _ h_x => decide_eq_true (ne_of_mem_of_not_mem h_x h)

theorem dropWhile_ne_of_not_mem (h : c ∉ a) : a.dropWhile (fun x => x ≠ c) = [] :=
  List.dropWhile_eq_nil_iff.mpr fun _ h_x => decide_eq_true (ne_of_mem_of_not_mem h_x h)

theorem takeWhile_ne_append_cons (h : c ∉ a) (b : CStr) :
    (a ++ c :: b).takeWhile (fun x => x ≠ c) = a := by
  rw [List.takeWhile_append_of_pos fun _ h_x => decide_eq_true (ne_of_mem_of_not_mem h_x h),
    List.takeWhile_cons_of_neg (by simp), List.append_nil]

theorem dropWhile_ne_append_cons (h : c ∉ a) (b : CStr) :
    (a ++ c :: b).dropWhile (fun x => x ≠ c) = c :: b := by
  rw [List.dropWhile_append_of_pos fun _ h_x => decide_eq_true (ne_of_mem_of_not_mem h_x h),
    List.dropWhile_cons_of_neg (by simp)]

end UpTo

/-! ### NUL -/

/-- The C string that starts at the first byte of `bytes`: everything before the first NUL. -/
def cstr (bytes : List Char) : CStr := bytes.takeWhile (fun c => c ≠ Char.ofNat 0)

theorem cstr_of_noNul {s : List Char} (h : Char.ofNat 0 ∉ s) : cstr s = s :=
  takeWhile_ne_of_not_mem h

theorem noNul_cstr (bytes : List Char) : Char.ofNat 0 ∉ cstr bytes := not_mem_takeWhile_ne bytes

/-! ### Character buffers -/

/-- A `char buf[n]` that holds a NUL-terminated string. -/
structure CharBuf (n : ℕ) where
  /-- The string in the buffer. -/
  str : CStr
  /-- The terminator needs a byte of its own. -/
  fits : str.length < n
deriving DecidableEq

/-- `snprintf(buf, n, "%s", s)`: the longest prefix of `s` that leaves room for the terminator. -/
def snprintf (n : ℕ) [NeZero n] (s : CStr) : CharBuf n where
  str := s.take (n - 1)
  fits := by
    have h_pos : 0 < n := Nat.pos_of_ne_zero (NeZero.ne n)
    rw [List.length_take]
    omega

/-- `strncat(buf, s, sizeof(buf) - strlen(buf) - 1)`: append as much of `s` as fits. -/
def strncat {n : ℕ} [NeZero n] (buf : CharBuf n) (s : CStr) : CharBuf n :=
  snprintf n (buf.str ++ s)

/-- A buffer that `memset` has cleared holds the empty string. -/
def CharBuf.zero (n : ℕ) [NeZero n] : CharBuf n := snprintf n []

section CharBuf

variable {n : ℕ}

theorem CharBuf.ext {a b : CharBuf n} (h : a.str = b.str) : a = b := by
  cases a
  cases b
  simp only at h
  subst h
  rfl

theorem CharBuf.ext_iff {a b : CharBuf n} : a = b ↔ a.str = b.str :=
  ⟨fun h => by rw [h], CharBuf.ext⟩

variable [NeZero n]

@[simp] theorem snprintf_str (s : CStr) : (snprintf n s).str = s.take (n - 1) := rfl

@[simp] theorem CharBuf.zero_str : (CharBuf.zero n).str = [] := by simp [CharBuf.zero]

/-- A string that fits is stored whole. -/
theorem snprintf_of_fits {s : CStr} (h : s.length < n) : (snprintf n s).str = s := by
  rw [snprintf_str, List.take_of_length_le (by omega)]

/-- A word that leaves a byte of the buffer free is told there from every other string: one that
had to be cut fills the buffer. -/
theorem snprintf_str_eq_iff {v : CStr} (h : v.length + 1 < n) (s : CStr) :
    (snprintf n s).str = v ↔ s = v := by
  rw [snprintf_str]
  constructor
  · intro h_eq
    have h_len : (s.take (n - 1)).length = v.length := congrArg List.length h_eq
    rw [List.length_take] at h_len
    have h_whole : s.take (n - 1) = s := List.take_of_length_le (by omega)
    rw [← h_eq, h_whole]
  · rintro rfl
    exact List.take_of_length_le (by omega)

end CharBuf

/-! ### Comparison -/

/-- `strncmp(a, b, n) == 0`: equality of what stands in the first `n` bytes, where a string that
is shorter is told from a longer one by its terminator. -/
def strncmpEq (n : ℕ) (a b : CStr) : Bool := a.take n == b.take n

/-- `strncmp` over the whole of a buffer is equality: a string that agrees with the buffer up to
its terminator has the terminator in the same place. -/
theorem CharBuf.strncmpEq_iff {n : ℕ} (a : CharBuf n) (s : CStr) :
    strncmpEq n a.str s = true ↔ a.str = s := by
  have h_fits := a.fits
  unfold strncmpEq
  rw [beq_iff_eq, List.take_of_length_le (by omega : a.str.length ≤ n)]
  constructor
  · intro h
    -- the first `n` bytes of `s` include its terminator, so nothing of `s` is left out
    have h_len : s.length < n := by
      have h1 : (s.take n).length < n := by
        rw [← h]
        exact h_fits
      rw [List.length_take] at h1
      omega
    rw [h, List.take_of_length_le (by omega)]
  · rintro rfl
    rw [List.take_of_length_le (by omega)]

/-! ### Searching -/

/-- `strchr(s, c)`, as the text before the first `c` and the text behind it. -/
def strchr (c : Char) : CStr → Option (CStr × CStr)
  | [] => none
  | x :: s =>
    if x = c then some ([], s)
    else (strchr c s).map (fun p => (x :: p.1, p.2))

/-- `strstr(s, pat) + strlen(pat)`: the text behind the first occurrence of `pat`. -/
def strstr (pat : CStr) : CStr → Option CStr
  | [] => if pat = [] then some [] else none
  | x :: s => if pat.isPrefixOf (x :: s) then some ((x :: s).drop pat.length) else strstr pat s

/-- `strchr` cuts at the first `c` and nowhere else. -/
theorem strchr_eq_some_iff {c : Char} {s a b : CStr} :
    strchr c s = some (a, b) ↔ s = a ++ c :: b ∧ c ∉ a := by
  constructor
  · -- along the string: the character is the first, or it is found in the rest
    intro h
    induction s generalizing a with
    | nil => exact absurd h (by simp [strchr])
    | cons x s ih =>
      unfold strchr at h
      split_ifs at h with h_x
      · obtain ⟨rfl, rfl⟩ := Prod.mk.inj (Option.some.inj h)
        rw [h_x]
        exact ⟨rfl, List.not_mem_nil⟩
      · obtain ⟨⟨a', b'⟩, h_rest, h_eq⟩ := Option.map_eq_some_iff.mp h
        obtain ⟨rfl, rfl⟩ := Prod.mk.inj h_eq
        obtain ⟨rfl, h_a⟩ := ih h_rest
        exact ⟨rfl, List.not_mem_cons_of_ne_of_not_mem (Ne.symm h_x) h_a⟩
  · -- along what stands before the character
    rintro ⟨rfl, h_a⟩
    induction a with
    | nil => exact if_pos rfl
    | cons x a ih =>
      show strchr c (x :: (a ++ c :: b)) = _
      unfold strchr
      rw [if_neg (List.ne_of_not_mem_cons h_a).symm, ih (List.not_mem_of_not_mem_cons h_a)]
      rfl

theorem strchr_eq_none_iff {c : Char} {s : CStr} : strchr c s = none ↔ c ∉ s := by
  induction s with
  | nil => simp [strchr]
  | cons x s ih =>
    unfold strchr
    rw [List.mem_cons, not_or]
    by_cases h_x : x = c
    · rw [if_pos h_x]
      exact iff_of_false (Option.some_ne_none _) (fun h => h.1 h_x.symm)
    · rw [if_neg h_x, Option.map_eq_none_iff, ih]
      exact ⟨fun h => ⟨Ne.symm h_x, h⟩, fun h => h.2⟩

/-- What `strstr` finds is the end of the string. -/
theorem suffix_of_strstr {pat s t : CStr} (h : strstr pat s = some t) : t <:+ s := by
  induction s with
  | nil =>
    unfold strstr at h
    split_ifs at h
    exact Option.some.inj h ▸ List.suffix_rfl
  | cons x s ih =>
    unfold strstr at h
    split_ifs at h
    · rw [← Option.some.inj h]
      exact List.drop_suffix _ _
    · exact (ih h).trans (List.suffix_cons x s)

/-! ### Tokens -/

section Tokens

variable {delim : Char → Bool}

/-- One call of `strtok_r`: skip delimiters, then cut the token off at the next delimiter, which
is overwritten. `none` when only delimiters are left. -/
def strtok_r (delim : Char → Bool) (s : CStr) : Option (CStr × CStr) :=
  match s.dropWhile delim with
  | [] => none
  | c :: cs => some ((c :: cs).takeWhile (fun c => !delim c),
      ((c :: cs).dropWhile (fun c => !delim c)).tail)

/-- The tokens that successive calls of `strtok_r` return. -/
def tokens (delim : Char → Bool) (s : CStr) : List CStr :=
  (s.splitOnP delim).filter (fun w => !w.isEmpty)

/-- A word that `strtok_r` can return: it is not empty and holds no delimiter. -/
def IsToken (delim : Char → Bool) (w : CStr) : Prop :=
  w ≠ [] ∧ ∀ c ∈ w, delim c = false

instance (w : CStr) : Decidable (IsToken delim w) :=
  -- over the characters of the word, not over all characters
  have : Decidable (∀ c ∈ w, delim c = false) := List.decidableBAll _ w
  inferInstanceAs (Decidable (w ≠ [] ∧ ∀ c ∈ w, delim c = false))

@[simp] theorem tokens_nil : tokens delim [] = [] := by simp [tokens]

/-- The token list of two pieces with a delimiter between them. -/
theorem tokens_append_delim {a b : CStr} {d : Char} (hd : delim d = true) :
    tokens delim (a ++ d :: b) = tokens delim a ++ tokens delim b := by
  unfold tokens
  rw [List.splitOnP_append_cons a b hd, List.filter_append]

theorem tokens_cons_delim {b : CStr} {d : Char} (hd : delim d = true) :
    tokens delim (d :: b) = tokens delim b := by
  have h : tokens delim ([] ++ d :: b) = tokens delim [] ++ tokens delim b :=
    tokens_append_delim hd
  simpa using h

/-- Delimiters alone hold no token. -/
theorem tokens_of_forall_delim {s : CStr} (h : ∀ c ∈ s, delim c = true) : tokens delim s = [] := by
  induction s with
  | nil => exact tokens_nil
  | cons c s ih =>
    rw [tokens_cons_delim (h c List.mem_cons_self)]
    exact ih (fun d h_d => h d (List.mem_cons_of_mem c h_d))

/-- Delimiters at the end make no token. -/
theorem tokens_append_of_forall_delim (a : CStr) {b : CStr} (h : ∀ c ∈ b, delim c = true) :
    tokens delim (a ++ b) = tokens delim a := by
  cases b with
  | nil => rw [List.append_nil]
  | cons d b =>
    rw [tokens_append_delim (h d List.mem_cons_self),
      tokens_of_forall_delim (fun c h_c => h c (List.mem_cons_of_mem d h_c)), List.append_nil]

/-- Delimiters in front make no token. -/
theorem tokens_dropWhile (s : CStr) : tokens delim (s.dropWhile delim) = tokens delim s := by
  induction s with
  | nil => rfl
  | cons c s ih =>
    by_cases h_c : delim c = true
    · rw [List.dropWhile_cons_of_pos h_c, ih, tokens_cons_delim h_c]
    · rw [List.dropWhile_cons_of_neg h_c]

/-- A word without delimiters is its own only token. -/
theorem tokens_token {w : CStr} (hw : IsToken delim w) : tokens delim w = [w] := by
  unfold tokens
  rw [List.splitOnP_eq_singleton hw.2]
  have h_ne : w.isEmpty = false := by
    rw [List.isEmpty_eq_false_iff]
    exact hw.1
  simp [h_ne]

theorem forall_mem_splitOnP (s : CStr) :
    ∀ w ∈ s.splitOnP delim, ∀ c ∈ w, delim c = false ∧ c ∈ s := by
  induction s with
  | nil => simp
  | cons x xs ih =>
    have ih' : ∀ w ∈ xs.splitOnP delim, ∀ c ∈ w, delim c = false ∧ c ∈ x :: xs :=
      fun w hw c hc => ⟨(ih w hw c hc).1, List.mem_cons_of_mem _ (ih w hw c hc).2⟩
    rw [List.splitOnP_cons_eq_if_modifyHead]
    split
    · -- the delimiter opens an empty piece
      intro w hw c hc
      rcases List.mem_cons.mp hw with rfl | hw
      · simp at hc
      · exact ih' w hw c hc
    · -- `x` joins the first piece
      next hx =>
      intro w hw c hc
      obtain ⟨p, ps, h_split⟩ := List.exists_cons_of_ne_nil (List.splitOnP_ne_nil delim xs)
      rw [h_split, List.modifyHead_cons] at hw
      rcases List.mem_cons.mp hw with rfl | hw
      · rcases List.mem_cons.mp hc with rfl | hc
        · exact ⟨Bool.eq_false_iff.mpr hx, List.mem_cons_self⟩
        · exact ih' p (by rw [h_split]; exact List.mem_cons_self) c hc
      · exact ih' w (by rw [h_split]; exact List.mem_cons_of_mem _ hw) c hc

/-- Every token of a line is a token. -/
theorem isToken_of_mem_tokens {s w : CStr} (h : w ∈ tokens delim s) : IsToken delim w := by
  obtain ⟨h_mem, h_ne⟩ := List.mem_filter.mp h
  refine ⟨?_, fun c hc => (forall_mem_splitOnP s w h_mem c hc).1⟩
  rintro rfl
  simp at h_ne

/-- Tokens are made of the characters of the line. -/
theorem mem_of_mem_tokens {s w : CStr} (h : w ∈ tokens delim s) {c : Char} (hc : c ∈ w) :
    c ∈ s :=
  (forall_mem_splitOnP s w (List.mem_filter.mp h).1 c hc).2

theorem length_le_of_mem_splitOnP (s : CStr) : ∀ w ∈ s.splitOnP delim, w.length ≤ s.length := by
  induction s with
  | nil => simp
  | cons x xs ih =>
    rw [List.splitOnP_cons_eq_if_modifyHead]
    intro w hw
    rw [List.length_cons]
    split at hw
    · -- the delimiter opens an empty piece
      rcases List.mem_cons.mp hw with rfl | hw
      · exact Nat.zero_le _
      · exact (ih w hw).trans (Nat.le_succ _)
    · -- `x` joins the first piece
      obtain ⟨p, ps, h_split⟩ := List.exists_cons_of_ne_nil (List.splitOnP_ne_nil delim xs)
      rw [h_split, List.modifyHead_cons] at hw
      rcases List.mem_cons.mp hw with rfl | hw
      · exact Nat.succ_le_succ (ih p (by rw [h_split]; exact List.mem_cons_self))
      · exact (ih w (by rw [h_split]; exact List.mem_cons_of_mem _ hw)).trans (Nat.le_succ _)

/-- A token is no longer than the line. -/
theorem length_le_of_mem_tokens {s w : CStr} (h : w ∈ tokens delim s) : w.length ≤ s.length :=
  length_le_of_mem_splitOnP s w (List.mem_filter.mp h).1

/-- The pieces of a line have all its characters but the delimiters between them. -/
theorem sum_length_splitOnP (s : CStr) :
    ((s.splitOnP delim).map (fun w => w.length + 1)).sum = s.length + 1 := by
  induction s with
  | nil => simp
  | cons x xs ih =>
    rw [List.splitOnP_cons_eq_if_modifyHead]
    split
    · -- the delimiter opens an empty piece
      rw [List.map_cons, List.sum_cons, ih, List.length_nil, List.length_cons]
      omega
    · -- `x` joins the first piece
      obtain ⟨p, ps, h_split⟩ := List.exists_cons_of_ne_nil (List.splitOnP_ne_nil delim xs)
      rw [h_split, List.map_cons, List.sum_cons] at ih
      rw [h_split, List.modifyHead_cons, List.map_cons, List.sum_cons, List.length_cons,
        List.length_cons]
      omega

theorem sum_length_tokens_le (s : CStr) :
    ((tokens delim s).map (fun w => w.length + 1)).sum ≤ s.length + 1 := by
  have h_all : ((s.splitOnP delim).map (fun w => w.length + 1)).sum = s.length + 1 :=
    sum_length_splitOnP s
  rw [← h_all]
  exact (List.Sublist.map _ List.filter_sublist).sum_le_sum (fun _ _ => Nat.zero_le _)

/-- Iterating `strtok_r` yields the token list. -/
theorem tokens_eq (s : CStr) :
    tokens delim s = match strtok_r delim s with
      | none => []
      | some (t, rest) => t :: tokens delim rest := by
  induction s with
  | nil => simp [strtok_r]
  | cons x xs ih =>
    by_cases hx : delim x = true
    · -- a leading delimiter is skipped by both sides
      rw [tokens_cons_delim hx, ih]
      have h_skip : strtok_r delim (x :: xs) = strtok_r delim xs := by
        unfold strtok_r
        rw [List.dropWhile_cons_of_pos hx]
      rw [h_skip]
    · have hx' : delim x = false := Bool.eq_false_iff.mpr hx
      have h_head : strtok_r delim (x :: xs)
          = some ((x :: xs).takeWhile (fun c => !delim c),
              ((x :: xs).dropWhile (fun c => !delim c)).tail) := by
        unfold strtok_r
        rw [List.dropWhile_cons_of_neg hx]
      rw [h_head]
      -- split the line at the end of its first token
      have h_word : IsToken delim ((x :: xs).takeWhile (fun c => !delim c)) := by
        refine ⟨by simp [hx'], fun c hc => ?_⟩
        have h_take := List.mem_takeWhile_imp hc
        simpa using h_take
      have h_cut := List.takeWhile_append_dropWhile (p := fun c => !delim c) (l := x :: xs)
      cases h_rest : (x :: xs).dropWhile (fun c => !delim c) with
      | nil =>
        -- the token is the rest of the line
        rw [h_rest, List.append_nil] at h_cut
        rw [h_cut] at h_word ⊢
        simp [tokens_token h_word]
      | cons d rest =>
        -- the token ends at the delimiter `d`, and `rest` is cut up next
        have hd : delim d = true := by
          have h_not := List.head_dropWhile_not (fun c => !delim c) (l := x :: xs)
            (by rw [h_rest]; simp)
          simp only [h_rest, List.head_cons] at h_not
          simpa using h_not
        rw [h_rest] at h_cut
        conv_lhs => rw [← h_cut]
        rw [tokens_append_delim hd, tokens_token h_word]
        rfl

/-! ### Lines of words -/

/-- The words of `ws` with single blanks between them. -/
def spaced (ws : List CStr) : CStr := [' '].intercalate ws

theorem spaced_cons_cons (w w' : CStr) (ws : List CStr) :
    spaced (w :: w' :: ws) = w ++ ' ' :: spaced (w' :: ws) := by
  simp [spaced, List.intercalate]

@[simp] theorem spaced_singleton (w : CStr) : spaced [w] = w := by
  simp [spaced, List.intercalate]

theorem length_spaced {ws : List CStr} (h_ne : ws ≠ []) :
    (spaced ws).length + 1 = (ws.map (fun w => w.length + 1)).sum := by
  induction ws with
  | nil => exact absurd rfl h_ne
  | cons w ws ih =>
    cases ws with
    | nil => simp
    | cons w' ws =>
      rw [spaced_cons_cons, List.length_append, List.length_cons, List.map_cons, List.sum_cons,
        ← ih (by simp)]
      omega

/-- A word is put behind a line with a blank in between. -/
theorem spaced_concat {ws : List CStr} (h_ne : ws ≠ []) (w : CStr) :
    spaced (ws ++ [w]) = spaced ws ++ ' ' :: w := by
  induction ws with
  | nil => exact absurd rfl h_ne
  | cons v ws ih =>
    cases ws with
    | nil =>
      rw [List.singleton_append, spaced_cons_cons, spaced_singleton, spaced_singleton]
    | cons v' ws =>
      rw [List.cons_append, List.cons_append, spaced_cons_cons, ← List.cons_append, ih (by simp),
        spaced_cons_cons, List.append_assoc, List.cons_append]

/-- A line of words is empty only when it has none. -/
theorem spaced_eq_nil_iff {ws : List CStr} (hws : ∀ w ∈ ws, w ≠ []) :
    spaced ws = [] ↔ ws = [] := by
  constructor
  · intro h_nil
    cases ws with
    | nil => rfl
    | cons w ws =>
      have h_w : 0 < w.length := List.length_pos_of_ne_nil (hws w List.mem_cons_self)
      have h_len := length_spaced (List.cons_ne_nil w ws)
      rw [h_nil, List.map_cons, List.sum_cons, List.length_nil] at h_len
      omega
  · rintro rfl
    rfl

/-- More words make a longer line. -/
theorem length_spaced_le_append (ws ws' : List CStr) :
    (spaced ws).length ≤ (spaced (ws ++ ws')).length := by
  cases ws with
  | nil => exact Nat.zero_le _
  | cons w ws =>
    have h_len := length_spaced (List.cons_ne_nil w ws)
    have h_len' := length_spaced (List.cons_ne_nil w (ws ++ ws'))
    rw [← List.cons_append, List.map_append, List.sum_append] at h_len'
    omega

/-- A line of words with a newline loses nothing but the newline, when there is room for the
words. -/
theorem snprintf_spaced {n : ℕ} [NeZero n] {ws : List CStr} (h : (spaced ws).length < n) :
    (snprintf n (spaced ws ++ ['\n'])).str = spaced ws ∨
      (snprintf n (spaced ws ++ ['\n'])).str = spaced ws ++ ['\n'] := by
  rcases Nat.lt_or_eq_of_le (Nat.succ_le_of_lt h) with h_lt | h_eq
  · refine Or.inr (snprintf_of_fits ?_)
    rw [List.length_append, List.length_singleton]
    exact h_lt
  · left
    rw [snprintf_str, List.take_append_of_le_length (by omega), List.take_of_length_le (by omega)]

theorem not_mem_spaced {c : Char} (h_c : c ≠ ' ') {ws : List CStr} (hws : ∀ w ∈ ws, c ∉ w) :
    c ∉ spaced ws := by
  induction ws with
  | nil => simp [spaced, List.intercalate]
  | cons w ws ih =>
    cases ws with
    | nil => simpa using hws
    | cons w' ws =>
      rw [spaced_cons_cons, List.mem_append, List.mem_cons]
      rintro (h_mem | h_mem | h_mem)
      · exact hws w List.mem_cons_self h_mem
      · exact h_c h_mem
      · exact ih (fun v hv => hws v (List.mem_cons_of_mem _ hv)) h_mem

/-- The words of a formatted line are read back one by one. A field that is empty or that holds
delimiters contributes its own tokens. -/
theorem tokens_spaced (hb : delim ' ' = true) (ws : List CStr) :
    tokens delim (spaced ws) = ws.flatMap (tokens delim) := by
  induction ws with
  | nil => simp [spaced, List.intercalate]
  | cons w ws ih =>
    cases ws with
    | nil => simp
    | cons w' ws =>
      rw [spaced_cons_cons, tokens_append_delim hb, ih]
      simp

/-- The tokens of a line, joined by single blanks, are no longer than the line. -/
theorem length_spaced_tokens_le (s : CStr) : (spaced (tokens delim s)).length ≤ s.length := by
  have h_sum : ((tokens delim s).map (fun w => w.length + 1)).sum ≤ s.length + 1 :=
    sum_length_tokens_le s
  rcases eq_or_ne (tokens delim s) [] with h_nil | h_ne
  · rw [h_nil]
    exact Nat.zero_le _
  · have h_len := length_spaced h_ne
    omega

/-- A line of tokens that ends in a newline is read back as these tokens. -/
theorem tokens_spaced_line (hb : delim ' ' = true) (hn : delim '\n' = true) {ws : List CStr}
    (hws : ∀ w ∈ ws, IsToken delim w) :
    tokens delim (spaced ws ++ ['\n']) = ws := by
  rw [tokens_append_delim hn, tokens_spaced hb, tokens_nil, List.append_nil]
  induction ws with
  | nil => rfl
  | cons w ws ih =>
    rw [List.flatMap_cons, tokens_token (hws w List.mem_cons_self),
      ih (fun w' hw' => hws w' (List.mem_cons_of_mem _ hw'))]
    rfl

end Tokens

end CLib
