import DoorSystem.Lib.Json
import Mathlib.Data.List.Infix

/-!
# JSON objects that are written without escapes

`writeObject` prints members as `printf` templates do: texts between quotes as they are, truth
values and numbers. The document reads back with these texts exactly if each of them is storable:
UTF-8 without quotes, backslashes and control characters (`isObject_writeObject_iff`).

The argument for one string: an escaped quote in the source of a string stands for a quote further
left in its text. If the text is the start of its own source, the first quote of the text would
come from a still earlier one, so there is none, and the source ends where the text does.
-/

namespace CLib

namespace Json

/-! ### Characters of a string -/

/-- `raw` is written between quotes, `text` is read. -/
inductive Denotes : CStr → CStr → Prop
  | nil : Denotes [] []
  | plain {c : Char} {raw text : CStr} (h_c : isPlain c = true) (h : Denotes raw text) :
      Denotes (c :: raw) (c :: text)
  /-- An escape is longer than its text, and has a quote in it only if it stands for one. -/
  | escaped {w u raw text : CStr} (h_len : u.length < w.length)
      (h_quote : '"' ∈ w → w = ['\\', '"'] ∧ u = ['"']) (h : Denotes raw text) :
      Denotes (w ++ raw) (u ++ text)

theorem length_utf8_le (c : Char) : (utf8 c).length ≤ 4 := by
  unfold utf8
  rw [List.length_map, String.length_utf8EncodeChar]
  exact Char.utf8Size_le_four c

theorem not_quote_of_hexDigit {c : Char} {n : ℕ} (h : hexDigit c = some n) : '"' ≠ c := by
  rintro rfl
  have h_none : hexDigit '"' = none := by decide
  rw [h_none] at h
  exact absurd h (by simp)

theorem readHex_eq_some {s s' : CStr} {n : ℕ} (h : readHex s = some (n, s')) :
    ∃ w, s = w ++ s' ∧ w.length = 4 ∧ '"' ∉ w := by
  unfold readHex at h
  split at h
  · next a b c d s =>
    split at h
    · next x y z w h_a h_b h_c h_d =>
      obtain ⟨-, rfl⟩ := Prod.mk.inj (Option.some.inj h)
      refine ⟨[a, b, c, d], rfl, rfl, ?_⟩
      simp only [List.mem_cons, List.not_mem_nil, or_false, not_or]
      exact ⟨not_quote_of_hexDigit h_a, not_quote_of_hexDigit h_b, not_quote_of_hexDigit h_c,
        not_quote_of_hexDigit h_d⟩
    · exact absurd h (by simp)
  · exact absurd h (by simp)

/-- A code unit or a pair of surrogates has no quote in it, and is longer than its bytes. -/
theorem readUnicode_eq_some {s s' u : CStr} (h : readUnicode s = some (u, s')) :
    ∃ w, s = w ++ s' ∧ u.length ≤ w.length ∧ '"' ∉ w := by
  unfold readUnicode at h
  split at h
  · exact absurd h (by simp)
  · next n s₁ h_hex =>
    obtain ⟨w, rfl, h_len, h_w⟩ := readHex_eq_some h_hex
    split_ifs at h with h_high h_low
    · -- a high half: a second escape has to follow
      split at h
      · next s₂ =>
        split at h
        · next m s₃ h_hex' =>
          obtain ⟨w', rfl, h_len', h_w'⟩ := readHex_eq_some h_hex'
          split_ifs at h with h_pair
          obtain ⟨rfl, rfl⟩ := Prod.mk.inj (Option.some.inj h)
          refine ⟨w ++ '\\' :: 'u' :: w', by simp, ?_, ?_⟩
          · refine (length_utf8_le _).trans ?_
            rw [List.length_append]
            omega
          · simp only [List.mem_append, List.mem_cons, not_or]
            exact ⟨h_w, by decide, by decide, h_w'⟩
        · exact absurd h (by simp)
      · exact absurd h (by simp)
    · -- one escape alone
      obtain ⟨rfl, rfl⟩ := Prod.mk.inj (Option.some.inj h)
      exact ⟨w, rfl, (length_utf8_le _).trans (by omega), h_w⟩

/-- One character. -/
theorem readItem_eq_some {s s' u : CStr} (h : readItem s = some (u, s')) :
    (∃ c, isPlain c = true ∧ u = [c] ∧ s = c :: s') ∨
      ∃ w, s = w ++ s' ∧ u.length < w.length ∧ ('"' ∈ w → w = ['\\', '"'] ∧ u = ['"']) := by
  unfold readItem at h
  split at h
  · next s =>
    -- a `u` escape
    obtain ⟨w, rfl, h_len, h_w⟩ := readUnicode_eq_some h
    refine Or.inr ⟨'\\' :: 'u' :: w, rfl, ?_, fun h_mem => ?_⟩
    · simp only [List.length_cons]
      omega
    · simp only [List.mem_cons] at h_mem
      rcases h_mem with h_c | h_c | h_c
      · exact absurd h_c (by decide)
      · exact absurd h_c (by decide)
      · exact absurd h_c h_w
  · next e s h_e =>
    -- an escape of one letter, which may stand for a quote
    obtain ⟨c, h_c, h_eq⟩ := Option.map_eq_some_iff.mp h
    obtain ⟨rfl, rfl⟩ := Prod.mk.inj h_eq
    refine Or.inr ⟨['\\', e], rfl, by simp, fun h_mem => ?_⟩
    simp only [List.mem_cons, List.not_mem_nil, or_false] at h_mem
    rcases h_mem with h_q | rfl
    · exact absurd h_q (by decide)
    · obtain rfl : '"' = c := Option.some.inj h_c
      exact ⟨rfl, rfl⟩
  · next c s h_u h_esc =>
    -- no escape
    split_ifs at h with h_plain
    obtain ⟨rfl, rfl⟩ := Prod.mk.inj (Option.some.inj h)
    exact Or.inl ⟨c, h_plain, rfl, rfl⟩
  · exact absurd h (by simp)

/-- What the reader takes between the quotes. -/
theorem readChars_eq_some {n : ℕ} {s text rest : CStr} (h : readChars n s = some (text, rest)) :
    ∃ raw, s = raw ++ '"' :: rest ∧ Denotes raw text := by
  induction n generalizing s text with
  | zero => exact absurd h (by simp [readChars])
  | succ n ih =>
    unfold readChars at h
    split at h
    · -- the closing quote
      obtain ⟨rfl, rfl⟩ := Prod.mk.inj (Option.some.inj h)
      exact ⟨[], rfl, .nil⟩
    · split at h
      · next u s₁ h_item =>
        obtain ⟨⟨text₁, rest₁⟩, h_rest, h_eq⟩ := Option.map_eq_some_iff.mp h
        obtain ⟨rfl, rfl⟩ := Prod.mk.inj h_eq
        obtain ⟨raw, rfl, h_raw⟩ := ih h_rest
        rcases readItem_eq_some h_item with ⟨c, h_c, rfl, rfl⟩ | ⟨w, rfl, h_len, h_quote⟩
        · exact ⟨c :: raw, rfl, .plain h_c h_raw⟩
        · exact ⟨w ++ raw, by simp, .escaped h_len h_quote h_raw⟩
      · exact absurd h (by simp)

namespace Denotes

variable {raw text : CStr}

theorem length_le (h : Denotes raw text) : text.length ≤ raw.length := by
  induction h with
  | nil => exact le_rfl
  | plain h_c h ih => exact Nat.succ_le_succ ih
  | escaped h_len h_quote h ih =>
    rw [List.length_append, List.length_append]
    omega

/-- A text as long as its source is written as it is. -/
theorem plain_of_length_le (h : Denotes raw text) (h_len : raw.length ≤ text.length) :
    ∀ c ∈ text, isPlain c = true := by
  induction h with
  | nil => exact fun c h_c => absurd h_c List.not_mem_nil
  | plain h_c h ih =>
    intro c h_mem
    rcases List.mem_cons.mp h_mem with rfl | h_mem
    · exact h_c
    · exact ih (Nat.le_of_succ_le_succ h_len) c h_mem
  | escaped h_w h_quote h ih =>
    rw [List.length_append, List.length_append] at h_len
    have h_le := h.length_le
    omega

/-- A quote in the source stands for a quote further left in the text. -/
theorem quote (h : Denotes raw text) (p : ℕ) (h_p : raw[p]? = some '"') :
    ∃ q < p, text[q]? = some '"' := by
  induction h generalizing p with
  | nil => exact absurd h_p (by simp)
  | @plain c raw text h_c h ih =>
    cases p with
    | zero =>
      obtain rfl : c = '"' := by simpa using h_p
      exact absurd h_c (by decide)
    | succ p =>
      obtain ⟨q, h_q, h_text⟩ := ih p (by simpa using h_p)
      exact ⟨q + 1, Nat.succ_lt_succ h_q, by simpa using h_text⟩
  | @escaped w u raw text h_len h_quote h ih =>
    -- the quote is in the escape, where it stands for one, or behind it
    by_cases h_in : p < w.length
    · rw [List.getElem?_append_left h_in] at h_p
      obtain ⟨rfl, rfl⟩ := h_quote (List.mem_of_getElem? h_p)
      cases p with
      | zero => exact absurd h_p (by decide)
      | succ p => exact ⟨0, Nat.succ_pos p, rfl⟩
    · rw [List.getElem?_append_right (not_lt.mp h_in)] at h_p
      obtain ⟨q, h_q, h_text⟩ := ih _ h_p
      refine ⟨u.length + q, by omega, ?_⟩
      rw [List.getElem?_append_right (by omega), Nat.add_sub_cancel_left]
      exact h_text

/-- A text that starts its own source has no quote. -/
theorem no_quote (h : Denotes raw text) (h_start : text <+: raw) (p : ℕ) :
    text[p]? ≠ some '"' := by
  induction p using Nat.strongRecOn with
  | ind p ih =>
    intro h_p
    obtain ⟨q, h_q, h_text⟩ := h.quote p (by
      obtain ⟨rest, rfl⟩ := h_start
      rw [List.getElem?_append_left (List.getElem?_eq_some_iff.mp h_p).1]
      exact h_p)
    exact ih q h_q h_text

end Denotes

/-- **Strings.** If a string that is written as it is reads back, it is plain, and the reader stops
at its closing quote. -/
theorem plain_of_readChars {n : ℕ} {text s rest : CStr}
    (h : readChars n (text ++ '"' :: s) = some (text, rest)) :
    (∀ c ∈ text, isPlain c = true) ∧ rest = s := by
  obtain ⟨raw, h_eq, h_raw⟩ := readChars_eq_some h
  have h_self : raw = text := by
    rcases List.append_eq_append_iff.mp h_eq with ⟨a, h_a, h_rest⟩ | ⟨a, h_a, h_rest⟩
    · -- the source is longer: it has the closing quote in it
      cases a with
      | nil => rw [h_a, List.append_nil]
      | cons c a =>
        obtain ⟨rfl, -⟩ := List.cons.inj h_rest
        obtain ⟨q, -, h_q⟩ := h_raw.quote text.length (by rw [h_a]; simp)
        exact absurd h_q (h_raw.no_quote ⟨_, h_a.symm⟩ q)
    · -- the source is shorter, as no text is
      have h_len := h_raw.length_le
      rw [h_a, List.length_append] at h_len
      have h_nil : a = [] := List.eq_nil_of_length_eq_zero (by omega)
      rw [h_a, h_nil, List.append_nil]
  subst h_self
  refine ⟨h_raw.plain_of_length_le le_rfl, ?_⟩
  exact ((List.cons.inj (List.append_cancel_left h_eq)).2).symm

theorem readItem_of_isPlain {c : Char} (h_c : isPlain c = true) (s : CStr) :
    readItem (c :: s) = some ([c], s) := by
  have h_slash : c ≠ '\\' := by
    rintro rfl
    exact absurd h_c (by decide)
  unfold readItem
  split
  · next h_eq => exact absurd (List.cons.inj h_eq).1 h_slash
  · next h_eq => exact absurd (List.cons.inj h_eq).1 h_slash
  · next c' s' _ _ h_eq =>
    obtain ⟨rfl, rfl⟩ := List.cons.inj h_eq
    exact if_pos h_c
  · next h_eq => exact absurd h_eq (by simp)

/-- A plain text is read back. -/
theorem readChars_of_plain {text : CStr} (h_text : ∀ c ∈ text, isPlain c = true) {n : ℕ}
    (h_n : text.length < n) (s : CStr) : readChars n (text ++ '"' :: s) = some (text, s) := by
  induction text generalizing n with
  | nil =>
    obtain ⟨n, rfl⟩ := Nat.exists_eq_add_one_of_ne_zero (Nat.ne_of_gt h_n)
    rfl
  | cons c text ih =>
    obtain ⟨n, rfl⟩ := Nat.exists_eq_add_one_of_ne_zero (Nat.ne_zero_of_lt h_n)
    have h_c := h_text c List.mem_cons_self
    have h_rest := ih (fun d h_d => h_text d (List.mem_cons_of_mem _ h_d))
      (Nat.lt_of_succ_lt_succ h_n)
    rw [List.cons_append]
    unfold readChars
    split
    · next h_eq =>
      -- a plain character is not the closing quote
      obtain rfl := (List.cons.inj h_eq).1
      exact absurd h_c (by decide)
    · rw [readItem_of_isPlain h_c]
      dsimp only
      rw [h_rest]
      rfl

/-! ### Numbers -/

/-- A number of one digit or more does not start with a zero. -/
theorem head_toDigits {n : ℕ} (h_n : n ≠ 0) : (Nat.toDigits 10 n).head? ≠ some '0' := by
  induction n using Nat.strongRecOn with
  | ind n ih =>
    by_cases h_small : n < 10
    · rw [Nat.toDigits_of_lt_base h_small]
      have h_digit : ∀ k < 10, k ≠ 0 → [k.digitChar].head? ≠ some '0' := by decide
      exact h_digit n h_small h_n
    · rw [Nat.toDigits_of_base_le (by norm_num) (by omega)]
      have h_head := ih (n / 10) (by omega) (by omega)
      obtain ⟨d, ds, h_cons⟩ :=
        List.exists_cons_of_ne_nil (Nat.toDigits_ne_nil (n := n / 10) (b := 10))
      rw [h_cons] at h_head ⊢
      exact h_head

theorem skipDigits_append {ds s : CStr} {c : Char} (h_ne : ds ≠ [])
    (h_ds : ∀ d ∈ ds, d.isDigit = true) (h_c : c.isDigit = false) :
    skipDigits (ds ++ c :: s) = some (c :: s) := by
  unfold skipDigits
  rw [List.takeWhile_append_of_pos h_ds, List.dropWhile_append_of_pos h_ds,
    List.takeWhile_cons_of_neg (by rw [h_c]; simp), List.dropWhile_cons_of_neg (by rw [h_c]; simp),
    List.append_nil, if_neg h_ne]

/-- A character that ends a value in an object. -/
def Ends (c : Char) : Prop := c = ',' ∨ c = '\x7d'

theorem skipInt_toDigits (n : ℕ) {c : Char} (h_c : c.isDigit = false) (s : CStr) :
    skipInt (Nat.toDigits 10 n ++ c :: s) = some (c :: s) := by
  have h_digits : ∀ d ∈ Nat.toDigits 10 n, d.isDigit = true :=
    fun d h_d => Nat.isDigit_of_mem_toDigits (by norm_num) (by norm_num) h_d
  rcases Nat.eq_zero_or_pos n with rfl | h_n
  · rfl
  · have h_head := head_toDigits (Nat.ne_of_gt h_n)
    have h_skip := skipDigits_append (s := s) Nat.toDigits_ne_nil h_digits h_c
    obtain ⟨d, ds, h_cons⟩ := List.exists_cons_of_ne_nil (Nat.toDigits_ne_nil (n := n) (b := 10))
    rw [h_cons] at h_head h_skip ⊢
    rw [List.cons_append] at h_skip ⊢
    unfold skipInt
    split
    · next h_eq =>
      obtain rfl := (List.cons.inj h_eq).1
      exact absurd rfl h_head
    · exact h_skip

/-- A decimal number is read up to its end. -/
theorem skipNumber_fmtInt (x : ℤ) {c : Char} (h_c : Ends c) (s : CStr) :
    skipNumber (fmtInt x ++ c :: s) = some (c :: s) := by
  have h_rest : (skipFraction (c :: s)).bind skipExponent = some (c :: s) := by
    rcases h_c with rfl | rfl <;> rfl
  have h_digit : c.isDigit = false := by rcases h_c with rfl | rfl <;> rfl
  cases x with
  | ofNat n =>
    unfold skipNumber
    dsimp only
    split
    · next s' h_eq =>
      -- no digit is a sign
      obtain ⟨d, ds, h_cons⟩ := List.exists_cons_of_ne_nil (Nat.toDigits_ne_nil (n := n) (b := 10))
      have h_d : d.isDigit = true :=
        Nat.isDigit_of_mem_toDigits (b := 10) (n := n) (by norm_num) (by norm_num)
          (by rw [h_cons]; exact List.mem_cons_self)
      change Nat.toDigits 10 n ++ c :: s = '-' :: s' at h_eq
      rw [h_cons] at h_eq
      obtain rfl := (List.cons.inj h_eq).1
      exact absurd h_d (by decide)
    · change (skipInt (Nat.toDigits 10 n ++ c :: s)).bind _ = _
      rw [skipInt_toDigits n h_digit]
      exact h_rest
  | negSucc n =>
    change (skipInt (Nat.toDigits 10 (n + 1) ++ c :: s)).bind _ = _
    rw [skipInt_toDigits (n + 1) h_digit]
    exact h_rest

/-! ### Written objects -/

/-- A value of a template. -/
inductive Slot
  | text (t : CStr)
  | bool (b : Bool)
  | int (x : ℤ)

/-- How the value is printed. -/
def Slot.write : Slot → CStr
  | .text t => '"' :: t ++ ['"']
  | .bool b => if b then "true".toList else "false".toList
  | .int x => fmtInt x

/-- What it should be read as. -/
def Slot.value : Slot → Value
  | .text t => .str t
  | .bool b => .bool b
  | .int x => .num (fmtInt x)

/-- `"key":value`. -/
def writeMember (m : CStr × Slot) : CStr := '"' :: m.1 ++ '"' :: ':' :: m.2.write

/-- The members with commas between them. -/
def writeMembers (ms : List (CStr × Slot)) : CStr := [','].intercalate (ms.map writeMember)

/-- The members in braces. -/
def writeObject (ms : List (CStr × Slot)) : CStr := '\x7b' :: writeMembers ms ++ ['\x7d']

/-- The members that are texts. -/
def texts (ms : List (CStr × Slot)) : List (CStr × CStr) :=
  ms.filterMap (fun m =>
    match m.2 with
    | .text t => some (m.1, t)
    | _ => none)

/-- A text that may be written between quotes as it is. -/
structure Storable (t : CStr) : Prop where
  plain : ∀ c ∈ t, isPlain c = true
  utf8 : IsUtf8 t

theorem writeMembers_singleton (m : CStr × Slot) : writeMembers [m] = writeMember m := by
  simp [writeMembers, List.intercalate]

theorem writeMembers_cons_cons (m m' : CStr × Slot) (ms : List (CStr × Slot)) :
    writeMembers (m :: m' :: ms) = writeMember m ++ ',' :: writeMembers (m' :: ms) := by
  simp [writeMembers, List.intercalate]

/-! ### Reading them back -/

theorem skipWs_of_not {c : Char} (h_c : isWs c = false) (s : CStr) : skipWs (c :: s) = c :: s :=
  List.dropWhile_cons_of_neg (by rw [h_c]; simp)

theorem exists_fmtInt (x : ℤ) : ∃ d ds, fmtInt x = d :: ds ∧ (d.isDigit = true ∨ d = '-') := by
  obtain ⟨d, ds, h_cons⟩ := List.exists_cons_of_ne_nil (fmtInt_ne_nil x)
  exact ⟨d, ds, h_cons, mem_fmtInt (x := x) (by rw [h_cons]; exact List.mem_cons_self)⟩

/-- No value starts with white space. -/
theorem skipWs_write (v : Slot) (s : CStr) : skipWs (v.write ++ s) = v.write ++ s := by
  cases v with
  | text t => rfl
  | bool b => cases b <;> rfl
  | int x =>
    -- a number begins with a digit or a minus
    obtain ⟨d, ds, h_cons, h_d⟩ := exists_fmtInt x
    have h_ws : isWs d = false := by
      rcases h_d with h_d | rfl
      · rw [Bool.eq_false_iff]
        intro h_ws
        unfold isWs at h_ws
        simp only [Bool.or_eq_true, decide_eq_true_eq] at h_ws
        rcases h_ws with ((rfl | rfl) | rfl) | rfl
        · exact absurd h_d (by decide)
        · exact absurd h_d (by decide)
        · exact absurd h_d (by decide)
        · exact absurd h_d (by decide)
      · rfl
    show skipWs (fmtInt x ++ s) = fmtInt x ++ s
    rw [h_cons]
    exact skipWs_of_not h_ws _

theorem readKey_member {k : CStr} (h_k : ∀ c ∈ k, isPlain c = true) {n : ℕ} (h_n : k.length < n)
    (v : Slot) (s : CStr) : readKey n (writeMember (k, v) ++ s) = some (k, v.write ++ s) := by
  have h_text : writeMember (k, v) ++ s = '"' :: (k ++ '"' :: ':' :: (v.write ++ s)) := by
    simp [writeMember]
  rw [h_text]
  show (readChars n (k ++ '"' :: ':' :: (v.write ++ s))).bind _ = _
  rw [readChars_of_plain h_k h_n, Option.bind_some, skipWs_of_not rfl]
  show some (k, skipWs (v.write ++ s)) = _
  rw [skipWs_write]

theorem readValue_text (n : ℕ) (t s : CStr) :
    readValue (n + 1) ((Slot.text t).write ++ s) =
      (readChars n (t ++ '"' :: s)).map (fun p => (.str p.1, p.2)) := by
  have h_text : (Slot.text t).write ++ s = '"' :: (t ++ '"' :: s) := by simp [Slot.write]
  rw [h_text]
  unfold readValue
  rfl

theorem readValue_bool (n : ℕ) (b : Bool) (s : CStr) :
    readValue (n + 1) ((Slot.bool b).write ++ s) = some (.bool b, s) := by
  cases b with
  | true =>
    show readValue (n + 1) ('t' :: 'r' :: 'u' :: 'e' :: s) = _
    unfold readValue
    rfl
  | false =>
    show readValue (n + 1) ('f' :: 'a' :: 'l' :: 's' :: 'e' :: s) = _
    unfold readValue
    rfl

theorem readValue_int (n : ℕ) (x : ℤ) {c : Char} (h_c : Ends c) (s : CStr) :
    readValue (n + 1) ((Slot.int x).write ++ c :: s) = some (.num (fmtInt x), c :: s) := by
  obtain ⟨d, ds, h_cons, h_d⟩ := exists_fmtInt x
  have h_skip := skipNumber_fmtInt x h_c s
  have h_take : (fmtInt x ++ c :: s).take ((fmtInt x ++ c :: s).length - (c :: s).length) =
      fmtInt x := by
    rw [List.length_append, Nat.add_sub_cancel, List.take_left]
  have h_not {e : Char} (h_e : e.isDigit = false ∧ e ≠ '-') : d ≠ e := by
    -- no other kind of value begins as a number does
    rintro rfl
    rcases h_d with h_d | h_d
    · rw [h_e.1] at h_d
      exact absurd h_d (by simp)
    · exact h_e.2 h_d
  show readValue (n + 1) (fmtInt x ++ c :: s) = _
  unfold readValue
  rw [h_cons] at h_skip h_take ⊢
  rw [List.cons_append] at h_skip h_take ⊢
  split
  · next h_eq => exact absurd (List.cons.inj h_eq).1 (h_not (by decide))
  · next h_eq => exact absurd (List.cons.inj h_eq).1 (h_not (by decide))
  · next h_eq => exact absurd (List.cons.inj h_eq).1 (h_not (by decide))
  · next h_eq => exact absurd (List.cons.inj h_eq).1 (h_not (by decide))
  · next h_eq => exact absurd (List.cons.inj h_eq).1 (h_not (by decide))
  · next h_eq => exact absurd (List.cons.inj h_eq).1 (h_not (by decide))
  · rw [h_skip, Option.map_some, h_take]

theorem readMembers_last {n : ℕ} {s s' rest : CStr} {key : CStr} {v : Value}
    (h_key : readKey n s = some (key, s')) (h_v : readValue n s' = some (v, '\x7d' :: rest)) :
    readMembers (n + 1) s = some ([(key, v)], rest) := by
  unfold readMembers
  rw [h_key]
  dsimp only
  rw [h_v]
  rfl

theorem readMembers_comma {n : ℕ} {s s' rest : CStr} {key : CStr} {v : Value}
    (h_key : readKey n s = some (key, s')) (h_v : readValue n s' = some (v, ',' :: rest))
    (h_rest : skipWs rest = rest) :
    readMembers (n + 1) s = (readMembers n rest).map (fun p => ((key, v) :: p.1, p.2)) := by
  rw [readMembers, h_key]
  dsimp only
  rw [h_v]
  dsimp only
  rw [skipWs_of_not rfl]
  show Option.map _ (readMembers n (skipWs rest)) = _
  rw [h_rest]

theorem readMembers_none {n : ℕ} {s s' : CStr} {key : CStr}
    (h_key : readKey n s = some (key, s')) (h_v : readValue n s' = none) :
    readMembers (n + 1) s = none := by
  unfold readMembers
  rw [h_key]
  dsimp only
  rw [h_v]

/-- The value is read, unless it is a text that is not plain. -/
theorem readValue_write {n : ℕ} {v : Slot} (h_n : v.write.length < n)
    (h_v : ∀ t, v = .text t → ∀ c ∈ t, isPlain c = true) {c : Char} (h_c : Ends c) (s : CStr) :
    readValue n (v.write ++ c :: s) = some (v.value, c :: s) := by
  obtain ⟨n, rfl⟩ := Nat.exists_eq_add_one_of_ne_zero (Nat.ne_zero_of_lt h_n)
  cases v with
  | text t =>
    have h_len : t.length < n := by
      simp only [Slot.write, List.cons_append, List.length_cons, List.length_append] at h_n
      omega
    rw [readValue_text, readChars_of_plain (h_v t rfl) h_len]
    rfl
  | bool b => exact readValue_bool n b _
  | int x => exact readValue_int n x h_c s

/-- The keys of the members are plain ASCII. -/
def PlainKeys (ms : List (CStr × Slot)) : Prop :=
  ∀ k ∈ ms.map Prod.fst, ∀ c ∈ k, isPlain c = true ∧ c.toNat < 128

theorem PlainKeys.head {m : CStr × Slot} {ms : List (CStr × Slot)} (h : PlainKeys (m :: ms)) :
    ∀ c ∈ m.1, isPlain c = true := fun c h_c => (h m.1 List.mem_cons_self c h_c).1

theorem PlainKeys.tail {m : CStr × Slot} {ms : List (CStr × Slot)} (h : PlainKeys (m :: ms)) :
    PlainKeys ms := fun k h_k => h k (List.mem_cons_of_mem _ h_k)

/-- Members start with the quote of a key. -/
theorem exists_writeMembers {ms : List (CStr × Slot)} (h_ne : ms ≠ []) (s : CStr) :
    ∃ y, writeMembers ms ++ s = '"' :: y := by
  obtain ⟨m, ms, rfl⟩ := List.exists_cons_of_ne_nil h_ne
  cases ms with
  | nil =>
    rw [writeMembers_singleton]
    exact ⟨_, rfl⟩
  | cons m' ms =>
    rw [writeMembers_cons_cons]
    exact ⟨_, rfl⟩

theorem skipWs_writeMembers {ms : List (CStr × Slot)} (h_ne : ms ≠ []) (s : CStr) :
    skipWs (writeMembers ms ++ s) = writeMembers ms ++ s := by
  obtain ⟨y, h_y⟩ := exists_writeMembers h_ne s
  rw [h_y]
  rfl

theorem length_writeMember (m : CStr × Slot) :
    (writeMember m).length = m.1.length + m.2.write.length + 3 := by
  unfold writeMember
  simp only [List.cons_append, List.length_cons, List.length_append]
  omega

/-- Every member takes four characters besides its key and its value, one of them a comma or
brace. -/
theorem length_writeMembers {ms : List (CStr × Slot)} (h_ne : ms ≠ []) :
    (writeMembers ms).length + 1 = (ms.map (fun m => m.1.length + m.2.write.length + 4)).sum := by
  induction ms with
  | nil => exact absurd rfl h_ne
  | cons m ms ih =>
    cases ms with
    | nil =>
      rw [writeMembers_singleton, length_writeMember]
      simp
    | cons m' ms =>
      rw [writeMembers_cons_cons, List.map_cons, List.sum_cons, ← ih (List.cons_ne_nil _ _),
        List.length_append, List.length_cons, length_writeMember]
      omega

/-- Members whose texts are plain are read back. -/
theorem readMembers_write {ms : List (CStr × Slot)} (h_ne : ms ≠ []) (h_keys : PlainKeys ms)
    (h_texts : ∀ t ∈ texts ms, ∀ c ∈ t.2, isPlain c = true) {n : ℕ}
    (h_n : (writeMembers ms).length < n) (s : CStr) :
    readMembers n (writeMembers ms ++ '\x7d' :: s) =
      some (ms.map (fun m => (m.1, m.2.value)), s) := by
  induction ms generalizing n with
  | nil => exact absurd rfl h_ne
  | cons m ms ih =>
    obtain ⟨k, v⟩ := m
    obtain ⟨n, rfl⟩ := Nat.exists_eq_add_one_of_ne_zero (Nat.ne_zero_of_lt h_n)
    have h_k : ∀ c ∈ k, isPlain c = true := h_keys.head
    have h_v : ∀ t, v = .text t → ∀ c ∈ t, isPlain c = true := by
      rintro t rfl
      exact h_texts (k, t) (List.mem_filterMap.mpr ⟨_, List.mem_cons_self, rfl⟩)
    -- the last member ends with the brace, every other one with a comma
    cases ms with
    | nil =>
      rw [writeMembers_singleton] at h_n ⊢
      have h_len := length_writeMember (k, v)
      dsimp only at h_len
      refine readMembers_last (readKey_member h_k (by omega) v _) ?_
      exact readValue_write (by omega) h_v (Or.inr rfl) s
    | cons m' ms =>
      rw [writeMembers_cons_cons] at h_n ⊢
      have h_len := length_writeMember (k, v)
      dsimp only at h_len
      rw [List.length_append, List.length_cons] at h_n
      rw [List.append_assoc, List.cons_append]
      rw [readMembers_comma (readKey_member h_k (by omega) v _)
        (readValue_write (by omega) h_v (Or.inl rfl) _)
        (skipWs_writeMembers (List.cons_ne_nil _ _) _)]
      rw [ih (List.cons_ne_nil _ _) h_keys.tail
        (fun t h_t => h_texts t (List.mem_filterMap.mpr (by
          obtain ⟨m, h_m, h_eq⟩ := List.mem_filterMap.mp h_t
          exact ⟨m, List.mem_cons_of_mem _ h_m, h_eq⟩))) (by omega)]
      rfl

/-- The first member that is read has the key and the value that stand first. -/
theorem readMembers_head {n : ℕ} {s s' s'' rest : CStr} {key : CStr} {v : Value}
    {members : List (CStr × Value)} (h_key : readKey n s = some (key, s'))
    (h_v : readValue n s' = some (v, s''))
    (h : readMembers (n + 1) s = some (members, rest)) : ∃ more, members = (key, v) :: more := by
  rw [readMembers, h_key] at h
  dsimp only at h
  rw [h_v] at h
  dsimp only at h
  split at h
  · obtain ⟨p, -, h_eq⟩ := Option.map_eq_some_iff.mp h
    exact ⟨p.1, (Prod.mk.inj h_eq).1.symm⟩
  · exact ⟨[], (Prod.mk.inj (Option.some.inj h)).1.symm⟩
  · exact absurd h (by simp)

/-- The text of the first member is plain, if it reads back. -/
theorem plain_of_first (ms : List (CStr × Slot)) {k t s rest : CStr}
    {members : List (CStr × Value)} {n : ℕ} (h_k : ∀ c ∈ k, isPlain c = true)
    (h_n : k.length + 1 < n)
    (h : readMembers n (writeMember (k, .text t) ++ s) = some (members, rest))
    (h_strings : strings members = (k, t) :: texts ms) : ∀ c ∈ t, isPlain c = true := by
  obtain ⟨n, rfl⟩ := Nat.exists_eq_add_one_of_ne_zero (Nat.ne_zero_of_lt h_n)
  obtain ⟨n, rfl⟩ : ∃ i, n = i + 1 := Nat.exists_eq_add_one_of_ne_zero (by omega)
  have h_key := readKey_member h_k (by omega : k.length < n + 1) (.text t) s
  have h_value := readValue_text n t s
  rcases h_chars : readChars n (t ++ '"' :: s) with _ | ⟨t', rest'⟩
  · rw [h_chars] at h_value
    rw [readMembers_none h_key h_value] at h
    exact absurd h (by simp)
  · rw [h_chars] at h_value
    obtain ⟨more, rfl⟩ := readMembers_head h_key h_value h
    obtain rfl : t' = t := (Prod.mk.inj (List.cons.inj h_strings).1).2
    exact (plain_of_readChars h_chars).1

/-- Members are not read back if a text is not plain. -/
theorem plain_of_readMembers {ms : List (CStr × Slot)} (h_ne : ms ≠ []) (h_keys : PlainKeys ms)
    {n : ℕ} (h_n : (writeMembers ms).length < n) {members : List (CStr × Value)} {s rest : CStr}
    (h : readMembers n (writeMembers ms ++ '\x7d' :: s) = some (members, rest))
    (h_strings : strings members = texts ms) : ∀ t ∈ texts ms, ∀ c ∈ t.2, isPlain c = true := by
  induction ms generalizing n members with
  | nil => exact absurd rfl h_ne
  | cons m ms ih =>
    obtain ⟨k, v⟩ := m
    have h_k : ∀ c ∈ k, isPlain c = true := h_keys.head
    have h_len := length_writeMember (k, v)
    dsimp only at h_len
    cases ms with
    | nil =>
      rw [writeMembers_singleton] at h h_n
      cases v with
      | text t =>
        intro t' h_t'
        obtain rfl := List.mem_singleton.mp h_t'
        exact plain_of_first [] h_k (by omega) h h_strings
      | bool b => exact fun t h_t => absurd h_t List.not_mem_nil
      | int x => exact fun t h_t => absurd h_t List.not_mem_nil
    | cons m' ms =>
      rw [writeMembers_cons_cons] at h h_n
      rw [List.length_append, List.length_cons] at h_n
      rw [List.append_assoc, List.cons_append] at h
      have h_v : ∀ t, v = .text t → ∀ c ∈ t, isPlain c = true := by
        rintro t rfl
        exact plain_of_first (m' :: ms) h_k (by omega) h h_strings
      -- the first member is read, so the others are
      obtain ⟨n, rfl⟩ := Nat.exists_eq_add_one_of_ne_zero (Nat.ne_zero_of_lt h_n)
      rw [readMembers_comma (readKey_member h_k (by omega) v _)
        (readValue_write (by omega) h_v (Or.inl rfl) _)
        (skipWs_writeMembers (List.cons_ne_nil _ _) _)] at h
      obtain ⟨⟨more, rest'⟩, h_more, h_eq⟩ := Option.map_eq_some_iff.mp h
      obtain ⟨rfl, rfl⟩ := Prod.mk.inj h_eq
      have h_rest := ih (List.cons_ne_nil _ _) h_keys.tail
        (by omega) h_more
      cases v with
      | text t =>
        have h_tail := h_rest (List.cons.inj h_strings).2
        intro t' h_t'
        rcases List.mem_cons.mp (show t' ∈ (k, t) :: texts (m' :: ms) from h_t') with rfl | h_mem
        · exact h_v t rfl
        · exact h_tail t' h_mem
      | bool b => exact h_rest h_strings
      | int x => exact h_rest h_strings

/-! ### UTF-8 -/

theorem IsUtf8.append {s t : CStr} (h_s : IsUtf8 s) (h_t : IsUtf8 t) : IsUtf8 (s ++ t) := by
  obtain ⟨m, rfl⟩ := h_s
  obtain ⟨m', rfl⟩ := h_t
  exact ⟨m ++ m', List.flatMap_append.symm⟩

/-- An ASCII character is its byte. -/
theorem utf8_of_ascii {c : Char} (h_c : c.toNat < 128) : utf8 c = [c] := by
  have h_val : c.val.toNat ≤ 0x7f := Nat.le_of_lt_succ h_c
  unfold utf8 String.utf8EncodeChar
  dsimp only
  rw [if_pos h_val, List.map_singleton, UInt8.toNat_ofNat', Nat.mod_eq_of_lt (by omega)]
  show [Char.ofNat c.toNat] = [c]
  rw [Char.ofNat_toNat]

/-- All bytes of another character are beyond ASCII. -/
theorem utf8_of_not_ascii {c d : Char} (h_c : ¬ c.toNat < 128) (h_d : d ∈ utf8 c) :
    ¬ d.toNat < 128 := by
  obtain ⟨b, h_b, rfl⟩ := List.mem_map.mp h_d
  have h_byte : 128 ≤ b.toNat := by
    have h_val : ¬ c.val.toNat ≤ 0x7f := fun h => h_c (Nat.lt_succ_of_le h)
    unfold String.utf8EncodeChar at h_b
    dsimp only at h_b
    rw [if_neg h_val] at h_b
    split_ifs at h_b
    · -- two, three or four bytes, each with its high bit set
      simp only [List.mem_cons, List.not_mem_nil, or_false] at h_b
      rcases h_b with rfl | rfl <;> rw [UInt8.toNat_ofNat'] <;> omega
    · simp only [List.mem_cons, List.not_mem_nil, or_false] at h_b
      rcases h_b with rfl | rfl | rfl <;> rw [UInt8.toNat_ofNat'] <;> omega
    · simp only [List.mem_cons, List.not_mem_nil, or_false] at h_b
      rcases h_b with rfl | rfl | rfl | rfl <;> rw [UInt8.toNat_ofNat'] <;> omega
  have h_small : b.toNat < 256 := b.toNat_lt
  have h_char : (Char.ofNat b.toNat).toNat = b.toNat := by
    -- the character of a byte has the byte's number
    rw [Char.ofNat, dif_pos (Or.inl (by omega))]
    rfl
  omega

theorem isUtf8_of_ascii {s : CStr} (h_s : ∀ c ∈ s, c.toNat < 128) : IsUtf8 s := by
  refine ⟨s, ?_⟩
  induction s with
  | nil => rfl
  | cons c s ih =>
    rw [List.flatMap_cons, utf8_of_ascii (h_s c List.mem_cons_self),
      ← ih (fun d h_d => h_s d (List.mem_cons_of_mem _ h_d))]
    rfl

/-- A text may be cut at an ASCII character. -/
theorem IsUtf8.cut {s t : CStr} {c : Char} (h_c : c.toNat < 128) (h : IsUtf8 (s ++ c :: t)) :
    IsUtf8 s ∧ IsUtf8 t := by
  obtain ⟨m, h_eq⟩ := h
  induction m generalizing s with
  | nil => exact absurd h_eq (by simp)
  | cons d m ih =>
    rw [List.flatMap_cons] at h_eq
    by_cases h_d : d.toNat < 128
    · rw [utf8_of_ascii h_d] at h_eq
      cases s with
      | nil =>
        obtain ⟨-, rfl⟩ := List.cons.inj h_eq
        exact ⟨⟨[], rfl⟩, ⟨m, rfl⟩⟩
      | cons e s =>
        obtain ⟨rfl, h_tail⟩ := List.cons.inj h_eq
        obtain ⟨h_s, h_t⟩ := ih h_tail
        exact ⟨(isUtf8_of_ascii (s := [e]) (by simpa using h_d)).append h_s, h_t⟩
    · -- the bytes of the character all lie before the cut
      rcases List.append_eq_append_iff.mp h_eq with ⟨a, h_a, h_b⟩ | ⟨a, h_a, h_b⟩
      · cases a with
        | nil =>
          rw [List.append_nil] at h_a
          obtain ⟨-, h_t⟩ := ih (s := []) h_b
          exact ⟨⟨[d], by rw [← h_a]; simp⟩, h_t⟩
        | cons e a =>
          obtain ⟨rfl, -⟩ := List.cons.inj h_b
          have h_mem : c ∈ utf8 d := by rw [h_a]; simp
          exact absurd h_c (utf8_of_not_ascii h_d h_mem)
      · obtain ⟨h_s, h_t⟩ := ih h_b.symm
        rw [h_a]
        exact ⟨IsUtf8.append ⟨[d], by simp⟩ h_s, h_t⟩

/-- A text of the members stands between quotes. -/
theorem exists_of_mem_texts {ms : List (CStr × Slot)} {t : CStr × CStr} (h_t : t ∈ texts ms) :
    ∃ a b, writeMembers ms = a ++ '"' :: (t.2 ++ '"' :: b) := by
  induction ms with
  | nil => exact absurd h_t List.not_mem_nil
  | cons m ms ih =>
    obtain ⟨m', h_m', h_eq⟩ := List.mem_filterMap.mp h_t
    -- the text is the first member's value, or it is in the rest
    rcases List.mem_cons.mp h_m' with rfl | h_mem
    · obtain ⟨k, v⟩ := m'
      cases v with
      | text u =>
        obtain rfl : (k, u) = t := Option.some.inj h_eq
        cases ms with
        | nil =>
          rw [writeMembers_singleton]
          exact ⟨'"' :: k ++ ['"', ':'], [], by simp [writeMember, Slot.write]⟩
        | cons m'' ms =>
          rw [writeMembers_cons_cons]
          exact ⟨'"' :: k ++ ['"', ':'], ',' :: writeMembers (m'' :: ms),
            by simp [writeMember, Slot.write]⟩
      | bool b => exact absurd h_eq (by simp)
      | int x => exact absurd h_eq (by simp)
    · obtain ⟨a, b, h_ab⟩ := ih (List.mem_filterMap.mpr ⟨m', h_mem, h_eq⟩)
      obtain ⟨m'', ms, rfl⟩ := List.exists_cons_of_ne_nil (List.ne_nil_of_mem h_mem)
      rw [writeMembers_cons_cons, h_ab]
      exact ⟨writeMember m ++ ',' :: a, b, by simp⟩

theorem isUtf8_write {v : Slot} (h_v : ∀ t, v = .text t → IsUtf8 t) : IsUtf8 v.write := by
  cases v with
  | text t =>
    have h_quote : IsUtf8 ['"'] := isUtf8_of_ascii (by simp)
    exact (h_quote.append (h_v t rfl)).append h_quote
  | bool b => cases b <;> exact isUtf8_of_ascii (by simp [Slot.write])
  | int x =>
    refine isUtf8_of_ascii (fun c h_c => ?_)
    rcases mem_fmtInt h_c with h_digit | rfl
    · have h_range := (Char.isDigit_iff_toNat.mp h_digit).2
      exact lt_of_le_of_lt h_range (by decide)
    · decide

/-- The members are UTF-8 if their texts are. -/
theorem isUtf8_writeMembers {ms : List (CStr × Slot)} (h_keys : PlainKeys ms)
    (h_texts : ∀ t ∈ texts ms, IsUtf8 t.2) : IsUtf8 (writeMembers ms) := by
  induction ms with
  | nil => exact ⟨[], rfl⟩
  | cons m ms ih =>
    have h_tail := ih h_keys.tail (fun t h_t => h_texts t (by
      obtain ⟨m', h_m', h_eq⟩ := List.mem_filterMap.mp h_t
      exact List.mem_filterMap.mpr ⟨m', List.mem_cons_of_mem _ h_m', h_eq⟩))
    have h_key : IsUtf8 ('"' :: m.1 ++ ['"', ':']) := by
      -- the keys are ASCII
      refine isUtf8_of_ascii (fun c h_c => ?_)
      simp only [List.cons_append, List.mem_cons, List.mem_append, List.not_mem_nil,
        or_false] at h_c
      rcases h_c with rfl | h_c | rfl | rfl
      · decide
      · exact (h_keys m.1 List.mem_cons_self c h_c).2
      · decide
      · decide
    have h_value : IsUtf8 m.2.write := isUtf8_write (fun t h_t => by
      refine h_texts (m.1, t) (List.mem_filterMap.mpr ⟨m, List.mem_cons_self, ?_⟩)
      rw [h_t])
    have h_member : IsUtf8 (writeMember m) := by
      have h_both := h_key.append h_value
      rw [List.append_assoc] at h_both
      exact h_both
    cases ms with
    | nil =>
      rw [writeMembers_singleton]
      exact h_member
    | cons m' ms =>
      rw [writeMembers_cons_cons]
      have h_comma : IsUtf8 [','] := isUtf8_of_ascii (by simp)
      exact h_member.append (h_comma.append h_tail)

/-! ### Documents -/

theorem readText_writeObject {ms : List (CStr × Slot)} (h_ne : ms ≠ [])
    (members : List (CStr × Value)) :
    readText (writeObject ms) = some (.obj members) ↔
      ∃ rest, readMembers (writeObject ms).length (writeMembers ms ++ ['\x7d']) =
        some (members, rest) ∧ skipWs rest = [] := by
  have h_value (n : ℕ) : readValue (n + 1) ('\x7b' :: (writeMembers ms ++ ['\x7d'])) =
      (readMembers n (writeMembers ms ++ ['\x7d'])).map (fun p => (.obj p.1, p.2)) := by
    obtain ⟨y, h_y⟩ := exists_writeMembers h_ne ['\x7d']
    rw [h_y]
    unfold readValue
    rfl
  unfold readText
  rw [show skipWs (writeObject ms) = '\x7b' :: (writeMembers ms ++ ['\x7d']) from rfl, h_value]
  -- nothing but white space may stand behind the object
  rcases readMembers (writeObject ms).length (writeMembers ms ++ ['\x7d']) with _ | ⟨found, rest⟩
  · exact iff_of_false (by simp) (by simp)
  · simp only [Option.map_some, Option.some.injEq, Prod.mk.injEq]
    by_cases h_rest : skipWs rest = []
    · rw [if_pos h_rest, Option.some.injEq, Value.obj.injEq]
      exact ⟨fun h => ⟨rest, ⟨h, rfl⟩, h_rest⟩, fun ⟨_, h, _⟩ => h.1⟩
    · rw [if_neg h_rest]
      refine iff_of_false (by simp) ?_
      rintro ⟨rest', ⟨-, rfl⟩, h⟩
      exact h_rest h

theorem strings_value (ms : List (CStr × Slot)) :
    strings (ms.map (fun m => (m.1, m.2.value))) = texts ms := by
  unfold strings texts
  rw [List.filterMap_map]
  refine List.filterMap_congr (fun m _ => ?_)
  obtain ⟨k, v⟩ := m
  cases v <;> rfl

/-- **Documents.** A written object is a JSON document whose strings are its texts exactly if every
text is storable. -/
theorem isObject_writeObject_iff {ms : List (CStr × Slot)} (h_ne : ms ≠ [])
    (h_keys : PlainKeys ms) :
    (∃ members, IsObject (writeObject ms) members ∧ strings members = texts ms) ↔
      ∀ t ∈ texts ms, Storable t.2 := by
  have h_len : (writeMembers ms).length < (writeObject ms).length := by
    unfold writeObject
    simp only [List.cons_append, List.length_cons, List.length_append]
    omega
  constructor
  · rintro ⟨members, ⟨h_utf8, h_read⟩, h_strings⟩ t h_t
    obtain ⟨rest, h_members, -⟩ := (readText_writeObject h_ne members).mp h_read
    refine ⟨plain_of_readMembers h_ne h_keys h_len h_members h_strings t h_t, ?_⟩
    -- the text lies between two quotes
    obtain ⟨a, b, h_ab⟩ := exists_of_mem_texts h_t
    have h_doc : writeObject ms = ('\x7b' :: a) ++ '"' :: (t.2 ++ '"' :: (b ++ ['\x7d'])) := by
      simp [writeObject, h_ab]
    rw [h_doc] at h_utf8
    exact ((h_utf8.cut (by decide)).2.cut (by decide)).1
  · intro h_texts
    refine ⟨ms.map (fun m => (m.1, m.2.value)), ⟨?_, ?_⟩, strings_value ms⟩
    · have h_open : IsUtf8 ['\x7b'] := isUtf8_of_ascii (by simp)
      have h_close : IsUtf8 ['\x7d'] := isUtf8_of_ascii (by simp)
      exact (h_open.append (isUtf8_writeMembers h_keys
        (fun t h_t => (h_texts t h_t).utf8))).append h_close
    · refine (readText_writeObject h_ne _).mpr ⟨[], ?_, rfl⟩
      exact readMembers_write h_ne h_keys (fun t h_t => (h_texts t h_t).plain) h_len []

end Json

end CLib
