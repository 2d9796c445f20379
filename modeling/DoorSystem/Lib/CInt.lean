import DoorSystem.Lib.CString

/-!
# Machine integers, `%d` and `atoi`

`int` is a 32-bit two's complement number and `long` a 64-bit one; values are integers, and
`toInt32` is the conversion that keeps the low 32 bits. `fmtInt` prints as `%d` does, `strtol10`
reads as `strtol(s, NULL, 10)` does (leading white space, an optional sign, the longest run of
digits, clamped to the range of `long`) and `atoi` is `strtol` converted to `int`. `scanWord` is the
conversion `%<n>s` of `sscanf`.

`atoi_fmtInt` is the round trip: a number of the range of `int` is read back from its own
decimal text.
-/

namespace CLib

/-- The range of a 32-bit `int`. -/
def InInt (x : ℤ) : Prop := -(2 ^ 31) ≤ x ∧ x < 2 ^ 31

instance (x : ℤ) : Decidable (InInt x) := inferInstanceAs (Decidable (_ ∧ _))

/-- Conversion to `int`: the low 32 bits, read as a signed number. -/
def toInt32 (x : ℤ) : ℤ := x.bmod (2 ^ 32)

theorem inInt_toInt32 (x : ℤ) : InInt (toInt32 x) := by
  have h_lo := Int.le_bmod (x := x) (m := 2 ^ 32) (by norm_num)
  have h_hi := Int.bmod_lt (x := x) (m := 2 ^ 32) (by norm_num)
  unfold InInt toInt32
  omega

theorem toInt32_of_inInt {x : ℤ} (h : InInt x) : toInt32 x = x := by
  unfold InInt at h
  unfold toInt32
  exact Int.bmod_eq_of_le (by omega) (by omega)

/-! ### Printing -/

/-- `%d`. -/
def fmtInt : ℤ → CStr
  | .ofNat n => Nat.toDigits 10 n
  | .negSucc n => '-' :: Nat.toDigits 10 (n + 1)

/-- A decimal text holds digits and at most a sign in front. -/
theorem mem_fmtInt {x : ℤ} {c : Char} (h : c ∈ fmtInt x) : c.isDigit = true ∨ c = '-' := by
  cases x with
  | ofNat n => exact Or.inl (Nat.isDigit_of_mem_toDigits (by norm_num) (by norm_num) h)
  | negSucc n =>
    rcases List.mem_cons.mp h with rfl | h
    · exact Or.inr rfl
    · exact Or.inl (Nat.isDigit_of_mem_toDigits (by norm_num) (by norm_num) h)

theorem fmtInt_ne_nil (x : ℤ) : fmtInt x ≠ [] := by
  cases x with
  | ofNat n => exact Nat.toDigits_ne_nil
  | negSucc n => exact List.cons_ne_nil _ _

/-- Delimiters that are no digits and no sign leave a decimal text in one piece. -/
theorem isToken_fmtInt {delim : Char → Bool} (h_digit : ∀ c, c.isDigit = true → delim c = false)
    (h_sign : delim '-' = false) (x : ℤ) : IsToken delim (fmtInt x) := by
  refine ⟨fmtInt_ne_nil x, fun c hc => ?_⟩
  rcases mem_fmtInt hc with h | rfl
  · exact h_digit c h
  · exact h_sign

/-- The text of an `int` has at most eleven characters. -/
theorem length_fmtInt_le {x : ℤ} (h : InInt x) : (fmtInt x).length ≤ 11 := by
  unfold InInt at h
  cases x with
  | ofNat n =>
    have h_len : (Nat.toDigits 10 n).length ≤ 10 :=
      (Nat.length_toDigits_le_iff (by norm_num) (by norm_num)).mpr (by
        simp only [Int.ofNat_eq_natCast] at h
        omega)
    show (Nat.toDigits 10 n).length ≤ 11
    omega
  | negSucc n =>
    -- ten digits and the sign
    have h_len : (Nat.toDigits 10 (n + 1)).length ≤ 10 :=
      (Nat.length_toDigits_le_iff (by norm_num) (by norm_num)).mpr (by omega)
    show (Nat.toDigits 10 (n + 1)).length + 1 ≤ 11
    omega

/-- The range of a 64-bit `long long`. -/
def InLong (x : ℤ) : Prop := -(2 ^ 63) ≤ x ∧ x < 2 ^ 63

instance (x : ℤ) : Decidable (InLong x) := inferInstanceAs (Decidable (_ ∧ _))

/-- The text of a `long long` has at most twenty characters. -/
theorem length_fmtInt_le_of_inLong {x : ℤ} (h : InLong x) : (fmtInt x).length ≤ 20 := by
  unfold InLong at h
  cases x with
  | ofNat n =>
    have h_len : (Nat.toDigits 10 n).length ≤ 19 :=
      (Nat.length_toDigits_le_iff (by norm_num) (by norm_num)).mpr (by
        simp only [Int.ofNat_eq_natCast] at h
        omega)
    show (Nat.toDigits 10 n).length ≤ 20
    omega
  | negSucc n =>
    have h_len : (Nat.toDigits 10 (n + 1)).length ≤ 19 :=
      (Nat.length_toDigits_le_iff (by norm_num) (by norm_num)).mpr (by omega)
    show (Nat.toDigits 10 (n + 1)).length + 1 ≤ 20
    omega

/-! ### Reading -/

/-- `isspace` in the C locale. -/
def isSpace (c : Char) : Bool :=
  c = ' ' || (9 ≤ c.toNat && c.toNat ≤ 13)

/-- The conversion `%<n>s` of `sscanf`: the word behind the white space, at most `n` characters of
it, and the rest of the string. -/
def scanWord (n : ℕ) (s : CStr) : Option (CStr × CStr) :=
  let t := s.dropWhile isSpace
  let w := (t.takeWhile (fun c => !isSpace c)).take n
  if w = [] then none else some (w, t.drop w.length)

/-- The number written by the digits at the front of `s`. -/
def leadingDigits (s : CStr) : ℕ := Nat.ofDigitChars 10 (s.takeWhile Char.isDigit) 0

/-- The value `strtol` reads after white space, before clamping. -/
def signedDigits : CStr → ℤ
  | '-' :: s => -(leadingDigits s : ℤ)
  | '+' :: s => leadingDigits s
  | s => leadingDigits s

/-- `strtol(s, NULL, 10)`: `LONG_MIN` and `LONG_MAX` are returned on overflow. -/
def strtol10 (s : CStr) : ℤ :=
  max (-(2 ^ 63)) (min (signedDigits (s.dropWhile isSpace)) (2 ^ 63 - 1))

/-- A decimal numeral: digits, with or without a sign, and nothing else. -/
def IsNumeral (s : CStr) : Prop :=
  let t := match s with
    | '-' :: t => t
    | '+' :: t => t
    | t => t
  t ≠ [] ∧ ∀ c ∈ t, c.isDigit = true

instance (s : CStr) : Decidable (IsNumeral s) :=
  @instDecidableAnd _ _ inferInstance (List.decidableBAll _ _)

/-- What `endptr` points to after `strtol(s, &endptr, 10)`, if it has moved. -/
def strtolEnd (s : CStr) : Option CStr :=
  let t := match s.dropWhile isSpace with
    | '-' :: t => t
    | '+' :: t => t
    | t => t
  if t.takeWhile Char.isDigit = [] then none else some (t.dropWhile Char.isDigit)

/-- `atoi(s)`, as `(int) strtol(s, NULL, 10)`. -/
def atoi (s : CStr) : ℤ := toInt32 (strtol10 s)

theorem inInt_atoi (s : CStr) : InInt (atoi s) := inInt_toInt32 _

theorem isDigit_iff {c : Char} : c.isDigit = true ↔ 48 ≤ c.toNat ∧ c.toNat ≤ 57 := by
  simp only [Char.isDigit, Bool.and_eq_true, decide_eq_true_eq]
  rfl

theorem isSpace_of_isDigit {c : Char} (h : c.isDigit = true) : isSpace c = false := by
  rw [isDigit_iff] at h
  have h_blank : c ≠ ' ' := by
    rintro rfl
    simp at h
  simp only [isSpace, Bool.or_eq_false_iff, decide_eq_false_iff_not, Bool.and_eq_false_iff]
  exact ⟨h_blank, Or.inr (by omega)⟩

theorem leadingDigits_toDigits (n : ℕ) : leadingDigits (Nat.toDigits 10 n) = n := by
  unfold leadingDigits
  have h_all : (Nat.toDigits 10 n).takeWhile Char.isDigit = Nat.toDigits 10 n :=
    List.takeWhile_eq_self_iff.mpr
      (fun c hc => Nat.isDigit_of_mem_toDigits (by norm_num) (by norm_num) hc)
  rw [h_all, Nat.ofDigitChars_ten_toDigits]

/-- Without a sign the digits are the value. -/
theorem signedDigits_of_isDigit {c : Char} (cs : CStr) (h : c.isDigit = true) :
    signedDigits (c :: cs) = leadingDigits (c :: cs) := by
  unfold signedDigits
  -- a digit is neither of the two signs
  split
  · next h_eq =>
    obtain rfl := (List.cons.inj h_eq).1
    simp [Char.isDigit] at h
  · next h_eq =>
    obtain rfl := (List.cons.inj h_eq).1
    simp [Char.isDigit] at h
  · rfl

theorem signedDigits_toDigits (n : ℕ) : signedDigits (Nat.toDigits 10 n) = n := by
  obtain ⟨c, cs, h_eq⟩ := List.exists_cons_of_ne_nil (Nat.toDigits_ne_nil (n := n) (b := 10))
  have h_digit : c.isDigit = true := by
    refine Nat.isDigit_of_mem_toDigits (b := 10) (n := n) (by norm_num) (by norm_num) ?_
    rw [h_eq]
    exact List.mem_cons_self
  rw [h_eq, signedDigits_of_isDigit cs h_digit, ← h_eq, leadingDigits_toDigits]

/-- The sign and digits of a decimal text are the number it was printed from. -/
theorem signedDigits_fmtInt (x : ℤ) : signedDigits (fmtInt x) = x := by
  cases x with
  | ofNat n => exact signedDigits_toDigits n
  | negSucc n =>
    show -(leadingDigits (Nat.toDigits 10 (n + 1)) : ℤ) = _
    rw [leadingDigits_toDigits]
    omega

theorem dropWhile_isSpace_fmtInt (x : ℤ) : (fmtInt x).dropWhile isSpace = fmtInt x := by
  obtain ⟨c, cs, h_eq⟩ := List.exists_cons_of_ne_nil (fmtInt_ne_nil x)
  -- the text starts with a digit or a sign, so nothing is skipped
  have h_space : isSpace c = false := by
    rcases mem_fmtInt (x := x) (c := c) (by rw [h_eq]; exact List.mem_cons_self) with h | rfl
    · exact isSpace_of_isDigit h
    · rfl
  rw [h_eq, List.dropWhile_cons_of_neg (by rw [h_space]; simp)]

/-- `strtol` reads an `int` back from its decimal text. -/
theorem strtol10_fmtInt {x : ℤ} (h : InInt x) : strtol10 (fmtInt x) = x := by
  unfold strtol10
  rw [dropWhile_isSpace_fmtInt, signedDigits_fmtInt]
  -- a number of the range of `int` is within that of `long`
  unfold InInt at h
  omega

/-- **Round trip.** An `int` is read back from its decimal text. -/
theorem atoi_fmtInt {x : ℤ} (h : InInt x) : atoi (fmtInt x) = x := by
  unfold atoi
  rw [strtol10_fmtInt h, toInt32_of_inInt h]

example : atoi "-42x".toList = -42 := by decide

/-! ### How long a number gets -/

/-- Digits write a number below the next power of ten. -/
theorem ofDigitChars_lt {ds : CStr} (h_ds : ∀ c ∈ ds, c.isDigit = true) (n : ℕ) :
    Nat.ofDigitChars 10 ds n < (n + 1) * 10 ^ ds.length := by
  induction ds generalizing n with
  | nil => simp
  | cons c ds ih =>
    have h_c := isDigit_iff.mp (h_ds c List.mem_cons_self)
    have h_digit : c.toNat - '0'.toNat ≤ 9 := by
      have h_zero : '0'.toNat = 48 := rfl
      omega
    rw [Nat.ofDigitChars_cons, List.length_cons]
    calc Nat.ofDigitChars 10 ds (10 * n + (c.toNat - '0'.toNat))
        < (10 * n + (c.toNat - '0'.toNat) + 1) * 10 ^ ds.length :=
          ih (fun c' h_c' => h_ds c' (List.mem_cons_of_mem _ h_c')) _
      _ ≤ (10 * (n + 1)) * 10 ^ ds.length := Nat.mul_le_mul_right _ (by omega)
      _ = (n + 1) * 10 ^ (ds.length + 1) := by ring

theorem leadingDigits_lt (s : CStr) : leadingDigits s < 10 ^ s.length := by
  unfold leadingDigits
  have h_digits : ∀ c ∈ s.takeWhile Char.isDigit, c.isDigit = true :=
    fun c hc => List.mem_takeWhile_imp hc
  have h_lt := ofDigitChars_lt h_digits 0
  have h_len : (s.takeWhile Char.isDigit).length ≤ s.length :=
    (List.takeWhile_prefix _).length_le
  rw [Nat.zero_add, Nat.one_mul] at h_lt
  exact h_lt.trans_le (Nat.pow_le_pow_right (by norm_num) h_len)

theorem natAbs_signedDigits_lt (s : CStr) : (signedDigits s).natAbs < 10 ^ s.length := by
  unfold signedDigits
  split
  · next s' =>
    have h_lt := leadingDigits_lt s'
    rw [Int.natAbs_neg, Int.natAbs_natCast, List.length_cons, Nat.pow_succ]
    omega
  · next s' =>
    have h_lt := leadingDigits_lt s'
    rw [Int.natAbs_natCast, List.length_cons, Nat.pow_succ]
    omega
  · rw [Int.natAbs_natCast]
    exact leadingDigits_lt _

theorem length_fmtInt_le_of_lt {x : ℤ} {k : ℕ} (h_k : 0 < k) (h : x.natAbs < 10 ^ k) :
    (fmtInt x).length ≤ k + 1 := by
  cases x with
  | ofNat n =>
    have h_len : (Nat.toDigits 10 n).length ≤ k :=
      (Nat.length_toDigits_le_iff (by norm_num) h_k).mpr h
    exact h_len.trans (Nat.le_succ k)
  | negSucc n =>
    have h_len : (Nat.toDigits 10 (n + 1)).length ≤ k :=
      (Nat.length_toDigits_le_iff (by norm_num) h_k).mpr h
    exact Nat.succ_le_succ h_len

/-- A word that is read as a number and printed again grows by at most a sign and a digit. -/
theorem length_fmtInt_atoi_le {s : CStr} (h_s : s ≠ []) :
    (fmtInt (atoi s)).length ≤ s.length + 2 := by
  rcases Nat.lt_or_ge s.length 9 with h_short | h_long
  · -- few digits are within the range of `int`
    have h_abs := natAbs_signedDigits_lt (s.dropWhile isSpace)
    have h_drop : (s.dropWhile isSpace).length ≤ s.length := (List.dropWhile_suffix _).length_le
    have h_pow : 10 ^ (s.dropWhile isSpace).length ≤ 10 ^ s.length :=
      Nat.pow_le_pow_right (by norm_num) h_drop
    have h_range : 10 ^ s.length ≤ 10 ^ 8 := Nat.pow_le_pow_right (by norm_num) (by omega)
    have h_value : atoi s = signedDigits (s.dropWhile isSpace) := by
      unfold atoi strtol10
      rw [min_eq_left (by omega), max_eq_right (by omega)]
      refine toInt32_of_inInt ?_
      unfold InInt
      omega
    rw [h_value]
    have h_len := length_fmtInt_le_of_lt (List.length_pos_of_ne_nil h_s) (h_abs.trans_le h_pow)
    exact h_len.trans (Nat.le_succ _)
  · have h_len := length_fmtInt_le (inInt_atoi s)
    omega

theorem length_toDigits_leadingDigits {s : CStr} (h_s : s ≠ []) :
    (Nat.toDigits 10 (leadingDigits s)).length ≤ s.length :=
  (Nat.length_toDigits_le_iff (by norm_num) (List.length_pos_of_ne_nil h_s)).mpr
    (leadingDigits_lt s)

/-- A number is printed with at most the characters it was read from. -/
theorem length_fmtInt_signedDigits_le {s : CStr} (h_s : s ≠ []) :
    (fmtInt (signedDigits s)).length ≤ s.length := by
  unfold signedDigits
  split
  · next s' =>
    cases h_n : leadingDigits s' with
    | zero =>
      -- a lone sign reads as 0
      exact Nat.succ_le_succ (Nat.zero_le _)
    | succ n =>
      have h_ne : s' ≠ [] := by
        rintro rfl
        exact Nat.succ_ne_zero n h_n.symm
      have h_digits := length_toDigits_leadingDigits h_ne
      rw [h_n] at h_digits
      exact Nat.succ_le_succ h_digits
  · next s' =>
    have h_lt : leadingDigits s' < 10 ^ (s'.length + 1) :=
      (leadingDigits_lt s').trans (Nat.pow_lt_pow_succ (by norm_num))
    exact (Nat.length_toDigits_le_iff (by norm_num) (Nat.succ_pos _)).mpr h_lt
  · exact length_toDigits_leadingDigits h_s

/-- A word that is read as an `int` without overflow does not grow when it is printed again. -/
theorem length_fmtInt_atoi_le_of_inInt {s : CStr} (h_s : s ≠ []) (h : InInt (strtol10 s)) :
    (fmtInt (atoi s)).length ≤ s.length := by
  have h_value : atoi s = signedDigits (s.dropWhile isSpace) := by
    unfold atoi
    rw [toInt32_of_inInt h]
    unfold strtol10 InInt at *
    omega
  rw [h_value]
  cases h_drop : s.dropWhile isSpace with
  | nil =>
    -- only white space, which reads as 0
    exact List.length_pos_of_ne_nil h_s
  | cons c cs =>
    have h_suffix : (c :: cs).length ≤ s.length := by
      rw [← h_drop]
      exact (List.dropWhile_suffix _).length_le
    exact (length_fmtInt_signedDigits_le (List.cons_ne_nil c cs)).trans h_suffix

end CLib
