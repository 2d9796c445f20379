import DoorSystem.Lib.CString
import Mathlib

/-!
# Text as JavaScript sees it

`trim`, `split` on white space and `toUpperCase` for texts of Unicode characters. White space is
that of the language standard. The table of upper-case letters is a parameter (`UpperCase`): it is
`Char.toUpper` on ASCII, what it gives is upper case already, and it neither makes nor removes white
space. `UpperCase.ascii` is the table that knows the ASCII letters only.
-/

namespace CLib

namespace Js

/-! ### White space -/

/-- A character that `\s` matches and `trim` removes. -/
def isWhite (c : Char) : Bool :=
  (9 ≤ c.toNat && c.toNat ≤ 13) || (0x2000 ≤ c.toNat && c.toNat ≤ 0x200A) ||
    [0x20, 0xA0, 0x1680, 0x2028, 0x2029, 0x202F, 0x205F, 0x3000, 0xFEFF].contains c.toNat

/-- `s.trim()`. -/
def trim (s : CStr) : CStr := (s.dropWhile isWhite).rdropWhile isWhite

/-- The words of `s.split(/\s+/)`, for a trimmed text with at least one word. -/
def words (s : CStr) : List CStr := tokens isWhite s

/-- A separator of `/[,\s]+/`. -/
def isListSep (c : Char) : Bool := c = ',' || isWhite c

/-- `s.split(/[,\s]+/).filter(Boolean)`. -/
def listWords (s : CStr) : List CStr := tokens isListSep s

/-- Visible ASCII characters are no white space. -/
theorem isWhite_of_visible {c : Char} (h_low : 33 ≤ c.toNat) (h_high : c.toNat < 128) :
    isWhite c = false := by
  unfold isWhite
  simp only [Bool.or_eq_false_iff, Bool.and_eq_false_iff, decide_eq_false_iff_not]
  refine ⟨⟨Or.inr (by omega), Or.inl (by omega)⟩, ?_⟩
  rw [Bool.eq_false_iff]
  intro h_mem
  have h_code := List.contains_iff_mem.mp h_mem
  simp only [List.mem_cons, List.not_mem_nil, or_false] at h_code
  omega

theorem trim_of_ends {s : CStr} (h_first : ∀ c ∈ s.head?, isWhite c = false)
    (h_last : ∀ c ∈ s.getLast?, isWhite c = false) : trim s = s := by
  have h_front : s.dropWhile isWhite = s := by
    cases s with
    | nil => rfl
    | cons c cs => exact List.dropWhile_cons_of_neg (by rw [h_first c rfl]; simp)
  unfold trim
  rw [h_front]
  refine List.rdropWhile_eq_self_iff.mpr (fun h_ne => ?_)
  rw [h_last _ (List.getLast?_eq_some_getLast h_ne)]
  simp

/-- The words of a text are those of the trimmed text. -/
theorem words_trim (s : CStr) : words (trim s) = words s := by
  have h_rest : ∀ c ∈ (s.dropWhile isWhite).rtakeWhile isWhite, isWhite c = true :=
    fun _ h_c => List.mem_rtakeWhile_imp h_c
  have h_back : words (trim s) = words (s.dropWhile isWhite) := by
    unfold words trim
    rw [← tokens_append_of_forall_delim _ h_rest, List.rdropWhile_append_rtakeWhile]
  rw [h_back]
  exact tokens_dropWhile s

theorem isToken_of_mem_words {s w : CStr} (h_w : w ∈ words s) : IsToken isWhite w :=
  isToken_of_mem_tokens h_w

/-! ### Upper case -/

/-- A table of upper-case letters. -/
structure UpperCase where
  letter : Char → List Char
  ascii : ∀ c, c.toNat < 128 → letter c = [c.toUpper]
  ne_nil : ∀ c, letter c ≠ []
  /-- An upper-case letter stays. -/
  stays : ∀ c, ∀ d ∈ letter c, letter d = [d]
  white : ∀ c, ∀ d ∈ letter c, isWhite d = isWhite c

variable (U : UpperCase)

/-- `s.toUpperCase()`. -/
def UpperCase.toUpperCase (s : CStr) : CStr := s.flatMap U.letter

theorem UpperCase.toUpperCase_eq_self {s : CStr} (h_s : ∀ c ∈ s, U.letter c = [c]) :
    U.toUpperCase s = s := by
  induction s with
  | nil => rfl
  | cons c cs ih =>
    show U.letter c ++ U.toUpperCase cs = c :: cs
    rw [h_s c List.mem_cons_self, ih (fun d h_d => h_s d (List.mem_cons_of_mem _ h_d))]
    rfl

/-- The letters of an upper-case text are upper case. -/
theorem UpperCase.letter_of_mem {s : CStr} {c : Char} (h_c : c ∈ U.toUpperCase s) :
    U.letter c = [c] := by
  obtain ⟨d, -, h_d⟩ := List.mem_flatMap.mp h_c
  exact U.stays d c h_d

theorem UpperCase.toUpperCase_toUpperCase (s : CStr) :
    U.toUpperCase (U.toUpperCase s) = U.toUpperCase s :=
  U.toUpperCase_eq_self (fun _ h_c => U.letter_of_mem h_c)

/-- A word of an upper-case text is upper case. -/
theorem UpperCase.toUpperCase_of_mem_tokens {delim : Char → Bool} {s w : CStr}
    (h_w : w ∈ tokens delim (U.toUpperCase s)) : U.toUpperCase w = w :=
  U.toUpperCase_eq_self (fun _ h_c => U.letter_of_mem (mem_of_mem_tokens h_w h_c))

/-- ASCII text without lower-case letters is upper case. -/
theorem UpperCase.toUpperCase_of_ascii {s : CStr}
    (h_s : ∀ c ∈ s, c.toNat < 128 ∧ c.toUpper = c) : U.toUpperCase s = s := by
  refine U.toUpperCase_eq_self (fun c h_c => ?_)
  rw [U.ascii c (h_s c h_c).1, (h_s c h_c).2]

/-- Upper case keeps what is at the ends of a text free of white space. -/
theorem UpperCase.trim_toUpperCase {s : CStr} (h_first : ∀ c ∈ s.head?, isWhite c = false)
    (h_last : ∀ c ∈ s.getLast?, isWhite c = false) :
    trim (U.toUpperCase s) = U.toUpperCase s := by
  refine trim_of_ends (fun c h_c => ?_) (fun c h_c => ?_)
  · -- the first character is the first of an image, and images keep what is white
    cases s with
    | nil => exact absurd h_c (by simp [toUpperCase])
    | cons d ds =>
      obtain ⟨e, es, h_letter⟩ := List.exists_cons_of_ne_nil (U.ne_nil d)
      change c ∈ (U.letter d ++ U.toUpperCase ds).head? at h_c
      rw [h_letter] at h_c
      obtain rfl : e = c := Option.some.inj h_c
      rw [U.white d e (by rw [h_letter]; exact List.mem_cons_self)]
      exact h_first d rfl
  · -- and so for the last
    rcases List.eq_nil_or_concat s with rfl | ⟨ds, d, rfl⟩
    · exact absurd h_c (by simp [toUpperCase])
    · rw [List.concat_eq_append] at h_c h_last
      unfold toUpperCase at h_c
      rw [List.flatMap_append, List.flatMap_singleton,
        List.getLast?_append_of_ne_nil _ (U.ne_nil d)] at h_c
      rw [U.white d c (List.mem_of_getLast? h_c)]
      exact h_last d (by simp)

/-- The table of the ASCII letters. -/
def UpperCase.asciiLetters : UpperCase where
  letter := fun c => [c.toUpper]
  ascii := fun _ _ => rfl
  ne_nil := fun _ => List.cons_ne_nil _ _
  stays := by
    intro c d h_d
    obtain rfl := List.mem_singleton.mp h_d
    rw [Char.toUpper_toUpper_eq_toUpper]
  white := by
    intro c d h_d
    obtain rfl := List.mem_singleton.mp h_d
    by_cases h_lower : c.isLower = true
    · -- neither a letter nor its upper case is white space
      have h_code : 97 ≤ c.toNat ∧ c.toNat ≤ 122 := by
        unfold Char.isLower at h_lower
        simpa [Char.le_def, UInt32.le_iff_toNat_le] using h_lower
      have h_upper : c.toUpper.toNat = c.toNat - 32 := by
        rw [Char.toUpper_eq_of_isLower h_lower, Char.toNat_ofNat]
        exact if_pos (Or.inl (by omega))
      rw [isWhite_of_visible (c := c) (by omega) (by omega), isWhite_of_visible]
      · omega
      · omega
    · rw [Char.toUpper_eq_of_not_isLower h_lower]

end Js

end CLib
