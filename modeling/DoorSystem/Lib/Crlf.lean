import DoorSystem.Lib.CString

/-!
# Lines that end in CR LF

`lineEnd s` is the search for the first line end: the line before it and the text behind it.
`lineEnd_eq_some_iff` says where it cuts, and `lineInduction` is the induction over the lines of a
text. `joinLines` puts lines together again, and `findSome_takeWhile_iff` is about searches that end
at the first bad line.
-/

namespace CLib

/-- The line end. -/
def crlf : CStr := ['\r', '\n']

/-- `strstr(s, "\r\n")`, as the text before the line end and the text behind it. -/
def lineEnd : CStr → Option (CStr × CStr)
  | '\r' :: '\n' :: s => some ([], s)
  | c :: s => (lineEnd s).map (fun p => (c :: p.1, p.2))
  | [] => none

/-- A text without a line end. -/
def NoCrlf (s : CStr) : Prop := ¬ crlf <:+: s

/-- Each line with its end. -/
def joinLines (lines : List CStr) : CStr := lines.flatMap (fun l => l ++ crlf)

theorem joinLines_cons (l : CStr) (ls : List CStr) :
    joinLines (l :: ls) = l ++ crlf ++ joinLines ls := List.flatMap_cons

/-- The text behind the line end is what `strstr` finds. -/
theorem strstr_crlf (s : CStr) : strstr crlf s = (lineEnd s).map Prod.snd := by
  induction s using lineEnd.induct with
  | case1 s => rfl
  | case2 c s h_no ih =>
    -- the line end is not here, so both go on
    have h_start : crlf.isPrefixOf (c :: s) = false := by
      refine Bool.eq_false_iff.mpr (fun h => ?_)
      obtain ⟨t, h_t⟩ := List.isPrefixOf_iff_prefix.mp h
      obtain ⟨h_c, h_s⟩ := List.cons.inj h_t
      exact h_no t h_c.symm h_s.symm
    unfold strstr
    rw [h_start, lineEnd.eq_2 c s h_no, ih, Option.map_map]
    rfl
  | case3 => rfl

theorem noCrlf_cons_iff {c : Char} {s : CStr} :
    NoCrlf (c :: s) ↔ ¬ crlf <+: c :: s ∧ NoCrlf s := by
  unfold NoCrlf
  rw [List.infix_cons_iff, not_or]

/-- **Cut.** The line ends at the first line end. -/
theorem lineEnd_eq_some_iff {s l rest : CStr} :
    lineEnd s = some (l, rest) ↔ s = l ++ crlf ++ rest ∧ NoCrlf l := by
  constructor
  · intro h
    induction s using lineEnd.induct generalizing l with
    | case1 s =>
      obtain ⟨rfl, rfl⟩ := Prod.mk.inj (Option.some.inj h)
      exact ⟨rfl, fun h_in => absurd (List.infix_nil.mp h_in) (by simp [crlf])⟩
    | case2 c s h_no ih =>
      rw [lineEnd.eq_2 c s h_no] at h
      obtain ⟨⟨l', rest'⟩, h_rest, h_eq⟩ := Option.map_eq_some_iff.mp h
      obtain ⟨rfl, rfl⟩ := Prod.mk.inj h_eq
      obtain ⟨rfl, h_line⟩ := ih h_rest
      refine ⟨rfl, noCrlf_cons_iff.mpr ⟨?_, h_line⟩⟩
      -- a line end at the start would have been found
      rintro ⟨t, h_t⟩
      obtain ⟨rfl, h_l⟩ := List.cons.inj h_t
      have h_lf : '\n' :: t = l' := h_l
      refine h_no (t ++ crlf ++ rest') rfl ?_
      show l' ++ crlf ++ rest' = _
      rw [← h_lf]
      rfl
    | case3 => exact absurd h (by simp [lineEnd])
  · rintro ⟨rfl, h_line⟩
    induction l with
    | nil => rfl
    | cons c l ih =>
      obtain ⟨h_start, h_l⟩ := noCrlf_cons_iff.mp h_line
      have h_no : ∀ t, c = '\r' → l ++ crlf ++ rest = '\n' :: t → False := by
        rintro t rfl h_t
        cases l with
        | nil => exact absurd (List.cons.inj h_t).1 (by decide)
        | cons c' l' =>
          obtain rfl : c' = '\n' := (List.cons.inj h_t).1
          exact h_start ⟨l', rfl⟩
      show lineEnd (c :: (l ++ crlf ++ rest)) = _
      rw [lineEnd.eq_2 c _ h_no, ih h_l]
      rfl

/-- **A search that ends at the first bad line** finds the first good line with a value. -/
theorem findSome_takeWhile_iff {α β : Type*} {good : α → Bool} {f : α → Option β} {ls : List α}
    {b : β} : (ls.takeWhile good).findSome? f = some b ↔
      ∃ before l behind, ls = before ++ l :: behind ∧
        (∀ l' ∈ before, good l' = true ∧ f l' = none) ∧ good l = true ∧ f l = some b := by
  constructor
  · intro h
    obtain ⟨before, l, after, h_lines, h_l, h_before⟩ := List.findSome?_eq_some_iff.mp h
    have h_good : ∀ l' ∈ before ++ l :: after, good l' = true := by
      rw [← h_lines]
      exact fun l' h_l' => List.mem_takeWhile_imp h_l'
    -- behind the hit stands the rest of the good lines, then what was cut off
    refine ⟨before, l, after ++ ls.dropWhile good, ?_, fun l' h_l' => ?_,
      h_good l (List.mem_append_right _ List.mem_cons_self), h_l⟩
    · calc ls
          = ls.takeWhile good ++ ls.dropWhile good := List.takeWhile_append_dropWhile.symm
        _ = before ++ l :: (after ++ ls.dropWhile good) := by
          rw [h_lines, List.append_assoc, List.cons_append]
    · exact ⟨h_good l' (List.mem_append_left _ h_l'), h_before l' h_l'⟩
  · -- the cut comes behind the hit, so the hit is still there
    rintro ⟨before, l, behind, rfl, h_before, h_good, h_l⟩
    have h_none : before.findSome? f = none :=
      List.findSome?_eq_none_iff.mpr (fun l' h_l' => (h_before l' h_l').2)
    rw [List.takeWhile_append_of_pos (fun l' h_l' => (h_before l' h_l').1),
      List.takeWhile_cons_of_pos h_good, List.findSome?_append, h_none, Option.none_or,
      List.findSome?_cons, h_l]

/-- What is left behind a line is shorter. -/
theorem length_lt_of_lineEnd {s l rest : CStr} (h : lineEnd s = some (l, rest)) :
    rest.length < s.length := by
  rw [(lineEnd_eq_some_iff.mp h).1, List.length_append, List.length_append]
  show rest.length < l.length + 2 + rest.length
  omega

/-- **Induction over the lines of a text.** -/
@[elab_as_elim]
theorem lineInduction {P : CStr → Prop} (h_end : ∀ s, lineEnd s = none → P s)
    (h_line : ∀ s l rest, lineEnd s = some (l, rest) → P rest → P s) (s : CStr) : P s := by
  induction h_len : s.length using Nat.strong_induction_on generalizing s with
  | h n ih =>
    cases h_s : lineEnd s with
    | none => exact h_end s h_s
    | some p =>
      have h_lt := length_lt_of_lineEnd h_s
      exact h_line s p.1 p.2 h_s (ih p.2.length (h_len ▸ h_lt) p.2 rfl)

end CLib
