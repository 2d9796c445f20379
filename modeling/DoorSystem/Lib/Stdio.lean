import DoorSystem.Lib.CInt

/-!
# Lines of standard input

`fgets size s` reads from the text `s` that is still to come: up to a newline, which it keeps, up to
the end of the text, or `size - 1` characters. A line that is longer comes in pieces. `readAll` is
the list of the strings that successive calls read; put together again they are the text
(`flatten_readAll`), and where the lines have room they are the lines (`readAll_lines`).
-/

namespace CLib

/-- At most `k` characters, up to the first newline. -/
def takeLine : ℕ → List Char → List Char × List Char
  | 0, s => ([], s)
  | _ + 1, [] => ([], [])
  | k + 1, c :: s => if c = '\n' then ([c], s) else (c :: (takeLine k s).1, (takeLine k s).2)

/-- `fgets(buf, size, stdin)`: what is read and the rest of the text. -/
def fgets (size : ℕ) (s : List Char) : Option (List Char × List Char) :=
  if s = [] then none else some (takeLine (size - 1) s)

/-- The strings that the first `n` calls of `fgets` read, up to the end of the text or the first
string that `stop` holds of. -/
def readAll (size : ℕ) (stop : List Char → Bool) : ℕ → List Char → List (List Char)
  | 0, _ => []
  | n + 1, s =>
    match fgets size s with
    | none => []
    | some (line, rest) => if stop line then [line] else line :: readAll size stop n rest

/-- The lines up to the first one that `stop` holds of. -/
def upTo (stop : List Char → Bool) : List (List Char) → List (List Char)
  | [] => []
  | l :: ls => if stop l then [l] else l :: upTo stop ls

theorem takeLine_append (k : ℕ) (s : List Char) : (takeLine k s).1 ++ (takeLine k s).2 = s := by
  fun_induction takeLine k s with
  | case1 s => rfl
  | case2 k => rfl
  | case3 k s => rfl
  | case4 k c s h_c ih => rw [List.cons_append, ih]

theorem length_takeLine (k : ℕ) (s : List Char) : (takeLine k s).1.length ≤ k := by
  fun_induction takeLine k s with
  | case1 s => exact le_rfl
  | case2 k => exact Nat.zero_le _
  | case3 k s => exact Nat.succ_le_succ (Nat.zero_le k)
  | case4 k c s h_c ih => exact Nat.succ_le_succ ih

theorem takeLine_ne_nil {k : ℕ} (h_k : 0 < k) {s : List Char} (h_s : s ≠ []) :
    (takeLine k s).1 ≠ [] := by
  obtain ⟨k, rfl⟩ := Nat.exists_eq_succ_of_ne_zero h_k.ne'
  obtain ⟨c, s, rfl⟩ := List.exists_cons_of_ne_nil h_s
  unfold takeLine
  split
  · exact List.cons_ne_nil _ _
  · exact List.cons_ne_nil _ _

/-- A newline ends a string. -/
theorem newline_takeLine (k : ℕ) (s : List Char) : '\n' ∉ (takeLine k s).1.dropLast := by
  fun_induction takeLine k s with
  | case1 s => exact List.not_mem_nil
  | case2 k => exact List.not_mem_nil
  | case3 k s => exact List.not_mem_nil
  | case4 k c s h_c ih =>
    cases h_line : (takeLine k s).1 with
    | nil => exact List.not_mem_nil
    | cons d line =>
      rw [h_line] at ih
      rw [List.dropLast_cons_cons, List.mem_cons]
      exact fun h_mem => h_mem.elim (fun h => h_c h.symm) ih

/-- A line that has room is read as a whole. -/
theorem takeLine_line {k : ℕ} {l : List Char} (h_l : '\n' ∉ l) (h_k : l.length < k)
    (s : List Char) : takeLine k (l ++ '\n' :: s) = (l ++ ['\n'], s) := by
  induction l generalizing k with
  | nil =>
    obtain ⟨k, rfl⟩ := Nat.exists_eq_succ_of_ne_zero (Nat.ne_of_gt h_k)
    rfl
  | cons c l ih =>
    obtain ⟨k, rfl⟩ := Nat.exists_eq_succ_of_ne_zero (Nat.ne_of_gt (Nat.zero_lt_of_lt h_k))
    rw [List.mem_cons, not_or] at h_l
    rw [List.length_cons] at h_k
    rw [List.cons_append]
    unfold takeLine
    rw [if_neg (fun h => h_l.1 h.symm), ih h_l.2 (by omega)]
    rfl

/-- What one call can read: some characters, no more than there is room for, with a newline at
their end or nowhere. -/
structure IsPiece (size : ℕ) (line : List Char) : Prop where
  ne_nil : line ≠ []
  fits : line.length < size
  newline : '\n' ∉ line.dropLast

section ReadAll

variable {size : ℕ} {stop : List Char → Bool}

theorem fgets_spec (h_size : 1 < size) {s line rest : List Char}
    (h : fgets size s = some (line, rest)) : line ++ rest = s ∧ IsPiece size line := by
  unfold fgets at h
  split at h
  · exact absurd h (by simp)
  · next h_s =>
    have h_take := Option.some.inj h
    have h_append := takeLine_append (size - 1) s
    have h_ne := takeLine_ne_nil (Nat.sub_pos_of_lt h_size) h_s
    have h_length := length_takeLine (size - 1) s
    have h_newline := newline_takeLine (size - 1) s
    rw [h_take] at h_append h_ne h_length h_newline
    dsimp only at h_length
    exact ⟨h_append, h_ne, by omega, h_newline⟩

theorem readAll_succ (n : ℕ) (s : List Char) :
    readAll size stop (n + 1) s = match fgets size s with
      | none => []
      | some (line, rest) => if stop line then [line] else line :: readAll size stop n rest := rfl

theorem forall_mem_readAll (h_size : 1 < size) (n : ℕ) (s : List Char) (stop : List Char → Bool) :
    ∀ line ∈ readAll size stop n s, IsPiece size line := by
  induction n generalizing s with
  | zero => exact fun _ h => absurd h List.not_mem_nil
  | succ n ih =>
    intro l h_l
    unfold readAll at h_l
    cases h_read : fgets size s with
    | none =>
      rw [h_read] at h_l
      exact absurd h_l List.not_mem_nil
    | some r =>
      -- the induction is on the number of reads
      have h_piece := (fgets_spec h_size h_read).2
      rw [h_read] at h_l
      dsimp only at h_l
      split at h_l
      · rw [List.mem_singleton.mp h_l]
        exact h_piece
      · rcases List.mem_cons.mp h_l with rfl | h_l
        · exact h_piece
        · exact ih r.2 l h_l

/-- **Nothing is lost**: what is read is the beginning of the text, and all of it where no string
stops the reading. -/
theorem flatten_readAll (h_size : 1 < size) (n : ℕ) (s : List Char) (stop : List Char → Bool) :
    (readAll size stop n s).flatten <+: s ∧
      (s.length ≤ n → (∀ line ∈ readAll size stop n s, stop line = false) →
        (readAll size stop n s).flatten = s) := by
  induction n generalizing s with
  | zero =>
    refine ⟨List.nil_prefix, fun h_length _ => ?_⟩
    exact (List.eq_nil_of_length_eq_zero (Nat.le_zero.mp h_length)).symm
  | succ n ih =>
    unfold readAll
    cases h_read : fgets size s with
    | none =>
      refine ⟨List.nil_prefix, fun _ _ => ?_⟩
      unfold fgets at h_read
      split at h_read
      · next h_s => exact h_s.symm
      · exact absurd h_read (by simp)
    | some r =>
      obtain ⟨line, rest⟩ := r
      obtain ⟨h_append, h_piece⟩ := fgets_spec h_size h_read
      obtain ⟨h_begin, h_all⟩ := ih rest
      dsimp only
      -- a stopping line is the last one read, and then what follows is left
      by_cases h_stop : stop line = true
      · rw [if_pos h_stop]
        refine ⟨?_, fun _ h_none => ?_⟩
        · rw [List.flatten_singleton, ← h_append]
          exact List.prefix_append line rest
        · exact absurd h_stop (by simp [h_none line List.mem_cons_self])
      · rw [if_neg h_stop, List.flatten_cons, ← h_append]
        refine ⟨List.prefix_append_right_inj line |>.mpr h_begin, fun h_length h_none => ?_⟩
        have h_pos := List.length_pos_of_ne_nil h_piece.ne_nil
        rw [List.length_append] at h_length
        rw [h_all (by omega) (fun l h_l => h_none l (List.mem_cons_of_mem line h_l))]

/-- **Lines that have room are read one by one.** -/
theorem readAll_lines {ls : List (List Char)}
    (h_ls : ∀ l ∈ ls, '\n' ∉ l ∧ l.length + 1 < size) (n : ℕ) :
    readAll size stop n (ls.flatMap (fun l => l ++ ['\n'])) =
      (upTo stop (ls.map (fun l => l ++ ['\n']))).take n := by
  induction ls generalizing n with
  | nil =>
    cases n <;> rfl
  | cons l ls ih =>
    obtain ⟨h_l, h_size⟩ := h_ls l List.mem_cons_self
    cases n with
    | zero => rfl
    | succ n =>
      -- one read takes one line, since each fits the buffer
      have h_read : fgets size ((l :: ls).flatMap (fun l => l ++ ['\n'])) =
          some (l ++ ['\n'], ls.flatMap (fun l => l ++ ['\n'])) := by
        unfold fgets
        rw [List.flatMap_cons, List.append_assoc, List.singleton_append, if_neg (by simp),
          takeLine_line h_l (by omega)]
      unfold readAll upTo
      rw [h_read, List.map_cons]
      dsimp only
      by_cases h_stop : stop (l ++ ['\n']) = true
      · rw [if_pos h_stop, if_pos h_stop, List.take_succ_cons, List.take_nil]
      · rw [if_neg h_stop, if_neg h_stop, List.take_succ_cons,
          ih (fun l' h_l' => h_ls l' (List.mem_cons_of_mem l h_l'))]

end ReadAll

theorem scanWord_white (n : ℕ) {d : Char} (h_d : isSpace d = true) (s : CStr) :
    scanWord n (d :: s) = scanWord n s := by
  unfold scanWord
  rw [List.dropWhile_cons_of_pos h_d]

/-- A word is scanned up to the white space behind it. -/
theorem scanWord_space {w : CStr} (h_w : IsToken isSpace w) {n : ℕ} (h_n : w.length ≤ n) {d : Char}
    (h_d : isSpace d = true) (rest : CStr) :
    scanWord n (w ++ d :: rest) = some (w, d :: rest) := by
  have h_drop : (w ++ d :: rest).dropWhile isSpace = w ++ d :: rest := by
    obtain ⟨c, w', rfl⟩ := List.exists_cons_of_ne_nil h_w.1
    exact List.dropWhile_cons_of_neg (by simp [h_w.2 c List.mem_cons_self])
  have h_take : (w ++ d :: rest).takeWhile (fun c => !isSpace c) = w := by
    rw [List.takeWhile_append_of_pos (fun c h_c => by simp [h_w.2 c h_c]),
      List.takeWhile_cons_of_neg (by simp [h_d]), List.append_nil]
  unfold scanWord
  dsimp only
  rw [h_drop, h_take, List.take_of_length_le h_n, if_neg h_w.1, List.drop_left]

end CLib
