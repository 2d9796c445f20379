import DoorSystem.Lib.CString
import DoorSystem.Lib.Run
import Mathlib.Data.List.DropRight

/-!
# Paths with steps up

A path is a list of steps, into an entry or up. `walk` follows it from a directory; a step up from
the root stays there. Every path is a number of steps up and then a way down, `reduced`, and leads
to the directory short of that many entries, with the way down behind it (`walk_eq`). So it stays
below the directory where it climbs nothing, or climbs and comes down the same way again
(`isPrefix_walk_iff`).

The second part is the text of paths: `pathSteps` reads one, and `normalize`, `join` and `basename`
are the functions of the `path` module of Node, for its POSIX flavour.
-/

namespace CLib

/-! ### Steps -/

/-- A step of a path. -/
inductive PathStep (α : Type*)
  | up
  | into (a : α)

section Steps

variable {α : Type*}

/-- The place after a step. -/
def PathStep.follow (dir : List α) : PathStep α → List α
  | .up => dir.dropLast
  | .into a => dir ++ [a]

/-- The place after a path. -/
def walk (dir : List α) (ss : List (PathStep α)) : List α := run PathStep.follow dir ss

/-- A step behind a path that climbs `r.1` entries and goes down `r.2`. -/
def PathStep.reduce (r : ℕ × List α) : PathStep α → ℕ × List α
  | .up => if r.2.isEmpty then (r.1 + 1, []) else (r.1, r.2.dropLast)
  | .into a => (r.1, r.2 ++ [a])

/-- How far a path climbs, and its way down from there. -/
def reduced (ss : List (PathStep α)) : ℕ × List α := run PathStep.reduce (0, []) ss

theorem rdrop_succ (dir : List α) (k : ℕ) : dir.rdrop (k + 1) = (dir.rdrop k).dropLast := by
  unfold List.rdrop
  rw [List.dropLast_eq_take, List.take_take, List.length_take]
  congr 1
  omega

/-- **Where a path leads to.** -/
theorem walk_eq (dir : List α) (ss : List (PathStep α)) :
    walk dir ss = dir.rdrop (reduced ss).1 ++ (reduced ss).2 := by
  have h_step : ∀ (r : ℕ × List α) (s : PathStep α),
      dir.rdrop (s.reduce r).1 ++ (s.reduce r).2 = s.follow (dir.rdrop r.1 ++ r.2) := by
    rintro ⟨k, down⟩ s
    cases s with
    | into a => exact (List.append_assoc _ _ _).symm
    | up =>
      unfold PathStep.reduce PathStep.follow
      dsimp only
      cases down with
      | nil =>
        -- there is nothing to go back to, so the path climbs one more
        rw [if_pos (by simp), List.append_nil, List.append_nil]
        exact rdrop_succ dir k
      | cons a down =>
        rw [if_neg (by simp), List.dropLast_append_of_ne_nil (List.cons_ne_nil a down)]
  have h_run := run_simulation (fun r : ℕ × List α => dir.rdrop r.1 ++ r.2) h_step (0, []) ss
  rw [List.rdrop_zero, List.append_nil] at h_run
  exact h_run.symm

/-- **Paths that stay below a directory** come down the way they have climbed. -/
theorem isPrefix_walk_iff (dir : List α) (ss : List (PathStep α)) :
    dir <+: walk dir ss ↔ dir.rtake (reduced ss).1 <+: (reduced ss).2 := by
  have h_dir : dir = dir.rdrop (reduced ss).1 ++ dir.rtake (reduced ss).1 := by
    unfold List.rdrop List.rtake
    exact (List.take_append_drop _ dir).symm
  rw [walk_eq]
  nth_rewrite 1 [h_dir]
  exact List.prefix_append_right_inj _

/-- A way down. -/
theorem walk_into (dir ws : List α) : walk dir (ws.map .into) = dir ++ ws := by
  induction ws generalizing dir with
  | nil => exact (List.append_nil dir).symm
  | cons w ws ih =>
    rw [List.map_cons]
    unfold walk at ih ⊢
    rw [run_cons, ih]
    exact List.append_assoc dir [w] ws

/-- A path without a step up is a way down. -/
theorem exists_into {ss : List (PathStep α)} (h : ∀ s ∈ ss, s ≠ .up) :
    ∃ ws : List α, ss = ws.map .into := by
  induction ss with
  | nil => exact ⟨[], rfl⟩
  | cons s ss ih =>
    obtain ⟨ws, rfl⟩ := ih (fun s' h_s' => h s' (List.mem_cons_of_mem s h_s'))
    cases s with
    | up => exact absurd rfl (h .up List.mem_cons_self)
    | into w => exact ⟨w :: ws, rfl⟩

/-- **Every place is reached from everywhere**: up to the root and down again. -/
theorem walk_up_into (dir ws : List α) {k : ℕ} (h_k : dir.length ≤ k) :
    walk dir (List.replicate k .up ++ ws.map .into) = ws := by
  -- enough steps up reach the root, and more stay there
  have h_up : ∀ (k : ℕ) (dir : List α), dir.length ≤ k →
      walk dir (List.replicate k .up) = [] := by
    intro k
    induction k with
    | zero =>
      intro dir h
      show dir = []
      exact List.eq_nil_of_length_eq_zero (Nat.le_zero.mp h)
    | succ k ih =>
      intro dir h
      rw [List.replicate_succ]
      refine ih dir.dropLast ?_
      rw [List.length_dropLast]
      omega
  unfold walk at h_up ⊢
  rw [run_append, h_up k dir h_k]
  exact walk_into [] ws

/-- What holds of the entries of the directory and of the path holds of those of the place. -/
theorem forall_mem_walk {P : α → Prop} {dir : List α} (h_dir : ∀ w ∈ dir, P w)
    {ss : List (PathStep α)} (h_ss : ∀ w, .into w ∈ ss → P w) : ∀ w ∈ walk dir ss, P w := by
  refine run_invariant_of_forall (fun dir => ∀ w ∈ dir, P w)
    (C := fun s : PathStep α => ∀ w, s = .into w → P w) ?_ h_dir ?_
  · intro dir s h_s h w h_w
    cases s with
    | up => exact h w (List.mem_of_mem_dropLast h_w)
    | into a =>
      rcases List.mem_append.mp h_w with h_old | h_new
      · exact h w h_old
      · rw [List.mem_singleton.mp h_new]
        exact h_s a rfl
  · rintro s h_s w rfl
    exact h_ss w h_s

end Steps

/-! ### The text of paths -/

def isSlash (c : Char) : Bool := c = '/'

/-- The step that a segment of a path stands for. -/
def pathStep (w : CStr) : Option (PathStep CStr) :=
  if w = ['.'] then none
  else if w = ['.', '.'] then some .up
  else some (.into w)

/-- The steps of a path. -/
def pathSteps (s : CStr) : List (PathStep CStr) := (tokens isSlash s).filterMap pathStep

/-- The name of an entry of a directory. -/
def IsEntry (w : CStr) : Prop := IsToken isSlash w ∧ w ≠ ['.'] ∧ w ≠ ['.', '.']

instance (w : CStr) : Decidable (IsEntry w) := inferInstanceAs (Decidable (_ ∧ _))

/-- The absolute path of a place. -/
def absText (ws : List CStr) : CStr := '/' :: ['/'].intercalate ws

theorem IsEntry.pathStep {w : CStr} (h_w : IsEntry w) : pathStep w = some (.into w) := by
  unfold CLib.pathStep
  rw [if_neg h_w.2.1, if_neg h_w.2.2]

theorem pathSteps_append (a b : CStr) :
    pathSteps (a ++ '/' :: b) = pathSteps a ++ pathSteps b := by
  unfold pathSteps
  rw [tokens_append_delim rfl, List.filterMap_append]

theorem pathSteps_cons (b : CStr) : pathSteps ('/' :: b) = pathSteps b := pathSteps_append [] b

theorem tokens_intercalate {delim : Char → Bool} {d : Char} (h_d : delim d = true)
    {ws : List CStr} (h_ws : ∀ w ∈ ws, IsToken delim w) :
    tokens delim ([d].intercalate ws) = ws := by
  induction ws with
  | nil => exact tokens_nil
  | cons w ws ih =>
    have h_w := tokens_token (h_ws w List.mem_cons_self)
    have h_tail := ih (fun v h_v => h_ws v (List.mem_cons_of_mem w h_v))
    cases ws with
    | nil => rw [List.intercalate_singleton, h_w]
    | cons v ws =>
      rw [List.intercalate_cons_cons, List.append_assoc, List.singleton_append,
        tokens_append_delim h_d, h_w, h_tail, List.singleton_append]

theorem tokens_absText {ws : List CStr} (h_ws : ∀ w ∈ ws, IsEntry w) :
    tokens isSlash (absText ws) = ws := by
  unfold absText
  rw [tokens_cons_delim rfl]
  exact tokens_intercalate rfl (fun w h_w => (h_ws w h_w).1)

/-- The path of a place goes down to it. -/
theorem pathSteps_absText {ws : List CStr} (h_ws : ∀ w ∈ ws, IsEntry w) :
    pathSteps (absText ws) = ws.map .into := by
  unfold pathSteps
  rw [tokens_absText h_ws]
  induction ws with
  | nil => rfl
  | cons w ws ih =>
    rw [List.filterMap_cons_some (h_ws w List.mem_cons_self).pathStep, List.map_cons,
      ih (fun v h_v => h_ws v (List.mem_cons_of_mem w h_v))]

/-- What the text of a path goes into are entries. -/
theorem isEntry_of_mem_pathSteps {s w : CStr} (h_w : .into w ∈ pathSteps s) : IsEntry w := by
  obtain ⟨v, h_v, h_step⟩ := List.mem_filterMap.mp h_w
  unfold pathStep at h_step
  split at h_step
  · exact absurd h_step (by simp)
  · next h_dot =>
    split at h_step
    · exact absurd h_step (by simp)
    · next h_dots =>
      obtain rfl : v = w := by injection h_step with h_step; injection h_step
      exact ⟨isToken_of_mem_tokens h_v, h_dot, h_dots⟩

theorem up_mem_pathSteps_iff {s : CStr} :
    .up ∈ pathSteps s ↔ ['.', '.'] ∈ tokens isSlash s := by
  unfold pathSteps
  rw [List.mem_filterMap]
  constructor
  · rintro ⟨v, h_v, h_step⟩
    unfold pathStep at h_step
    split at h_step
    · exact absurd h_step (by simp)
    · split at h_step
      · next h_dots => rwa [← h_dots]
      · exact absurd h_step (by simp)
  · exact fun h_mem => ⟨['.', '.'], h_mem, rfl⟩

/-- Steps up in front of a path. -/
theorem pathSteps_ups (k : ℕ) (b : CStr) :
    pathSteps ((List.replicate k "/..".toList).flatten ++ '/' :: b) =
      List.replicate k .up ++ pathSteps b := by
  have h_ups : pathSteps (List.replicate k "/..".toList).flatten = List.replicate k .up := by
    induction k with
    | zero => rfl
    | succ k ih =>
      rw [List.replicate_succ', List.flatten_append, List.replicate_succ', ← ih]
      exact pathSteps_append _ ['.', '.']
  rw [pathSteps_append, h_ups]

/-! ### The functions of the module -/

/-- Node's `path.normalize`. -/
def normalize (s : CStr) : CStr :=
  if s = [] then ['.']
  else
    let isAbsolute := s.head? = some '/'
    let trailing := s.getLast? = some '/'
    let r := reduced (pathSteps s)
    let segments := if isAbsolute then r.2 else List.replicate r.1 ['.', '.'] ++ r.2
    (if isAbsolute then ['/'] else []) ++
      (if segments = [] then if isAbsolute then [] else if trailing then ['.', '/'] else ['.']
      else ['/'].intercalate segments ++ if trailing then ['/'] else [])

/-- Node's `path.join`. -/
def join (args : List CStr) : CStr :=
  normalize (['/'].intercalate (args.filter (fun a => !a.isEmpty)))

/-- Node's `path.basename`. -/
def basename (s : CStr) : CStr := (tokens isSlash s).getLast?.getD []


theorem getLast_intercalate {d : Char} {ws : List CStr} (h_ws : ∀ w ∈ ws, w ≠ [])
    (h_ne : ws ≠ []) : ∃ w ∈ ws, ([d].intercalate ws).getLast? = w.getLast? := by
  induction ws with
  | nil => exact absurd rfl h_ne
  | cons w ws ih =>
    cases ws with
    | nil => exact ⟨w, List.mem_cons_self, by rw [List.intercalate_singleton]⟩
    | cons v ws =>
      obtain ⟨u, h_u, h_last⟩ :=
        ih (fun u h_u => h_ws u (List.mem_cons_of_mem w h_u)) (List.cons_ne_nil v ws)
      refine ⟨u, List.mem_cons_of_mem w h_u, ?_⟩
      have h_some : u.getLast?.isSome := by
        rw [List.getLast?_isSome]
        exact h_ws u (List.mem_cons_of_mem w h_u)
      rw [List.intercalate_cons_cons, List.getLast?_append, h_last]
      exact Option.or_of_isSome h_some

/-- Only the path of the root ends in a slash. -/
theorem getLast_absText {ws : List CStr} (h_ws : ∀ w ∈ ws, IsEntry w) (h_ne : ws ≠ []) :
    (absText ws).getLast? ≠ some '/' := by
  obtain ⟨w, h_w, h_last⟩ :=
    getLast_intercalate (d := '/') (fun w h_w => (h_ws w h_w).1.1) h_ne
  intro h_slash
  have h_some : (['/'].intercalate ws).getLast?.isSome := by
    rw [h_last, List.getLast?_isSome]
    exact (h_ws w h_w).1.1
  have h_text : (['/'].intercalate ws).getLast? = some '/' := by
    unfold absText at h_slash
    rw [List.getLast?_cons_of_ne_nil (List.getLast?_isSome.mp h_some)] at h_slash
    exact h_slash
  rw [h_last] at h_text
  have h_delim := (h_ws w h_w).1.2 '/' (List.mem_of_getLast? h_text)
  exact absurd h_delim (by decide)

theorem absText_ne_slash {ws : List CStr} (h_ws : ∀ w ∈ ws, IsEntry w) (h_ne : ws ≠ []) :
    absText ws ≠ ['/'] :=
  fun h_text => getLast_absText h_ws h_ne (by rw [h_text]; rfl)

/-- An absolute path is brought to the path of the place it leads to from the root. -/
theorem normalize_absolute {s : CStr} (h_s : s.head? = some '/') :
    normalize s = absText (walk [] (pathSteps s)) ++
      (if walk [] (pathSteps s) ≠ [] ∧ s.getLast? = some '/' then ['/'] else []) := by
  have h_ne : s ≠ [] := by
    rintro rfl
    exact absurd h_s (by simp)
  have h_place : walk [] (pathSteps s) = (reduced (pathSteps s)).2 := by
    rw [walk_eq, List.rdrop_nil, List.nil_append]
  rw [h_place]
  unfold normalize absText
  rw [if_neg h_ne]
  simp only [h_s, if_true]
  by_cases h_nil : (reduced (pathSteps s)).2 = []
  · simp [h_nil]
  · simp [h_nil]

theorem join_pair {a b : CStr} (h_a : a ≠ []) (h_b : b ≠ []) :
    join [a, b] = normalize (a ++ '/' :: b) := by
  unfold join
  have h_filter : [a, b].filter (fun c => !c.isEmpty) = [a, b] := by
    simp [h_a, h_b]
  rw [h_filter, List.intercalate_cons_cons, List.intercalate_singleton, List.append_assoc,
    List.singleton_append]

/-- **Joining a directory and a path** gives the path of the place that the path leads to from the
directory. A slash at its end stays. -/
theorem join_absText {dir : List CStr} (h_dir : ∀ w ∈ dir, IsEntry w) {s : CStr} (h_s : s ≠ []) :
    join [absText dir, s] = absText (walk dir (pathSteps s)) ++
      (if walk dir (pathSteps s) ≠ [] ∧ s.getLast? = some '/' then ['/'] else []) := by
  have h_last : (absText dir ++ '/' :: s).getLast? = s.getLast? := by
    rw [List.getLast?_append_of_ne_nil _ (List.cons_ne_nil _ _),
      List.getLast?_cons_of_ne_nil h_s]
  -- down to the directory first, and from there along the path
  have h_place : walk [] (pathSteps (absText dir ++ '/' :: s)) = walk dir (pathSteps s) := by
    rw [pathSteps_append, pathSteps_absText h_dir]
    unfold walk
    rw [run_append]
    exact congrArg (fun place => walk place (pathSteps s)) (walk_into [] dir)
  have h_text : absText dir ≠ [] := List.cons_ne_nil _ _
  rw [join_pair h_text h_s, normalize_absolute rfl, h_place, h_last]

end CLib
