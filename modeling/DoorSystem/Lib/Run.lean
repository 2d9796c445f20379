import Mathlib.Data.Nat.Init
import Mathlib.Order.Nat
import Mathlib.Data.List.Basic

/-!
# Runs of a deterministic machine

A machine is a step function on states that is fed one input at a time. `run step s is` is the
state after the inputs `is`. `run_invariant` is the induction every safety proof uses: what holds
at the start and is kept by each step holds after every run. `run_invariant_of_forall` is
the same induction when a step keeps the property only on the inputs that meet a condition.
`run_reaches_of_rank` bounds the number of steps to a goal.

`runAt step s is t` is the state at the time `t` of an infinite run. `eventually_of_rises` is the
rule for what such a run reaches: a level that is never lost and always rises again comes to any
bound.

`AlwaysAlong step P s is` says that no state of a run breaks `P`. `alwaysAlong_flatMap_iff` is the
rule for a run whose inputs come in blocks.

`logged` keeps the outputs of a machine beside its state, and `run_simulation` is the rule for two
machines whose steps agree along a map of their states (`run_simulation_of_invariant` where they
agree on the states of an invariant).

`Since P C is` looks back over the inputs: `P` held at one of them, and `C` at all after it.
`forall_split_concat` is the induction step for what holds of every input and of those before it.
-/

namespace CLib

variable {σ ι : Type*}

/-- The state after feeding the inputs `is` to `step`, starting in `s`. -/
def run (step : σ → ι → σ) (s : σ) (is : List ι) : σ := is.foldl step s

section Run

variable (step : σ → ι → σ)

@[simp] theorem run_nil (s : σ) : run step s [] = s := rfl

@[simp] theorem run_cons (s : σ) (i : ι) (is : List ι) :
    run step s (i :: is) = run step (step s i) is := rfl

theorem run_append (s : σ) (is js : List ι) :
    run step s (is ++ js) = run step (run step s is) js := List.foldl_append

variable {step}

/-- **Invariant rule.** -/
theorem run_invariant (P : σ → Prop) (h_step : ∀ s i, P s → P (step s i)) {s : σ} (h : P s)
    (is : List ι) : P (run step s is) := by
  induction is generalizing s with
  | nil => exact h
  | cons i is ih => exact ih (h_step s i h)

/-- **Invariant rule with a condition on the inputs.** -/
theorem run_invariant_of_forall (P : σ → Prop) {C : ι → Prop}
    (h_step : ∀ s i, C i → P s → P (step s i)) {s : σ} (h : P s) {is : List ι}
    (hC : ∀ i ∈ is, C i) : P (run step s is) := by
  induction is generalizing s with
  | nil => exact h
  | cons i is ih =>
    exact ih (h_step s i (hC i List.mem_cons_self) h)
      (fun j hj => hC j (List.mem_cons_of_mem _ hj))

/-- **Simulation rule.** Steps that agree along `f` give runs that agree along `f`. -/
theorem run_simulation {σ σ' ι : Type*} {step : σ → ι → σ} {step' : σ' → ι → σ'} (f : σ → σ')
    (h_step : ∀ s i, f (step s i) = step' (f s) i) (s : σ) (is : List ι) :
    f (run step s is) = run step' (f s) is := by
  induction is generalizing s with
  | nil => rfl
  | cons i is ih => rw [run_cons, run_cons, ih, h_step]

/-- **Simulation rule under an invariant.** -/
theorem run_simulation_of_invariant {σ σ' ι : Type*} {step : σ → ι → σ} {step' : σ' → ι → σ'}
    (f : σ → σ') (P : σ → Prop) (h_inv : ∀ s i, P s → P (step s i))
    (h_step : ∀ s i, P s → f (step s i) = step' (f s) i) {s : σ} (h : P s) (is : List ι) :
    f (run step s is) = run step' (f s) is := by
  induction is generalizing s with
  | nil => rfl
  | cons i is ih => rw [run_cons, run_cons, ih (h_inv s i h), h_step s i h]

/-- **Ranking rule.** Where each step keeps the invariant and the goal and, short of the goal,
lowers the rank, a run that is longer than the rank of its start ends at the goal. -/
theorem run_reaches_of_rank {Inv : σ → Prop} (Goal : σ → Prop) (rank : σ → ℕ)
    (h_inv : ∀ s i, Inv s → Inv (step s i)) (h_keep : ∀ s i, Inv s → Goal s → Goal (step s i))
    (h_rank : ∀ s i, Inv s → ¬ Goal s → rank (step s i) < rank s) {s : σ} (h : Inv s)
    {is : List ι} (h_length : rank s < is.length) : Goal (run step s is) := by
  induction is generalizing s with
  | nil => exact absurd h_length (Nat.not_lt_zero _)
  | cons i is ih =>
    rw [run_cons]
    have h_next := h_inv s i h
    by_cases h_rest : rank (step s i) < is.length
    · exact ih h_next h_rest
    · -- the rank has not gone down, so the goal was reached before
      rw [List.length_cons] at h_length
      have h_goal : Goal s := by
        by_contra h_not
        have h_less := h_rank s i h h_not
        omega
      exact (run_invariant (fun s => Inv s ∧ Goal s)
        (fun s i h => ⟨h_inv s i h.1, h_keep s i h.1 h.2⟩) ⟨h_next, h_keep s i h h_goal⟩ is).2

/-! ### Every state of a run -/

variable (step) in
/-- Every state that the run passes through satisfies `P`, the first and the last among them. -/
def AlwaysAlong (P : σ → Prop) (s : σ) (is : List ι) : Prop :=
  ∀ pre, pre <+: is → P (run step s pre)

theorem alwaysAlong_nil {P : σ → Prop} {s : σ} : AlwaysAlong step P s [] ↔ P s := by
  constructor
  · intro h
    exact h [] List.prefix_rfl
  · intro h pre h_pre
    rw [List.prefix_nil.mp h_pre]
    exact h

theorem alwaysAlong_cons {P : σ → Prop} {s : σ} {i : ι} {is : List ι} :
    AlwaysAlong step P s (i :: is) ↔ P s ∧ AlwaysAlong step P (step s i) is := by
  constructor
  · intro h
    refine ⟨h [] List.nil_prefix, fun pre h_pre => ?_⟩
    exact h (i :: pre) (List.cons_prefix_cons.mpr ⟨rfl, h_pre⟩)
  · rintro ⟨h_s, h_rest⟩ pre h_pre
    cases pre with
    | nil => exact h_s
    | cons j pre =>
      obtain ⟨rfl, h_tail⟩ := List.cons_prefix_cons.mp h_pre
      exact h_rest pre h_tail

theorem alwaysAlong_append {P : σ → Prop} {s : σ} {is js : List ι} :
    AlwaysAlong step P s (is ++ js) ↔
      AlwaysAlong step P s is ∧ AlwaysAlong step P (run step s is) js := by
  induction is generalizing s with
  | nil =>
    rw [List.nil_append, alwaysAlong_nil, run_nil]
    exact ⟨fun h => ⟨h [] List.nil_prefix, h⟩, And.right⟩
  | cons i is ih =>
    rw [List.cons_append, alwaysAlong_cons, alwaysAlong_cons, ih, run_cons, and_assoc]

/-- **Rule for runs that come in blocks.** Where `C` says which blocks keep `P`, the whole run does
exactly when `C` holds wherever a block starts. -/
theorem alwaysAlong_flatMap_iff {κ : Type*} {block : κ → List ι} {P : σ → Prop} {C : σ → κ → Prop}
    (h_block : ∀ s c, P s → (AlwaysAlong step P s (block c) ↔ C s c)) {s : σ} (h : P s)
    (cs : List κ) :
    AlwaysAlong step P s (cs.flatMap block) ↔
      ∀ pre c post, cs = pre ++ c :: post → C (run step s (pre.flatMap block)) c := by
  induction cs generalizing s with
  | nil => exact iff_of_true (alwaysAlong_nil.mpr h) (fun pre c post h_eq => by simp at h_eq)
  | cons c cs ih =>
    rw [List.flatMap_cons, alwaysAlong_append, h_block s c h]
    -- induction on the blocks: `P` is handed from the end of one to the start of the next
    constructor
    · rintro ⟨h_c, h_rest⟩ pre c' post h_eq
      cases pre with
      | nil =>
        obtain ⟨rfl, -⟩ := List.cons.inj h_eq
        exact h_c
      | cons d pre =>
        obtain ⟨rfl, h_tail⟩ := List.cons.inj h_eq
        rw [List.flatMap_cons, run_append]
        have h_next : P (run step s (block c)) := h_rest [] List.nil_prefix
        exact (ih h_next).mp h_rest pre c' post h_tail
    · intro h_all
      have h_c : C s c := h_all [] c cs rfl
      have h_next : P (run step s (block c)) :=
        (h_block s c h).mpr h_c (block c) List.prefix_rfl
      refine ⟨h_c, (ih h_next).mpr fun pre c' post h_eq => ?_⟩
      rw [← run_append, ← List.flatMap_cons]
      exact h_all (c :: pre) c' post (by rw [h_eq]; rfl)

/-! ### Machines with outputs -/

/-- A step of a machine with outputs, on the state and the outputs so far. -/
def logged {ω : Type*} (exec : σ → ι → σ × List ω) (s : σ × List ω) (i : ι) : σ × List ω :=
  ((exec s.1 i).1, s.2 ++ (exec s.1 i).2)

/-! ### Infinite runs -/

variable (step) in
/-- The state at the time `t` of the run over the inputs `is`. -/
def runAt (s : σ) (is : ℕ → ι) : ℕ → σ
  | 0 => s
  | t + 1 => step (runAt s is t) (is t)

/-- **Invariant rule for infinite runs.** -/
theorem runAt_invariant {s : σ} {is : ℕ → ι} (P : σ → Prop)
    (h_step : ∀ t, P (runAt step s is t) → P (runAt step s is (t + 1))) (h : P s) (t : ℕ) :
    P (runAt step s is t) := by
  induction t with
  | zero => exact h
  | succ t ih => exact h_step t ih

/-- **Progress rule.** `P i t` says that the level at the time `t` is at least `i`. -/
theorem eventually_of_rises (P : ℕ → ℕ → Prop) {bound : ℕ}
    (h_keep : ∀ i t, P i t → P i (t + 1))
    (h_rise : ∀ i t, i < bound → P i t → ∃ t' ≥ t, P (i + 1) t') {t₀ : ℕ} (h : P 0 t₀) :
    ∃ T ≥ t₀, ∀ t ≥ T, P bound t := by
  have h_reach : ∀ i ≤ bound, ∃ T ≥ t₀, P i T := by
    intro i
    induction i with
    | zero => exact fun _ => ⟨t₀, le_rfl, h⟩
    | succ i ih =>
      intro h_i
      obtain ⟨T, h_T, h_P⟩ := ih (Nat.le_of_succ_le h_i)
      obtain ⟨T', h_T', h_P'⟩ := h_rise i T h_i h_P
      exact ⟨T', h_T.trans h_T', h_P'⟩
  obtain ⟨T, h_T, h_P⟩ := h_reach bound le_rfl
  refine ⟨T, h_T, fun t h_t => ?_⟩
  -- the bound is kept from then on
  induction t, h_t using Nat.le_induction with
  | base => exact h_P
  | succ t _ ih => exact h_keep bound t ih

end Run

/-! ### The past -/

/-- What holds of every input, with those before it, holds of the earlier ones and of the last. -/
theorem forall_split_concat {P : List ι → ι → Prop} {is : List ι} {i : ι} :
    (∀ pre j post, is ++ [i] = pre ++ j :: post → P pre j) ↔
      (∀ pre j post, is = pre ++ j :: post → P pre j) ∧ P is i := by
  constructor
  · intro h
    refine ⟨fun pre j post h_eq => ?_, h is i [] rfl⟩
    exact h pre j (post ++ [i]) (by simp [h_eq])
  · rintro ⟨h_earlier, h_last⟩ pre j post h_eq
    rcases List.eq_nil_or_concat post with rfl | ⟨post', k, rfl⟩
    · obtain ⟨rfl, h_j⟩ := List.append_inj' h_eq rfl
      obtain rfl := List.singleton_inj.mp h_j
      exact h_last
    · rw [List.concat_eq_append, ← List.cons_append, ← List.append_assoc] at h_eq
      obtain ⟨rfl, -⟩ := List.append_inj' h_eq rfl
      exact h_earlier pre j post' rfl

/-- At some input, with those before it, `P` held, and at every later one `C`. -/
def Since (P : List ι → ι → Prop) (C : ι → Prop) (is : List ι) : Prop :=
  ∃ pre i post, is = pre ++ i :: post ∧ P pre i ∧ ∀ j ∈ post, C j

theorem not_since_nil (P : List ι → ι → Prop) (C : ι → Prop) : ¬ Since P C [] := by
  rintro ⟨pre, i, post, h_eq, -, -⟩
  exact absurd h_eq (by simp)

/-- The last input is the one, or it meets the condition. -/
theorem since_concat (P : List ι → ι → Prop) (C : ι → Prop) (is : List ι) (i : ι) :
    Since P C (is ++ [i]) ↔ P is i ∨ (Since P C is ∧ C i) := by
  constructor
  · rintro ⟨pre, j, post, h_eq, h_P, h_C⟩
    -- the input that made it true is the last, or `i` is one of those that kept it
    rcases List.eq_nil_or_concat post with rfl | ⟨post', k, rfl⟩
    · obtain ⟨rfl, h_last⟩ := List.append_inj' h_eq rfl
      obtain rfl := List.singleton_inj.mp h_last
      exact Or.inl h_P
    · rw [List.concat_eq_append] at h_eq h_C
      rw [← List.cons_append, ← List.append_assoc] at h_eq
      obtain ⟨rfl, h_last⟩ := List.append_inj' h_eq rfl
      obtain rfl := List.singleton_inj.mp h_last
      exact Or.inr ⟨⟨pre, j, post', rfl, h_P, fun l h_l => h_C l (List.mem_append_left _ h_l)⟩,
        h_C i (by simp)⟩
  · rintro (h_P | ⟨⟨pre, j, post, rfl, h_P, h_C⟩, h_i⟩)
    · exact ⟨is, i, [], rfl, h_P, fun _ h_j => absurd h_j List.not_mem_nil⟩
    · refine ⟨pre, j, post ++ [i], by simp, h_P, fun k h_k => ?_⟩
      rcases List.mem_append.mp h_k with h_k | h_k
      · exact h_C k h_k
      · obtain rfl := List.mem_singleton.mp h_k
        exact h_i

end CLib
