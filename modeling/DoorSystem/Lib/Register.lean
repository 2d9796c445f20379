import Mathlib.Data.List.DropRight

/-!
# A register that is written by snapshots and by deltas

A sender reports a value in two kinds of messages: every snapshot carries the value, a delta is
sent when the value has changed. The receiver keeps what the last message that mentions the value
said (`lastWrite`). Each kind arrives in the order in which it was sent, but nothing orders the two
kinds.

`Tracks` is what the sender guarantees. `Tracks.lastWrite_eq_iff` says for every order of arrival
whether the receiver ends with the sender's value: the last snapshot must carry it, or a delta must
come in after the last snapshot.
-/

namespace CLib

section Register

variable {μ V : Type} (w : μ → Option V) (snap : μ → Bool)

/-- The value after the messages `ms`, where `w` is what a message says. -/
def lastWrite (v : V) (ms : List μ) : V := ms.foldl (fun v m => (w m).getD v) v

@[simp] theorem lastWrite_nil (v : V) : lastWrite w v [] = v := rfl

theorem lastWrite_append (v : V) (ms ms' : List μ) :
    lastWrite w v (ms ++ ms') = lastWrite w (lastWrite w v ms) ms' := List.foldl_append

theorem lastWrite_concat (v : V) (ms : List μ) (m : μ) :
    lastWrite w v (ms ++ [m]) = (w m).getD (lastWrite w v ms) := by
  rw [lastWrite_append]
  rfl

theorem lastWrite_map {ν : Type} (out : ν → μ) (v : V) (ms : List ν) :
    lastWrite w v (ms.map out) = lastWrite (fun m => w (out m)) v ms := List.foldl_map

/-- The deltas among the messages. -/
def deltas (ms : List μ) : List μ := ms.filter (fun m => !snap m)

theorem deltas_map {ν : Type} (out : ν → μ) (ms : List ν) :
    deltas snap (ms.map out) = (deltas (fun m => snap (out m)) ms).map out := List.filter_map

/-- What the last snapshot says. -/
def lastSnapshot (ms : List μ) : Option V := ((ms.filter snap).getLast?).bind w

/-- A delta that says something comes after the last snapshot. -/
def DeltaLast (ms : List μ) : Prop := ∃ m ∈ ms.rtakeWhile (fun m => !snap m), w m ≠ none

/-- The messages of a sender whose value is `v`: all snapshots carry a value, there is one, and the
deltas lead to `v`. -/
structure Tracks (v : V) (ms : List μ) : Prop where
  snaps : ∀ m ∈ ms.filter snap, w m ≠ none
  snapped : ms.filter snap ≠ []
  agree : lastWrite w v (deltas snap ms) = v

variable {w snap}

/-- Only the order within each kind counts. -/
theorem Tracks.congr {v : V} {ms ms' : List μ} (h : Tracks w snap v ms)
    (h_snaps : ms'.filter snap = ms.filter snap)
    (h_deltas : deltas snap ms' = deltas snap ms) : Tracks w snap v ms' := by
  refine ⟨?_, ?_, ?_⟩
  · rw [h_snaps]
    exact h.snaps
  · rw [h_snaps]
    exact h.snapped
  · rw [h_deltas]
    exact h.agree

/-- The sender goes on to `v'`: the new snapshots carry a value, and either nothing changed or the
new deltas say `v'`. -/
theorem Tracks.append {v v' : V} {ms new : List μ} (h : Tracks w snap v ms)
    (h_snaps : ∀ m ∈ new.filter snap, w m ≠ none)
    (h_new : ∀ x, v' = v ∧ x = v' ∨ v' ≠ v → lastWrite w x (deltas snap new) = v') :
    Tracks w snap v' (ms ++ new) := by
  refine ⟨?_, ?_, ?_⟩
  · rw [List.filter_append]
    intro m h_m
    rcases List.mem_append.mp h_m with h_m | h_m
    · exact h.snaps m h_m
    · exact h_snaps m h_m
  · rw [List.filter_append]
    exact List.append_ne_nil_of_left_ne_nil h.snapped _
  · unfold deltas
    rw [List.filter_append, lastWrite_append]
    refine h_new _ ?_
    -- the old deltas lead to `v`, and the new ones from there to `v'`
    by_cases h_eq : v' = v
    · refine Or.inl ⟨h_eq, ?_⟩
      rw [h_eq]
      exact h.agree
    · exact Or.inr h_eq

theorem lastWrite_eq_iff_aux {v v₀ : V} {ms : List μ} (h_snaps : ∀ m ∈ ms.filter snap, w m ≠ none)
    (h_deltas : lastWrite w v (deltas snap ms) = v) (h_some : ms.filter snap ≠ []) :
    lastWrite w v₀ ms = v ↔ lastSnapshot w snap ms = some v ∨ DeltaLast w snap ms := by
  -- on the last message: what it says decides, unless it says nothing
  induction ms using List.reverseRecOn with
  | nil => exact absurd rfl h_some
  | append_singleton ms m ih =>
    rw [lastWrite_concat]
    cases h_m : snap m with
    | true =>
      -- the last snapshot comes last
      have h_last : lastSnapshot w snap (ms ++ [m]) = w m := by
        unfold lastSnapshot
        rw [List.filter_append, List.filter_singleton, h_m]
        simp
      have h_none : ¬ DeltaLast w snap (ms ++ [m]) := by
        unfold DeltaLast
        rw [List.rtakeWhile_concat_neg _ _ _ (by simp [h_m])]
        simp
      obtain ⟨x, h_x⟩ := Option.ne_none_iff_exists'.mp (h_snaps m (by simp [h_m]))
      rw [h_last, h_x, or_iff_left h_none]
      simp
    | false =>
      have h_filter : (ms ++ [m]).filter snap = ms.filter snap := by simp [h_m]
      have h_delta : deltas snap (ms ++ [m]) = deltas snap ms ++ [m] := by simp [deltas, h_m]
      have h_tail : (ms ++ [m]).rtakeWhile (fun m => !snap m)
          = ms.rtakeWhile (fun m => !snap m) ++ [m] :=
        List.rtakeWhile_concat_pos _ _ _ (by simp [h_m])
      have h_last : lastSnapshot w snap (ms ++ [m]) = lastSnapshot w snap ms := by
        unfold lastSnapshot
        rw [h_filter]
      rw [h_filter] at h_snaps h_some
      rw [h_delta, lastWrite_concat] at h_deltas
      cases h_x : w m with
      | some x =>
        -- a delta comes last, and it says the value
        rw [h_x] at h_deltas
        refine iff_of_true h_deltas (Or.inr ⟨m, ?_, by simp [h_x]⟩)
        rw [h_tail]
        simp
      | none =>
        -- it says nothing, and all is as it was before it
        rw [h_x] at h_deltas
        show lastWrite w v₀ ms = v ↔ _
        rw [ih h_snaps h_deltas h_some, h_last]
        unfold DeltaLast
        rw [h_tail]
        simp [h_x]

/-- **The receiver's value.** -/
theorem Tracks.lastWrite_eq_iff {v : V} {ms : List μ} (h : Tracks w snap v ms) (v₀ : V) :
    lastWrite w v₀ ms = v ↔ lastSnapshot w snap ms = some v ∨ DeltaLast w snap ms :=
  lastWrite_eq_iff_aux h.snaps h.agree h.snapped

end Register

end CLib
