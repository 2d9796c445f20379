import Mathlib.Data.Set.Basic

/-!
# Programs that assign fields

A state is read field by field (`get`). An assignment program sets each field to a fixed value or
keeps it, whatever the state was. Two facts are used of such programs: what ran before a later run
of itself is not seen any more (`IsAssign.absorb`), and two of them may be swapped exactly if they
set no field to different values (`IsAssign.comm_iff`).
-/

namespace CLib

variable {σ ι ν : Type*}

/-- After `f` the field `i` has the value `v`. -/
def Sets (get : σ → ι → ν) (f : σ → σ) (i : ι) (v : ν) : Prop := ∀ s, get (f s) i = v

/-- `f` leaves the field `i` as it is. -/
def Keeps (get : σ → ι → ν) (f : σ → σ) (i : ι) : Prop := ∀ s, get (f s) i = get s i

/-- `f` sets some fields and keeps the others. -/
def IsAssign (get : σ → ι → ν) (f : σ → σ) : Prop :=
  ∀ i, (∃ v, Sets get f i v) ∨ Keeps get f i

/-- `f` and `g` set no field to different values. -/
def Compatible (get : σ → ι → ν) (f g : σ → σ) : Prop :=
  ∀ i v w, Sets get f i v → Sets get g i w → v = w

section Assign

variable {get : σ → ι → ν} {f g : σ → σ}

theorem IsAssign.id : IsAssign get id := fun _ => Or.inr (fun _ => rfl)

theorem IsAssign.comp (h_g : IsAssign get g) (h_f : IsAssign get f) : IsAssign get (g ∘ f) := by
  intro i
  rcases h_g i with ⟨v, h_sets⟩ | h_keeps
  · exact Or.inl ⟨v, fun s => h_sets (f s)⟩
  · rcases h_f i with ⟨v, h_sets⟩ | h_keeps'
    · exact Or.inl ⟨v, fun s => (h_keeps (f s)).trans (h_sets s)⟩
    · exact Or.inr (fun s => (h_keeps (f s)).trans (h_keeps' s))

/-- What a program did is not seen after another one and the program again. -/
theorem IsAssign.absorb (h_get : Function.Injective get) (h_f : IsAssign get f)
    (h_g : IsAssign get g) (s : σ) : f (g (f s)) = f (g s) := by
  refine h_get (funext (fun i => ?_))
  rcases h_f i with ⟨v, h_sets⟩ | h_keeps
  · rw [h_sets, h_sets]
  · rw [h_keeps, h_keeps]
    rcases h_g i with ⟨v, h_sets⟩ | h_keeps'
    · rw [h_sets, h_sets]
    · rw [h_keeps', h_keeps', h_keeps]

/-- **Swapping.** Two programs give the same state in either order exactly if they set no field to
different values. -/
theorem IsAssign.comm_iff [Nonempty σ] (h_get : Function.Injective get) (h_f : IsAssign get f)
    (h_g : IsAssign get g) : (∀ s, f (g s) = g (f s)) ↔ Compatible get f g := by
  constructor
  · intro h_comm i v w h_v h_w
    obtain ⟨s⟩ := ‹Nonempty σ›
    rw [← h_v (g s), h_comm, h_w]
  · intro h_compatible s
    refine h_get (funext (fun i => ?_))
    rcases h_f i with ⟨v, h_v⟩ | h_keeps
    · rcases h_g i with ⟨w, h_w⟩ | h_keeps'
      · rw [h_v, h_w, h_compatible i v w h_v h_w]
      · rw [h_v, h_keeps', h_v]
    · rcases h_g i with ⟨w, h_w⟩ | h_keeps'
      · rw [h_keeps, h_w, h_w]
      · rw [h_keeps, h_keeps', h_keeps', h_keeps]

end Assign

end CLib
