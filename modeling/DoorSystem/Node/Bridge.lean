import DoorSystem.Node.DoorServer

/-!
# Who gets an answer

`feedbackMessage_feedbackLine`: a FEEDBACK line for a command that waits is emitted to its socket.
-/

namespace DoorSystem

open CLib CLib.Js

namespace Node

/-! ### Reading a FEEDBACK line -/

/-- No digit is white space. -/
theorem isWhite_of_isDigit {c : Char} (h : c.isDigit = true) : isWhite c = false := by
  obtain ⟨h_ge, h_le⟩ := isDigit_iff.mp h
  exact isWhite_of_visible (by omega) (by omega)

theorem isToken_white_fmtInt (x : ℤ) : IsToken isWhite (fmtInt x) :=
  isToken_fmtInt (fun _ h_c => isWhite_of_isDigit h_c) rfl x

/-- A natural number is read back from its decimal text. -/
theorem readInt_fmtInt (k : ℕ) : readInt (fmtInt k) = some (k : ℤ) := by
  obtain ⟨c, cs, h_text⟩ := List.exists_cons_of_ne_nil (Nat.toDigits_ne_nil (n := k) (b := 10))
  have h_digit : c.isDigit = true := by
    refine Nat.isDigit_of_mem_toDigits (b := 10) (n := k) (by norm_num) (by norm_num) ?_
    rw [h_text]
    exact List.mem_cons_self
  have h_fmt : fmtInt (k : ℤ) = c :: cs := h_text
  have h_value : leadingDigits (c :: cs) = k := by
    rw [← h_text]
    exact leadingDigits_toDigits k
  have h_space : isWhite c = false := isWhite_of_isDigit h_digit
  unfold readInt
  rw [h_fmt, List.dropWhile_cons_of_neg (by rw [h_space]; simp)]
  -- the first character is a digit and no sign
  split
  · next h_eq =>
    obtain rfl := (List.cons.inj h_eq).1
    exact absurd h_digit (by decide)
  · next h_eq =>
    obtain rfl := (List.cons.inj h_eq).1
    exact absurd h_digit (by decide)
  · unfold parseDigits
    rw [List.takeWhile_cons_of_pos h_digit, h_value]
    rfl

theorem parseInt_fmtInt {k : ℕ} (h : k < 2 ^ 53) : parseInt (fmtInt k) = some (k : ℤ) := by
  unfold parseInt
  rw [readInt_fmtInt, Option.bind_some, toNumber_of_lt h]

/-- **A FEEDBACK line** of plain words, for a command that waits, is emitted to the socket of the
command, and nothing waits for it any more. -/
theorem feedbackMessage_feedbackLine {σ : Type*} {mod target action : CStr} {k : ℕ}
    (h_k : k < 2 ^ 53)
    (h_mod : IsToken isWhite mod) (h_target : IsToken isWhite target)
    (h_action : IsToken isWhite action) {n : Bridge σ} {socket : σ}
    (h_pending : n.pending k = some socket) :
    n.feedbackMessage (feedbackLine mod k target action)
      = ({ n with
            timers := Function.update n.timers k none
            pending := Function.update n.pending k none },
          [(socket, .commandFeedback mod k target action)]) := by
  have h_parts : parts (feedbackLine mod k target action)
      = [mod, "FEEDBACK".toList, fmtInt k, target, action] := by
    refine (words_trim _).trans (tokens_spaced_line rfl rfl ?_)
    simp only [List.forall_mem_cons]
    exact ⟨h_mod, by decide, isToken_white_fmtInt k, h_target, h_action, by simp⟩
  have h_get : n.pendingGet (parseInt (fmtInt k)) = some (k, socket) := by
    -- below `2 ^ 53` the number is read back as it was written
    rw [parseInt_fmtInt h_k]
    show (n.pending k).map _ = _
    rw [h_pending]
    rfl
  unfold Bridge.feedbackMessage
  rw [h_parts]
  dsimp only
  rw [if_pos ⟨rfl, List.cons_ne_nil _ _⟩, h_get, spaced_singleton]

end Node

end DoorSystem
