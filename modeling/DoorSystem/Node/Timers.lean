import DoorSystem.Node.Server

/-!
# Entries and timers

Every entry of `pending` has its timer, and every armed timer its entry, whatever the order of
requests, completions, datagrams and timers. An entry and its timer come together
(`Inv.hold`) and go together (`Inv.release`), at six places of the source; the invariant also says
what a completion may still find: no entry for a command that is on its way out, and for a
`get-door-info` no entry but its own.
-/

namespace DoorSystem

open CLib CLib.Js

namespace Node

/-- The event is a request that takes a command number. -/
def ServerEv.requests : ServerEv → Bool
  | .sendCommand .. | .lockDoor _ | .unlockDoor _ | .getDoorInfo _ => true
  | _ => false

namespace Server

/-! ### The property -/

/-- What is left after a deletion was there before, under another key. -/
theorem update_none_eq_some {β : Type*} {f : ℕ → Option β} {a b : ℕ} {x : β}
    (h : Function.update f a none b = some x) : b ≠ a ∧ f b = some x := by
  by_cases h_b : b = a
  · rw [h_b, Function.update_self] at h
    exact absurd h (by simp)
  · rw [Function.update_of_ne h_b] at h
    exact ⟨h_b, h⟩

/-- What is there after a `set` was set, or was there before under another key. -/
theorem update_some_eq_some {β : Type*} {f : ℕ → Option β} {a b : ℕ} {x y : β}
    (h : Function.update f a (some x) b = some y) : b = a ∧ x = y ∨ b ≠ a ∧ f b = some y := by
  by_cases h_b : b = a
  · rw [h_b, Function.update_self] at h
    exact Or.inl ⟨h_b, Option.some.inj h⟩
  · rw [Function.update_of_ne h_b] at h
    exact Or.inr ⟨h_b, h⟩

/-- The timer is armed for the number `c`. -/
def ArmedFor (s : Server) (c t : ℕ) : Prop := ∃ timer, s.timers t = some timer ∧ timer.cmdid = c

/-- The number was taken by a request of the run. -/
def Issued (U : UpperCase) (es : List ServerEv) (c : ℕ) : Prop :=
  ∃ pre e post, es = pre ++ e :: post ∧ e.requests = true ∧ (served U pre).cmdCounter = c

/-- Entries and timers of a state that the run `es` reaches. -/
structure Paired (U : UpperCase) (es : List ServerEv) : Prop where
  issued : ∀ c, (served U es).pending c ≠ none → Issued U es c
  /-- No number is issued twice. -/
  distinct : ∀ pre e mid e' post, es = pre ++ e :: mid ++ e' :: post → e.requests = true →
    (served U pre).cmdCounter < (served U (pre ++ e :: mid)).cmdCounter
  armed : ∀ c, (served U es).pending c ≠ none → ∃! t, (served U es).ArmedFor c t
  entered : ∀ c t, (served U es).ArmedFor c t → (served U es).pending c ≠ none
  empty : (∀ t, (served U es).timers t = none) → ∀ c, (served U es).pending c = none

/-! ### The invariant -/

structure Inv (s : Server) : Prop where
  pos : 1 ≤ s.cmdCounter
  fresh : ∀ t, s.nextTimer ≤ t → s.timers t = none
  issuedPending : ∀ c, s.pending c ≠ none → 1 ≤ c ∧ c < s.cmdCounter
  issuedSending : ∀ c, s.sending c ≠ none → 1 ≤ c ∧ c < s.cmdCounter
  entry : ∀ c e, s.pending c = some e → s.ArmedFor c e.timer
  timer : ∀ c t, s.ArmedFor c t → ∃ e, s.pending c = some e ∧ e.timer = t
  /-- The object of `get-door-info` knows its own number and timer. -/
  infoEntry : ∀ c r t u, s.pending c = some ⟨.doorInfo r t, u⟩ → r = c ∧ t = u
  /-- A command on its way out has no entry yet. -/
  sendingCommand : ∀ c m k, s.sending c = some (.command m k) → s.pending c = none
  /-- A `get-door-info` on its way out has no entry but its own. -/
  sendingInfo : ∀ c t, s.sending c = some (.doorInfo t) → t < s.nextTimer ∧
    (∀ c', s.ArmedFor c' t → c' = c) ∧ ∀ e, s.pending c = some e → e.timer = t

theorem Inv.initial : Inv initial where
  pos := le_rfl
  fresh := fun _ _ => rfl
  issuedPending := fun _ h => absurd rfl h
  issuedSending := fun _ h => absurd rfl h
  entry := fun _ _ h => absurd h (by simp [Server.initial])
  timer := fun _ _ ⟨_, h, _⟩ => absurd h (by simp [Server.initial])
  infoEntry := fun _ _ _ _ h => absurd h (by simp [Server.initial])
  sendingCommand := fun _ _ _ h => absurd h (by simp [Server.initial])
  sendingInfo := fun _ _ h => absurd h (by simp [Server.initial])

section Ops

variable {s : Server}

/-- Two numbers are not armed with one timer. -/
theorem ArmedFor.unique {c c' t : ℕ} (h : s.ArmedFor c t) (h' : s.ArmedFor c' t) : c = c' := by
  obtain ⟨timer, h_t, rfl⟩ := h
  obtain ⟨timer', h_t', rfl⟩ := h'
  rw [h_t] at h_t'
  rw [Option.some.inj h_t']

theorem armedFor_update {c t u : ℕ} {timer : Option Timer} :
    ({ s with timers := Function.update s.timers u timer } : Server).ArmedFor c t ↔
      if t = u then ∃ tm, timer = some tm ∧ tm.cmdid = c else s.ArmedFor c t := by
  unfold ArmedFor
  dsimp only
  by_cases h_t : t = u
  · subst h_t
    rw [Function.update_self, if_pos rfl]
  · rw [Function.update_of_ne h_t, if_neg h_t]

/-- The counter moves on. -/
theorem Inv.bump (inv : Inv s) : Inv { s with cmdCounter := s.cmdCounter + 1 } where
  pos := inv.pos.trans (Nat.le_succ _)
  fresh := inv.fresh
  issuedPending := fun c h => ⟨(inv.issuedPending c h).1, (inv.issuedPending c h).2.trans
    (Nat.lt_succ_self _)⟩
  issuedSending := fun c h => ⟨(inv.issuedSending c h).1, (inv.issuedSending c h).2.trans
    (Nat.lt_succ_self _)⟩
  entry := inv.entry
  timer := inv.timer
  infoEntry := inv.infoEntry
  sendingCommand := inv.sendingCommand
  sendingInfo := inv.sendingInfo

/-- A send is completed. -/
theorem Inv.complete (inv : Inv s) (c : ℕ) :
    Inv { s with sending := Function.update s.sending c none } := by
  -- what is still sending was sending before
  have h_old : ∀ c' o, Function.update s.sending c none c' = some o → s.sending c' = some o :=
    fun c' o h => (update_none_eq_some h).2
  exact {
    pos := inv.pos
    fresh := inv.fresh
    issuedPending := inv.issuedPending
    issuedSending := fun c' h => by
      obtain ⟨o, h_o⟩ := Option.ne_none_iff_exists'.mp h
      exact inv.issuedSending c' (by rw [h_old c' o h_o]; simp)
    entry := inv.entry
    timer := inv.timer
    infoEntry := inv.infoEntry
    sendingCommand := fun c' m k h => inv.sendingCommand c' m k (h_old c' _ h)
    sendingInfo := fun c' t h => inv.sendingInfo c' t (h_old c' _ h) }

/-- A send is started. -/
theorem Inv.start (inv : Inv s) (c : ℕ) (out : Outgoing) (h_c : 1 ≤ c ∧ c < s.cmdCounter)
    (h_command : ∀ m k, out = .command m k → s.pending c = none)
    (h_info : ∀ t, out = .doorInfo t → t < s.nextTimer ∧ (∀ c', s.ArmedFor c' t → c' = c) ∧
      ∀ e, s.pending c = some e → e.timer = t) :
    Inv { s with sending := Function.update s.sending c (some out) } where
  pos := inv.pos
  fresh := inv.fresh
  issuedPending := inv.issuedPending
  issuedSending := by
    -- the new send's number was issued, and the rest were sending before
    intro c' h
    obtain ⟨o, h_o⟩ := Option.ne_none_iff_exists'.mp h
    rcases update_some_eq_some h_o with ⟨rfl, -⟩ | ⟨-, h_old⟩
    · exact h_c
    · exact inv.issuedSending c' (by rw [h_old]; simp)
  entry := inv.entry
  timer := inv.timer
  infoEntry := inv.infoEntry
  sendingCommand := by
    intro c' m k h
    rcases update_some_eq_some h with ⟨rfl, h_out⟩ | ⟨-, h_old⟩
    · exact h_command m k h_out
    · exact inv.sendingCommand c' m k h_old
  sendingInfo := by
    intro c' t h
    rcases update_some_eq_some h with ⟨rfl, h_out⟩ | ⟨-, h_old⟩
    · exact h_info t h_out
    · exact inv.sendingInfo c' t h_old

/-- The next handle is not armed. -/
theorem Inv.not_armed_next (inv : Inv s) (c : ℕ) : ¬ s.ArmedFor c s.nextTimer := by
  rintro ⟨timer, h_timer, -⟩
  rw [inv.fresh _ le_rfl] at h_timer
  exact absurd h_timer (by simp)

/-- **An entry and its timer come together.** -/
theorem Inv.hold (inv : Inv s) (timer : Timer) (socket : EntrySocket)
    (h_issued : 1 ≤ timer.cmdid ∧ timer.cmdid < s.cmdCounter)
    (h_none : s.pending timer.cmdid = none) (h_sent : s.sending timer.cmdid = none)
    (h_socket : ∀ r t, socket = .doorInfo r t → r = timer.cmdid ∧ t = s.nextTimer) :
    Inv ((s.setTimeout timer).1.pendingSet timer.cmdid ⟨socket, s.nextTimer⟩) := by
  have h_armed : ∀ c t, ((s.setTimeout timer).1.pendingSet timer.cmdid
      ⟨socket, s.nextTimer⟩).ArmedFor c t ↔
      if t = s.nextTimer then timer.cmdid = c else s.ArmedFor c t := by
    intro c t
    refine (armedFor_update (s := s)).trans ?_
    split_ifs
    · simp
    · rfl
  -- an entry is the new one, or was there before
  have h_entries : ∀ {c e}, ((s.setTimeout timer).1.pendingSet timer.cmdid
      ⟨socket, s.nextTimer⟩).pending c = some e →
        c = timer.cmdid ∧ ⟨socket, s.nextTimer⟩ = e ∨ c ≠ timer.cmdid ∧ s.pending c = some e :=
    fun h => update_some_eq_some h
  have h_others : ∀ {c}, c ≠ timer.cmdid → ((s.setTimeout timer).1.pendingSet timer.cmdid
      ⟨socket, s.nextTimer⟩).pending c = s.pending c :=
    fun h_c => Function.update_of_ne h_c _ _
  -- nothing is on its way out under the number of the new entry
  have h_unsent : ∀ {c o}, s.sending c = some o → c ≠ timer.cmdid := by
    rintro c o h rfl
    rw [h_sent] at h
    exact absurd h (by simp)
  exact {
    pos := inv.pos
    fresh := fun t h_t => by
      change s.nextTimer + 1 ≤ t at h_t
      show Function.update s.timers s.nextTimer (some timer) t = none
      rw [Function.update_of_ne (by omega)]
      exact inv.fresh t (by omega)
    issuedPending := fun c h => by
      obtain ⟨e, h_e⟩ := Option.ne_none_iff_exists'.mp h
      rcases h_entries h_e with ⟨rfl, -⟩ | ⟨-, h_old⟩
      · exact h_issued
      · exact inv.issuedPending c (by rw [h_old]; simp)
    issuedSending := inv.issuedSending
    entry := fun c e h => by
      rw [h_armed]
      rcases h_entries h with ⟨rfl, rfl⟩ | ⟨-, h_old⟩
      · rw [if_pos rfl]
      · have h_before := inv.entry c e h_old
        have h_ne : e.timer ≠ s.nextTimer := by
          intro h_eq
          rw [h_eq] at h_before
          exact inv.not_armed_next c h_before
        rw [if_neg h_ne]
        exact h_before
    timer := fun c t h => by
      rw [h_armed] at h
      split_ifs at h with h_t
      · subst h
        exact ⟨_, Function.update_self _ _ _, h_t.symm⟩
      · obtain ⟨e, h_e, h_eq⟩ := inv.timer c t h
        refine ⟨e, (h_others ?_).trans h_e, h_eq⟩
        rintro rfl
        rw [h_none] at h_e
        exact absurd h_e (by simp)
    infoEntry := fun c r t u h => by
      rcases h_entries h with ⟨rfl, h_new⟩ | ⟨-, h_old⟩
      · obtain ⟨h_eq, rfl⟩ := PendingEntry.mk.inj h_new
        exact h_socket r t h_eq
      · exact inv.infoEntry c r t u h_old
    sendingCommand := fun c m k h => (h_others (h_unsent h)).trans (inv.sendingCommand c m k h)
    sendingInfo := fun c t h => by
      obtain ⟨h_lt, h_only, h_entry⟩ := inv.sendingInfo c t h
      refine ⟨h_lt.trans (Nat.lt_succ_self _), fun c' h' => ?_, fun e h_e => ?_⟩
      · rw [h_armed, if_neg h_lt.ne] at h'
        exact h_only c' h'
      · exact h_entry e ((h_others (h_unsent h)).symm.trans h_e) }

/-- **An entry and its timer go together.** -/
theorem Inv.release (inv : Inv s) {c t : ℕ} (h_timer : ∀ c', s.ArmedFor c' t → c' = c)
    (h_entry : ∀ e, s.pending c = some e → e.timer = t) :
    Inv ((s.clearTimeout t).pendingDelete c) := by
  -- what is left armed was armed before
  have h_armed : ∀ c' t', ((s.clearTimeout t).pendingDelete c).ArmedFor c' t' ↔
      t' ≠ t ∧ s.ArmedFor c' t' := by
    intro c' t'
    refine (armedFor_update (s := s)).trans ?_
    split_ifs with h_t
    · simp [h_t]
    · simp [h_t]
  have h_old : ∀ c' e, ((s.clearTimeout t).pendingDelete c).pending c' = some e →
      c' ≠ c ∧ s.pending c' = some e := fun c' e h => update_none_eq_some h
  exact {
    pos := inv.pos
    fresh := fun t' h_t' => by
      show Function.update s.timers t none t' = none
      by_cases h_t : t' = t
      · rw [h_t, Function.update_self]
      · rw [Function.update_of_ne h_t]
        exact inv.fresh t' h_t'
    issuedPending := fun c' h => by
      obtain ⟨e, h_e⟩ := Option.ne_none_iff_exists'.mp h
      exact inv.issuedPending c' (by rw [(h_old c' e h_e).2]; simp)
    issuedSending := inv.issuedSending
    entry := fun c' e h => by
      obtain ⟨h_c, h_e⟩ := h_old c' e h
      have h_before := inv.entry c' e h_e
      refine (h_armed c' _).mpr ⟨fun h_t => h_c ?_, h_before⟩
      exact h_timer c' (h_t ▸ h_before)
    timer := fun c' t' h => by
      -- a timer still armed is another entry's, which is still there
      obtain ⟨h_t, h_before⟩ := (h_armed c' t').mp h
      obtain ⟨e, h_e, h_eq⟩ := inv.timer c' t' h_before
      have h_c : c' ≠ c := by
        rintro rfl
        exact h_t (h_eq.symm.trans (h_entry e h_e))
      exact ⟨e, (Function.update_of_ne h_c _ _).trans h_e, h_eq⟩
    infoEntry := fun c' r t' u h => inv.infoEntry c' r t' u (h_old c' _ h).2
    sendingCommand := fun c' m k h => by
      show Function.update s.pending c none c' = none
      by_cases h_c : c' = c
      · rw [h_c, Function.update_self]
      · rw [Function.update_of_ne h_c]
        exact inv.sendingCommand c' m k h
    sendingInfo := fun c' t' h => by
      obtain ⟨h_lt, h_only, h_own⟩ := inv.sendingInfo c' t' h
      exact ⟨h_lt, fun c'' h'' => h_only c'' ((h_armed c'' t').mp h'').2,
        fun e h_e => h_own e (h_old c' e h_e).2⟩ }

/-! ### The steps -/

theorem Inv.not_pending_counter (inv : Inv s) : s.pending s.cmdCounter = none := by
  by_contra h_some
  exact lt_irrefl _ (inv.issuedPending _ h_some).2

theorem Inv.not_sending_counter (inv : Inv s) : s.sending s.cmdCounter = none := by
  by_contra h_some
  exact lt_irrefl _ (inv.issuedSending _ h_some).2

theorem Inv.sendCommand (inv : Inv s) (moduleId target action : CStr) (socket : Client) :
    Inv (s.sendCommand moduleId target action socket).1 := by
  refine inv.bump.start _ _ ⟨inv.pos, Nat.lt_succ_self _⟩
    (fun _ _ _ => inv.not_pending_counter) ?_
  intro t h_out
  exact absurd h_out (by simp)

theorem Inv.onGetDoorInfo (inv : Inv s) (moduleId : CStr) : Inv (s.onGetDoorInfo moduleId).1 := by
  have h_held := inv.bump.hold (.doorInfo s.cmdCounter) (.doorInfo s.cmdCounter s.nextTimer)
    ⟨inv.pos, Nat.lt_succ_self _⟩
    inv.not_pending_counter inv.not_sending_counter
    (fun r t h => by rw [EntrySocket.doorInfo.injEq] at h; exact ⟨h.1.symm, h.2.symm⟩)
  refine h_held.start s.cmdCounter (.doorInfo s.nextTimer)
    ⟨inv.pos, Nat.lt_succ_self _⟩ (fun _ _ h => absurd h (by simp)) ?_
  -- the timer is the one armed in this call, for this number and no other
  intro t h_out
  obtain rfl := Outgoing.doorInfo.inj h_out
  refine ⟨Nat.lt_succ_self _, ?_, ?_⟩
  · rintro c ⟨timer, h_timer, rfl⟩
    change Function.update s.timers s.nextTimer _ s.nextTimer = some timer at h_timer
    rw [Function.update_self] at h_timer
    rw [← Option.some.inj h_timer]
    rfl
  · intro e h_e
    change Function.update s.pending s.cmdCounter _ s.cmdCounter = some e at h_e
    rw [Function.update_self] at h_e
    rw [← Option.some.inj h_e]

theorem Inv.sendDone (inv : Inv s) (cmdid : ℕ) (err : Option CStr) :
    Inv (s.sendDone cmdid err).1 := by
  unfold Server.sendDone
  cases h_sending : s.sending cmdid with
  | none => exact inv
  | some out =>
    have h_done := inv.complete cmdid
    have h_issued := inv.issuedSending cmdid (by rw [h_sending]; simp)
    cases out with
    | command moduleId socket =>
      cases err with
      | some error => exact h_done
      | none =>
        exact h_done.hold (.command cmdid moduleId socket) (.client socket) h_issued
          (inv.sendingCommand cmdid _ _ h_sending) (Function.update_self _ _ _)
          (fun _ _ h => absurd h (by simp))
    | doorInfo timer =>
      cases err with
      | some error =>
        -- a send that failed gives its entry back with the timer
        obtain ⟨-, h_only, h_own⟩ := inv.sendingInfo cmdid timer h_sending
        exact h_done.release h_only h_own
      | none => exact h_done

/-- The entry under a number has the timer that is armed for it. -/
theorem Inv.timer_eq (inv : Inv s) {c t : ℕ} (h_armed : s.ArmedFor c t) {e : PendingEntry}
    (h_e : s.pending c = some e) : e.timer = t := by
  obtain ⟨e', h_e', h_eq⟩ := inv.timer c t h_armed
  rw [h_e] at h_e'
  rw [Option.some.inj h_e']
  exact h_eq

theorem Inv.timeout (inv : Inv s) (t : ℕ) : Inv (s.timeout t).1 := by
  unfold Server.timeout
  cases h_t : s.timers t with
  | none => exact inv
  | some timer =>
    have h_armed : s.ArmedFor timer.cmdid t := ⟨timer, h_t, rfl⟩
    have h_released := inv.release (fun c' h' => h'.unique h_armed)
      (fun e h_e => inv.timer_eq h_armed h_e)
    cases timer with
    | command cmdid moduleId socket => exact h_released
    | doorInfo cmdid => exact h_released

theorem pendingGet_eq_some {id : Option ℤ} {key : ℕ} {p : PendingEntry}
    (h : s.pendingGet id = some (key, p)) : id = some (key : ℤ) ∧ s.pending key = some p := by
  unfold pendingGet at h
  split at h
  · next c =>
    obtain ⟨e, h_e, h_eq⟩ := Option.map_eq_some_iff.mp h
    obtain ⟨rfl, rfl⟩ := Prod.mk.inj h_eq
    exact ⟨rfl, h_e⟩
  · exact absurd h (by simp)

variable (U : UpperCase)

/-- What a FEEDBACK does to the state: the entry that waits goes, with its timer. -/
theorem Inv.feedback_fst (inv : Inv s) (module cmdidS target : CStr) (action : List CStr)
    (raw : CStr) :
    (s.feedback U module cmdidS target action raw).1 =
      match s.pendingGet (parseInt cmdidS) with
      | some (key, p) => (s.clearTimeout p.timer).pendingDelete key
      | none => s := by
  unfold Server.feedback
  dsimp only
  rcases h_get : s.pendingGet (parseInt cmdidS) with _ | ⟨key, ⟨socket, t⟩⟩
  · rfl
  · obtain ⟨-, h_p⟩ := pendingGet_eq_some h_get
    cases socket with
    | client c => rfl
    | doorInfo r t' =>
      -- the object has cleared the same timer and the same entry
      obtain ⟨rfl, rfl⟩ := inv.infoEntry key r t' t h_p
      simp [emitFeedback, clearTimeout, pendingDelete]

theorem Inv.feedback (inv : Inv s) (module cmdidS target : CStr) (action : List CStr)
    (raw : CStr) : Inv (s.feedback U module cmdidS target action raw).1 := by
  rw [inv.feedback_fst]
  rcases h_get : s.pendingGet (parseInt cmdidS) with _ | ⟨key, p⟩
  · exact inv
  · obtain ⟨-, h_p⟩ := pendingGet_eq_some h_get
    have h_armed := inv.entry key p h_p
    exact inv.release (fun c' h' => h'.unique h_armed) (fun e h_e => inv.timer_eq h_armed h_e)

/-- A datagram is a FEEDBACK, or it is passed on and nothing else happens. -/
theorem message_cases (s : Server) (text : CStr) :
    (∃ module cmdidS target action, action ≠ [] ∧
      words (trim text) = module :: "FEEDBACK".toList :: cmdidS :: target :: action ∧
      s.message U text = s.feedback U module cmdidS target action (trim text)) ∨
    ∃ e, s.message U text = (s, [.broadcast e]) := by
  unfold message
  dsimp only
  split
  · next module type args h_words =>
    split
    · next cmdidS target a as =>
      -- five words or more: only the type decides
      by_cases h_type : type = "FEEDBACK".toList
      · subst h_type
        rw [if_pos rfl]
        exact Or.inl ⟨module, cmdidS, target, a :: as, List.cons_ne_nil _ _, h_words, rfl⟩
      · rw [if_neg h_type]
        exact Or.inr ⟨_, rfl⟩
    · exact Or.inr ⟨_, rfl⟩
  · exact Or.inr ⟨_, rfl⟩

/-- **Step.** -/
theorem Inv.step (inv : Inv s) (e : ServerEv) : Inv (s.step U e) := by
  cases e with
  | sendCommand ws module target action => exact inv.sendCommand _ _ _ _
  | lockDoor moduleId => exact inv.sendCommand _ _ _ _
  | unlockDoor moduleId => exact inv.sendCommand _ _ _ _
  | getDoorInfo moduleId => exact inv.onGetDoorInfo moduleId
  | sent cmdid err => exact inv.sendDone cmdid err
  | message text =>
    show Inv (s.message U text).1
    rcases message_cases U s text with ⟨module, cmdidS, target, action, -, -, h_eq⟩ | ⟨e, h_eq⟩
    · rw [h_eq]
      exact inv.feedback U ..
    · rw [h_eq]
      exact inv
  | timeout timer => exact inv.timeout timer

theorem inv_served (es : List ServerEv) : Inv (served U es) :=
  run_invariant Inv (fun _ e inv => inv.step U e) Inv.initial es

/-! ### The counter -/

/-- Only requests take numbers, each of them one. -/
theorem step_cmdCounter (inv : Inv s) (e : ServerEv) :
    (s.step U e).cmdCounter = if e.requests then s.cmdCounter + 1 else s.cmdCounter := by
  cases e with
  | sendCommand ws module target action => rfl
  | lockDoor moduleId => rfl
  | unlockDoor moduleId => rfl
  | getDoorInfo moduleId => rfl
  | sent cmdid err =>
    -- no event below makes a new number
    show (s.sendDone cmdid err).1.cmdCounter = s.cmdCounter
    unfold Server.sendDone
    cases s.sending cmdid with
    | none => rfl
    | some out =>
      rcases out with ⟨moduleId, socket⟩ | timer
      · cases err <;> rfl
      · cases err <;> rfl
  | message text =>
    show (s.message U text).1.cmdCounter = s.cmdCounter
    rcases message_cases U s text with ⟨module, cmdidS, target, action, -, -, h_eq⟩ | ⟨e, h_eq⟩
    · rw [h_eq, inv.feedback_fst]
      rcases s.pendingGet (parseInt cmdidS) with _ | ⟨key, p⟩ <;> rfl
    · rw [h_eq]
  | timeout timer =>
    show (s.timeout timer).1.cmdCounter = s.cmdCounter
    unfold Server.timeout
    rcases s.timers timer with _ | ⟨cmdid, moduleId, socket⟩ | cmdid <;> rfl

end Ops

variable (U : UpperCase)

theorem cmdCounter_mono (es es' : List ServerEv) :
    (served U es).cmdCounter ≤ (served U (es ++ es')).cmdCounter := by
  induction es' using List.reverseRecOn with
  | nil => rw [List.append_nil]
  | append_singleton es' e ih =>
    rw [← List.append_assoc, served_concat, step_cmdCounter U (inv_served U _)]
    split_ifs
    · exact ih.trans (Nat.le_succ _)
    · exact ih

/-- The numbers below the counter have been issued. -/
theorem issued_of_lt {es : List ServerEv} {c : ℕ} (h_pos : 1 ≤ c)
    (h_lt : c < (served U es).cmdCounter) : Issued U es c := by
  induction es using List.reverseRecOn with
  | nil => exact absurd h_lt (not_lt.mpr h_pos)
  | append_singleton es e ih =>
    rw [served_concat, step_cmdCounter U (inv_served U es)] at h_lt
    -- the number is an old one, or the last event made it
    by_cases h_old : c < (served U es).cmdCounter
    · obtain ⟨pre, e', post, rfl, h_req, h_c⟩ := ih h_old
      exact ⟨pre, e', post ++ [e], by simp, h_req, h_c⟩
    · split_ifs at h_lt with h_req
      · exact ⟨es, e, [], rfl, h_req, by omega⟩
      · exact absurd h_lt h_old

/-- **Entries and timers stay paired**, for every order of requests, completions, datagrams and
timers. -/
theorem paired_served (es : List ServerEv) : Paired U es := by
  have inv := inv_served U es
  refine ⟨fun c h_c => ?_, ?_, fun c h_c => ?_, fun c t h_armed => ?_, fun h_none c => ?_⟩
  · obtain ⟨h_pos, h_lt⟩ := inv.issuedPending c h_c
    exact issued_of_lt U h_pos h_lt
  · -- the counter has gone up in between
    rintro pre e mid e' post - h_req
    have h_step : (served U (pre ++ [e])).cmdCounter = (served U pre).cmdCounter + 1 := by
      rw [served_concat, step_cmdCounter U (inv_served U pre), if_pos h_req]
    have h_mono := cmdCounter_mono U (pre ++ [e]) mid
    rw [List.append_assoc, List.singleton_append, h_step] at h_mono
    exact h_mono
  · obtain ⟨e, h_e⟩ := Option.ne_none_iff_exists'.mp h_c
    exact ⟨e.timer, inv.entry c e h_e, fun t h_t => (inv.timer_eq h_t h_e).symm⟩
  · obtain ⟨e, h_e, -⟩ := inv.timer c t h_armed
    rw [h_e]
    simp
  · -- an entry has its timer armed
    by_contra h_some
    obtain ⟨e, h_e⟩ := Option.ne_none_iff_exists'.mp h_some
    obtain ⟨timer, h_timer, -⟩ := inv.entry c e h_e
    rw [h_none] at h_timer
    exact absurd h_timer (by simp)

end Server

end Node

end DoorSystem
