import DoorSystem.Node.Timers

/-!
# Answers to browsers

How often the callback of a request is called, and by what. A log runs beside the server and keeps
which request took which number and how often each callback was called (`Log`). While a request is
waiting its callback has not been called; the event that ends the wait calls it once
(`LogInv.step`). The one event that calls it again is a failed send of `get-door-info` whose
request has been answered already, by its timer or by a FEEDBACK (`calledOnce_iff`).

`success_of_feedback`: what makes a server report success.
-/

namespace DoorSystem

open CLib CLib.Js

namespace Node

/-! ### The log -/

/-- `lock-door`, `unlock-door` and `get-door-info` have a callback. -/
def ServerEv.hasCallback : ServerEv → Bool
  | .lockDoor _ | .unlockDoor _ | .getDoorInfo _ => true
  | _ => false

/-- A call of the callback of the request `c`. -/
def ServerOut.calls (c : ℕ) : ServerOut → Bool
  | .callback request _ => request == c
  | _ => false

/-- The server and what has been asked and answered. -/
structure Log where
  server : Server
  /-- The request that took the number. -/
  asked : ℕ → Option ServerEv
  /-- How often the callback of the number was called. -/
  answers : ℕ → ℕ

namespace Log

variable (U : UpperCase)

def initial : Log := ⟨Server.initial, fun _ => none, fun _ => 0⟩

/-- One event. -/
def step (l : Log) (e : ServerEv) : Log where
  server := l.server.step U e
  asked := if e.requests then Function.update l.asked l.server.cmdCounter (some e) else l.asked
  answers := fun c => l.answers c + (l.server.exec U e).2.countP (ServerOut.calls c)

end Log

/-- The log after the events `es`. -/
def logged (U : UpperCase) (es : List ServerEv) : Log := run (Log.step U) Log.initial es

section Runs

variable (U : UpperCase)

theorem logged_concat (es : List ServerEv) (e : ServerEv) :
    logged U (es ++ [e]) = (logged U es).step U e := run_append _ _ _ _

theorem logged_server (es : List ServerEv) : (logged U es).server = Server.served U es := by
  induction es using List.reverseRecOn with
  | nil => rfl
  | append_singleton es e ih =>
    rw [logged_concat, Server.served_concat, ← ih]
    rfl

/-! ### The property and its condition -/

/-- The number belongs to a request with a callback. -/
def Log.Expects (l : Log) (c : ℕ) : Prop := ∃ e, l.asked c = some e ∧ e.hasCallback = true

/-- The send has completed, and the timer has fired or been cleared. -/
structure Log.Settled (l : Log) (c : ℕ) : Prop where
  sent : l.server.sending c = none
  timer : ∀ t, ¬ l.server.ArmedFor c t

/-- In every state of the run, what is settled has been answered exactly once. -/
def AnsweredOnce (es : List ServerEv) : Prop :=
  ∀ pre, pre <+: es → ∀ c, (logged U pre).Expects c → (logged U pre).Settled c →
    (logged U pre).answers c = 1

/-- The send of a `get-door-info` fails when its request waits no more. -/
def FailsLate (s : Server) (c : ℕ) : ServerEv → Prop
  | .sent c' (some _) => c' = c ∧ (∃ t, s.sending c = some (.doorInfo t)) ∧ s.pending c = none
  | _ => False

/-- No send of a `get-door-info` fails late. -/
def NoneFailsLate (es : List ServerEv) : Prop :=
  ∀ pre e post, es = pre ++ e :: post → ∀ c, ¬ FailsLate (Server.served U pre) c e

end Runs

/-! ### Whose objects the server holds -/

/-- The socket belongs to the request `asked` with the number `c`. -/
def Client.Of (asked : Option ServerEv) (c : ℕ) : Client → Prop
  | .browser _ => ∀ e, asked = some e → e.hasCallback = false
  | .lockDoor request moduleId => request = c ∧ asked = some (.lockDoor moduleId)
  | .unlockDoor request moduleId => request = c ∧ asked = some (.unlockDoor moduleId)

def EntrySocket.Of (asked : Option ServerEv) (c : ℕ) : EntrySocket → Prop
  | .client k => k.Of asked c
  | .doorInfo request _ => request = c ∧ ∃ moduleId, asked = some (.getDoorInfo moduleId)

/-- Every object that the server holds under a number belongs to the request with this number. -/
structure Owned (asked : ℕ → Option ServerEv) (s : Server) : Prop where
  command : ∀ c m k, s.sending c = some (.command m k) → k.Of (asked c) c
  info : ∀ c t, s.sending c = some (.doorInfo t) → ∃ m, asked c = some (.getDoorInfo m)
  entry : ∀ c e, s.pending c = some e → e.socket.Of (asked c) c
  timer : ∀ t c m k, s.timers t = some (.command c m k) → k.Of (asked c) c
  infoTimer : ∀ t c, s.timers t = some (.doorInfo c) → ∃ m, asked c = some (.getDoorInfo m)

theorem countP_callback (c request : ℕ) (r : Reply) :
    [ServerOut.callback request r].countP (ServerOut.calls c)
      = if c = request then 1 else 0 := by
  rw [List.countP_singleton]
  unfold ServerOut.calls
  by_cases h_c : c = request
  · simp [h_c]
  · simp [h_c, Ne.symm h_c]

/-- The calls that a feedback or an error makes. -/
theorem Client.countP_emit {asked : Option ServerEv} {c c' : ℕ} {k : Client}
    (h_k : k.Of asked c') {e : Emit}
    (h_e : (∃ m id t a r, e = .commandFeedback m id t a r) ∨ ∃ m id x, e = .commandError m id x) :
    (k.emit e).countP (ServerOut.calls c)
      = if c = c' then (if asked.any ServerEv.hasCallback then 1 else 0) else 0 := by
  cases k with
  | browser ws =>
    -- a browser has no callback
    have h_none : asked.any ServerEv.hasCallback = false := by
      cases asked with
      | none => rfl
      | some e => exact h_k e rfl
    rw [h_none]
    show [ServerOut.emit ws e].countP (ServerOut.calls c) = _
    simp [ServerOut.calls]
  | lockDoor request moduleId =>
    obtain ⟨rfl, rfl⟩ := h_k
    rcases h_e with ⟨m, id, t, a, r, rfl⟩ | ⟨m, id, x, rfl⟩
    · exact countP_callback c request _
    · exact countP_callback c request _
  | unlockDoor request moduleId =>
    obtain ⟨rfl, rfl⟩ := h_k
    rcases h_e with ⟨m, id, t, a, r, rfl⟩ | ⟨m, id, x, rfl⟩
    · exact countP_callback c request _
    · exact countP_callback c request _

namespace Owned

variable {asked : ℕ → Option ServerEv} {s : Server}

theorem initial : Owned (fun _ => none) Server.initial where
  command := fun _ _ _ h => absurd h (by simp [Server.initial])
  info := fun _ _ h => absurd h (by simp [Server.initial])
  entry := fun _ _ h => absurd h (by simp [Server.initial])
  timer := fun _ _ _ _ h => absurd h (by simp [Server.initial])
  infoTimer := fun _ _ h => absurd h (by simp [Server.initial])

/-- A server that holds less. -/
theorem shrink (own : Owned asked s) {s' : Server}
    (h_sending : ∀ c o, s'.sending c = some o → s.sending c = some o)
    (h_pending : ∀ c e, s'.pending c = some e → s.pending c = some e)
    (h_timers : ∀ t tm, s'.timers t = some tm → s.timers t = some tm) : Owned asked s' where
  command := fun c m k h => own.command c m k (h_sending _ _ h)
  info := fun c t h => own.info c t (h_sending _ _ h)
  entry := fun c e h => own.entry c e (h_pending _ _ h)
  timer := fun t c m k h => own.timer t c m k (h_timers _ _ h)
  infoTimer := fun t c h => own.infoTimer t c (h_timers _ _ h)

/-- A new request takes the counter's number, under which nothing is held. -/
theorem ask (own : Owned asked s) (inv : s.Inv) (e : ServerEv) :
    Owned (Function.update asked s.cmdCounter (some e)) s := by
  -- the number is a new one, so nothing held is asked anew
  have h_sending : ∀ c, s.sending c ≠ none →
      Function.update asked s.cmdCounter (some e) c = asked c :=
    fun c h => Function.update_of_ne (inv.issuedSending c h).2.ne _ _
  have h_pending : ∀ c, s.pending c ≠ none →
      Function.update asked s.cmdCounter (some e) c = asked c :=
    fun c h => Function.update_of_ne (inv.issuedPending c h).2.ne _ _
  have h_timers : ∀ t tm, s.timers t = some tm →
      Function.update asked s.cmdCounter (some e) tm.cmdid = asked tm.cmdid := by
    intro t tm h
    obtain ⟨p, h_p, -⟩ := inv.timer tm.cmdid t ⟨tm, h, rfl⟩
    exact h_pending _ (by rw [h_p]; simp)
  refine ⟨fun c m k h => ?_, fun c t h => ?_, fun c p h => ?_, fun t c m k h => ?_, fun t c h => ?_⟩
  · rw [h_sending c (by rw [h]; simp)]
    exact own.command c m k h
  · rw [h_sending c (by rw [h]; simp)]
    exact own.info c t h
  · rw [h_pending c (by rw [h]; simp)]
    exact own.entry c p h
  · rw [show Function.update asked s.cmdCounter (some e) c = asked c from h_timers t _ h]
    exact own.timer t c m k h
  · rw [show Function.update asked s.cmdCounter (some e) c = asked c from h_timers t _ h]
    exact own.infoTimer t c h

/-- A send of the request is started. -/
theorem start (own : Owned asked s) (c : ℕ) (out : Outgoing)
    (h_command : ∀ m k, out = .command m k → k.Of (asked c) c)
    (h_info : ∀ t, out = .doorInfo t → ∃ m, asked c = some (.getDoorInfo m)) (n : ℕ) :
    Owned asked { s with
      cmdCounter := n, sending := Function.update s.sending c (some out) } := by
  refine ⟨fun c' m k h => ?_, fun c' t h => ?_, own.entry, own.timer, own.infoTimer⟩
  · rcases Server.update_some_eq_some h with ⟨rfl, h_out⟩ | ⟨-, h_old⟩
    · exact h_command m k h_out
    · exact own.command c' m k h_old
  · rcases Server.update_some_eq_some h with ⟨rfl, h_out⟩ | ⟨-, h_old⟩
    · exact h_info t h_out
    · exact own.info c' t h_old

/-- The request gets an entry and a timer. -/
theorem hold (own : Owned asked s) (c : ℕ) (timer : Timer) (socket : EntrySocket)
    (h_socket : socket.Of (asked c) c)
    (h_command : ∀ c m k, timer = .command c m k → k.Of (asked c) c)
    (h_info : ∀ c, timer = .doorInfo c → ∃ m, asked c = some (.getDoorInfo m)) :
    Owned asked ((s.setTimeout timer).1.pendingSet c ⟨socket, s.nextTimer⟩) := by
  refine ⟨own.command, own.info, fun c' e h => ?_, fun t c' m k h => ?_, fun t c' h => ?_⟩
  · rcases Server.update_some_eq_some h with ⟨rfl, rfl⟩ | ⟨-, h_old⟩
    · exact h_socket
    · exact own.entry c' e h_old
  · rcases Server.update_some_eq_some h with ⟨-, h_timer⟩ | ⟨-, h_old⟩
    · exact h_command c' m k h_timer
    · exact own.timer t c' m k h_old
  · rcases Server.update_some_eq_some h with ⟨-, h_timer⟩ | ⟨-, h_old⟩
    · exact h_info c' h_timer
    · exact own.infoTimer t c' h_old

/-- An entry goes with its timer. -/
theorem release (own : Owned asked s) (t c : ℕ) :
    Owned asked ((s.clearTimeout t).pendingDelete c) :=
  own.shrink (fun _ _ h => h) (fun _ _ h => (Server.update_none_eq_some h).2)
    (fun _ _ h => (Server.update_none_eq_some h).2)

theorem complete (own : Owned asked s) (c : ℕ) :
    Owned asked { s with sending := Function.update s.sending c none } :=
  own.shrink (fun _ _ h => (Server.update_none_eq_some h).2) (fun _ _ h => h) (fun _ _ h => h)

theorem sendDone (own : Owned asked s) (cmdid : ℕ) (err : Option CStr) :
    Owned asked (s.sendDone cmdid err).1 := by
  unfold Server.sendDone
  cases h_sending : s.sending cmdid with
  | none => exact own
  | some out =>
    -- the send has ended, and with success its command waits under the same owner
    have h_done := own.complete cmdid
    cases out with
    | command moduleId socket =>
      cases err with
      | some error => exact h_done
      | none =>
        have h_of := own.command cmdid moduleId socket h_sending
        refine h_done.hold cmdid (.command cmdid moduleId socket) (.client socket) h_of ?_ ?_
        · rintro c m k h
          obtain ⟨rfl, rfl, rfl⟩ := Timer.command.inj h
          exact h_of
        · exact fun c h => absurd h (by simp)
    | doorInfo timer =>
      cases err with
      | some error => exact h_done.release timer cmdid
      | none => exact h_done

theorem timeout (own : Owned asked s) (t : ℕ) : Owned asked (s.timeout t).1 := by
  unfold Server.timeout
  rcases s.timers t with _ | ⟨cmdid, moduleId, socket⟩ | cmdid
  · exact own
  · exact own.release t cmdid
  · exact own.release t cmdid

theorem message (own : Owned asked s) (inv : s.Inv) (U : UpperCase) (text : CStr) :
    Owned asked (s.message U text).1 := by
  rcases Server.message_cases U s text with ⟨module, cmdidS, target, action, -, -, h_eq⟩ |
    ⟨e, h_eq⟩
  · rw [h_eq, inv.feedback_fst]
    rcases s.pendingGet (parseInt cmdidS) with _ | ⟨key, p⟩
    · exact own
    · exact own.release p.timer key
  · rw [h_eq]
    exact own

end Owned

/-- **Step.** -/
theorem Log.owned_step (U : UpperCase) {l : Log} (inv : l.server.Inv)
    (own : Owned l.asked l.server) (e : ServerEv) :
    Owned (l.step U e).asked (l.step U e).server := by
  have h_asked : ∀ e, Function.update l.asked l.server.cmdCounter (some e) l.server.cmdCounter
      = some e := fun e => Function.update_self _ _ _
  cases e with
  | sendCommand ws module target action =>
    -- the request's own number is its first, so the owner is the request itself
    refine (own.ask inv _).start _ (.command _ (.browser ws)) ?_ (fun t h => absurd h (by simp)) _
    rintro m k h
    obtain ⟨-, rfl⟩ := Outgoing.command.inj h
    intro e h_e
    rw [h_asked] at h_e
    rw [← Option.some.inj h_e]
    rfl
  | lockDoor moduleId =>
    refine (own.ask inv _).start _ (.command _ (.lockDoor _ moduleId)) ?_
      (fun t h => absurd h (by simp)) _
    rintro m k h
    obtain ⟨-, rfl⟩ := Outgoing.command.inj h
    exact ⟨rfl, h_asked _⟩
  | unlockDoor moduleId =>
    refine (own.ask inv _).start _ (.command _ (.unlockDoor _ moduleId)) ?_
      (fun t h => absurd h (by simp)) _
    rintro m k h
    obtain ⟨-, rfl⟩ := Outgoing.command.inj h
    exact ⟨rfl, h_asked _⟩
  | getDoorInfo moduleId =>
    -- the entry and its timer are there at once, before the line has gone
    have h_held := (own.ask inv (.getDoorInfo moduleId)).hold l.server.cmdCounter
      (.doorInfo l.server.cmdCounter) (.doorInfo l.server.cmdCounter l.server.nextTimer)
      ⟨rfl, moduleId, h_asked _⟩ (fun c m k h => absurd h (by simp))
      (fun c h => ⟨moduleId, by rw [← Timer.doorInfo.inj h]; exact h_asked _⟩)
    exact h_held.start l.server.cmdCounter (.doorInfo l.server.nextTimer)
      (fun m k h => absurd h (by simp)) (fun t _ => ⟨moduleId, h_asked _⟩) _
  | sent cmdid err => exact own.sendDone cmdid err
  | message text => exact own.message inv U text
  | timeout timer => exact own.timeout timer

/-! ### Waiting requests -/

/-- The request has not been answered: its datagram is on its way out and has no entry yet, or it
has its entry. -/
def Waiting (s : Server) (c : ℕ) : Prop :=
  (∃ m k, s.sending c = some (.command m k)) ∨ s.pending c ≠ none

theorem waiting_congr {s s' : Server} {c : ℕ} (h_sending : s'.sending c = s.sending c)
    (h_pending : s'.pending c = s.pending c) : Waiting s' c ↔ Waiting s c := by
  unfold Waiting
  rw [h_sending, h_pending]

theorem not_waiting {s : Server} {c : ℕ} (h_sending : ∀ m k, s.sending c ≠ some (.command m k))
    (h_pending : s.pending c = none) : ¬ Waiting s c := by
  rintro (⟨m, k, h⟩ | h)
  · exact h_sending m k h
  · exact h h_pending

/-- What an event does to the request `c`, where `calls` is how often it calls the callback. -/
inductive Tally (s s' : Server) (e : ServerEv) (c : ℕ) : ℕ → Prop
  /-- Nothing. -/
  | keeps (h : Waiting s' c ↔ Waiting s c) : Tally s s' e c 0
  /-- It answers the request. -/
  | answers (h : Waiting s c) (h' : ¬ Waiting s' c) : Tally s s' e c 1
  /-- It answers the request again. -/
  | late (h : FailsLate s c e) (h' : ¬ Waiting s' c) : Tally s s' e c 1

section Steps

variable {asked : ℕ → Option ServerEv} {s : Server}

/-- A request other than `c` does nothing to `c`. -/
theorem tally_request {c : ℕ} (h_c : c ≠ s.cmdCounter) {s' : Server} {e : ServerEv}
    (h_sending : ∀ c, c ≠ s.cmdCounter → s'.sending c = s.sending c)
    (h_pending : ∀ c, c ≠ s.cmdCounter → s'.pending c = s.pending c) (payload : CStr) :
    Tally s s' e c ([ServerOut.send payload].countP (ServerOut.calls c)) :=
  .keeps (waiting_congr (h_sending c h_c) (h_pending c h_c))

theorem tally_sendDone_command (inv : s.Inv) (own : Owned asked s) {cmdid : ℕ} {moduleId : CStr}
    {socket : Client} (h_sending : s.sending cmdid = some (.command moduleId socket))
    (err : Option CStr) {c : ℕ} (h_c : (asked c).any ServerEv.hasCallback = true) :
    Tally s (s.sendDone cmdid err).1 (.sent cmdid err) c
      ((s.sendDone cmdid err).2.countP (ServerOut.calls c)) := by
  have h_of := own.command cmdid moduleId socket h_sending
  have h_waiting : Waiting s cmdid := Or.inl ⟨_, _, h_sending⟩
  have h_self : Function.update s.sending cmdid none cmdid = none := Function.update_self _ _ _
  have h_other : ∀ {c}, c ≠ cmdid → Function.update s.sending cmdid none c = s.sending c :=
    fun h => Function.update_of_ne h _ _
  unfold Server.sendDone
  rw [h_sending]
  cases err with
  | some error =>
    dsimp only
    rw [Client.countP_emit h_of (Or.inr ⟨_, _, _, rfl⟩)]
    by_cases h_eq : c = cmdid
    · -- the error is the answer
      subst h_eq
      rw [if_pos rfl, if_pos h_c]
      refine .answers h_waiting (not_waiting (fun m k h => ?_) ?_)
      · exact absurd (h_self.symm.trans h) (by simp)
      · exact inv.sendingCommand c _ _ h_sending
    · rw [if_neg h_eq]
      exact .keeps (waiting_congr (h_other h_eq) rfl)
  | none =>
    refine .keeps ?_
    by_cases h_eq : c = cmdid
    · -- the entry takes over
      subst h_eq
      refine iff_of_true (Or.inr ?_) h_waiting
      show Function.update s.pending c _ c ≠ none
      rw [Function.update_self]
      simp
    · exact waiting_congr (h_other h_eq) (Function.update_of_ne h_eq _ _)

theorem tally_sendDone_info {cmdid timer : ℕ} (h_sending : s.sending cmdid = some (.doorInfo timer))
    (err : Option CStr) (c : ℕ) :
    Tally s (s.sendDone cmdid err).1 (.sent cmdid err) c
      ((s.sendDone cmdid err).2.countP (ServerOut.calls c)) := by
  have h_self : Function.update s.sending cmdid none cmdid = none := Function.update_self _ _ _
  have h_other : ∀ {c}, c ≠ cmdid → Function.update s.sending cmdid none c = s.sending c :=
    fun h => Function.update_of_ne h _ _
  unfold Server.sendDone
  rw [h_sending]
  cases err with
  | some error =>
    dsimp only
    rw [countP_callback]
    by_cases h_eq : c = cmdid
    · subst h_eq
      rw [if_pos rfl]
      have h_not : ¬ Waiting (({ s with
          sending := Function.update s.sending c none } : Server).clearTimeout
            timer |>.pendingDelete c) c := by
        refine not_waiting (fun m k h => ?_) (Function.update_self _ _ _)
        exact absurd (h_self.symm.trans h) (by simp)
      cases h_pending : s.pending c with
      | none => exact .late ⟨rfl, ⟨timer, h_sending⟩, h_pending⟩ h_not
      | some p => exact .answers (Or.inr (by rw [h_pending]; simp)) h_not
    · rw [if_neg h_eq]
      exact .keeps (waiting_congr (h_other h_eq) (Function.update_of_ne h_eq _ _))
  | none =>
    refine .keeps ?_
    by_cases h_eq : c = cmdid
    · -- the request waits for its FEEDBACK as before
      subst h_eq
      unfold Waiting
      dsimp only
      rw [h_self, h_sending]
      simp
    · exact waiting_congr (h_other h_eq) rfl

theorem tally_sendDone (inv : s.Inv) (own : Owned asked s) (cmdid : ℕ) (err : Option CStr) {c : ℕ}
    (h_c : (asked c).any ServerEv.hasCallback = true) :
    Tally s (s.sendDone cmdid err).1 (.sent cmdid err) c
      ((s.sendDone cmdid err).2.countP (ServerOut.calls c)) := by
  cases h_sending : s.sending cmdid with
  | none =>
    unfold Server.sendDone
    rw [h_sending]
    exact .keeps Iff.rfl
  | some out =>
    cases out with
    | command moduleId socket => exact tally_sendDone_command inv own h_sending err h_c
    | doorInfo timer => exact tally_sendDone_info h_sending err c

/-- An entry that goes was waiting, and nothing is on its way out under its number. -/
theorem tally_release (inv : s.Inv) {e : ServerEv} {key t : ℕ} (h_key : s.pending key ≠ none)
    {c n : ℕ} (h_n : n = if c = key then 1 else 0) :
    Tally s ((s.clearTimeout t).pendingDelete key) e c n := by
  subst h_n
  by_cases h_eq : c = key
  · subst h_eq
    rw [if_pos rfl]
    refine .answers (Or.inr h_key) (not_waiting (fun m k h => ?_) (Function.update_self _ _ _))
    exact h_key (inv.sendingCommand c m k h)
  · rw [if_neg h_eq]
    exact .keeps (waiting_congr rfl (Function.update_of_ne h_eq _ _))

theorem tally_timeout (inv : s.Inv) (own : Owned asked s) (t : ℕ) {e : ServerEv} {c : ℕ}
    (h_c : (asked c).any ServerEv.hasCallback = true) :
    Tally s (s.timeout t).1 e c ((s.timeout t).2.countP (ServerOut.calls c)) := by
  unfold Server.timeout
  rcases h_t : s.timers t with _ | timer
  · exact .keeps Iff.rfl
  · obtain ⟨p, h_p, -⟩ := inv.timer timer.cmdid t ⟨timer, h_t, rfl⟩
    have h_key : s.pending timer.cmdid ≠ none := by
      -- an armed timer has its entry, which goes with this call
      rw [h_p]
      simp
    rcases timer with ⟨cmdid, moduleId, socket⟩ | cmdid
    · refine tally_release inv h_key ?_
      dsimp only
      rw [Client.countP_emit (own.timer t cmdid moduleId socket h_t) (Or.inr ⟨_, _, _, rfl⟩)]
      show _ = if c = cmdid then 1 else 0
      by_cases h_eq : c = cmdid
      · rw [if_pos h_eq, if_pos h_eq, if_pos (h_eq ▸ h_c)]
      · rw [if_neg h_eq, if_neg h_eq]
    · exact tally_release inv h_key (countP_callback c cmdid _)

/-- The broadcasts of a message call nobody. -/
theorem countP_broadcast (c : ℕ) (e e' : Emit) (outs : List ServerOut) :
    (outs ++ [ServerOut.broadcast e, .broadcast e']).countP (ServerOut.calls c)
      = outs.countP (ServerOut.calls c) := by
  rw [List.countP_append]
  rfl

theorem tally_message (inv : s.Inv) (own : Owned asked s) (U : UpperCase) (text : CStr)
    {e : ServerEv} {c : ℕ} (h_c : (asked c).any ServerEv.hasCallback = true) :
    Tally s (s.message U text).1 e c ((s.message U text).2.countP (ServerOut.calls c)) := by
  rcases Server.message_cases U s text with ⟨module, cmdidS, target, action, -, -, h_eq⟩ |
    ⟨e', h_eq⟩
  · rw [h_eq, inv.feedback_fst]
    unfold Server.feedback
    dsimp only
    rw [countP_broadcast]
    -- the answer to an entry releases it, any other one is told to the pages only
    rcases h_get : s.pendingGet (parseInt cmdidS) with _ | ⟨key, ⟨socket, t⟩⟩
    · exact .keeps Iff.rfl
    · obtain ⟨-, h_p⟩ := Server.pendingGet_eq_some h_get
      refine tally_release inv (by rw [h_p]; simp) ?_
      have h_of := own.entry key _ h_p
      rcases socket with k | ⟨request, t'⟩
      · show (k.emit _).countP (ServerOut.calls c) = _
        rw [Client.countP_emit h_of (Or.inl ⟨_, _, _, _, _, rfl⟩)]
        by_cases h_key : c = key
        · rw [if_pos h_key, if_pos h_key, if_pos (h_key ▸ h_c)]
        · rw [if_neg h_key, if_neg h_key]
      · obtain ⟨rfl, -⟩ := h_of
        exact countP_callback c request _
  · rw [h_eq]
    exact .keeps Iff.rfl

/-- **Step.** What an event does to a request that has been made. -/
theorem tally_exec (inv : s.Inv) (own : Owned asked s) (U : UpperCase) (e : ServerEv) {c : ℕ}
    (h_lt : c < s.cmdCounter) (h_c : (asked c).any ServerEv.hasCallback = true) :
    Tally s (s.step U e) e c ((s.exec U e).2.countP (ServerOut.calls c)) := by
  cases e with
  | sendCommand ws module target action =>
    -- a request has a number that nobody waits for yet
    refine tally_request h_lt.ne (fun c h => ?_) (fun _ _ => ?_) _
    · exact Function.update_of_ne h _ _
    · rfl
  | lockDoor moduleId =>
    refine tally_request h_lt.ne (fun c h => ?_) (fun _ _ => ?_) _
    · exact Function.update_of_ne h _ _
    · rfl
  | unlockDoor moduleId =>
    refine tally_request h_lt.ne (fun c h => ?_) (fun _ _ => ?_) _
    · exact Function.update_of_ne h _ _
    · rfl
  | getDoorInfo moduleId =>
    refine tally_request h_lt.ne (fun c h => ?_) (fun c h => ?_) _
    · exact Function.update_of_ne h _ _
    · exact Function.update_of_ne h _ _
  | sent cmdid err => exact tally_sendDone inv own cmdid err h_c
  | message text => exact tally_message inv own U text h_c
  | timeout t => exact tally_timeout inv own t h_c

/-! ### Who is called -/

/-- A FEEDBACK datagram whose id reads as the number of a request that waits for it. -/
structure FeedbackFor (s : Server) (c : ℕ) (text : CStr) : Prop where
  words : ∃ module cmdidS target action,
    Js.words (trim text) = module :: "FEEDBACK".toList :: cmdidS :: target :: action ∧
      action ≠ [] ∧ parseInt cmdidS = some (c : ℤ)
  waiting : s.pending c ≠ none

/-- The success reply to a request. -/
def SuccessTo (asked : Option ServerEv) (action moduleId : CStr) : Prop :=
  asked = some (.lockDoor moduleId) ∧ action = "LOCK".toList ∨
    asked = some (.unlockDoor moduleId) ∧ action = "UNLOCK".toList

/-- What is known about a call of the callback `c` with `r`: the request has a callback, and a
success comes from a FEEDBACK. -/
structure Caused (asked : Option ServerEv) (s : Server) (e : ServerEv) (c : ℕ) (r : Reply) :
    Prop where
  expected : asked.any ServerEv.hasCallback = true
  success : ∀ a m, r = .success a m →
    SuccessTo asked a m ∧ ∃ text, e = .message text ∧ FeedbackFor s c text

theorem Client.mem_emit {req : Option ServerEv} {c c' : ℕ} {k : Client} (h_k : k.Of req c')
    {e : Emit} {r : Reply} (h : ServerOut.callback c r ∈ k.emit e) :
    c = c' ∧ req.any ServerEv.hasCallback = true ∧ ∀ a m, r = .success a m →
      SuccessTo req a m ∧ ∃ m id t a raw, e = .commandFeedback m id t a raw := by
  cases k with
  | browser ws => exact absurd h (by simp [emit])
  | lockDoor request moduleId =>
    -- feedback calls back with success, an error without
    obtain ⟨rfl, rfl⟩ := h_k
    cases e with
    | commandFeedback m id t a raw =>
      obtain ⟨rfl, rfl⟩ := ServerOut.callback.inj (List.mem_singleton.mp h)
      refine ⟨rfl, rfl, fun a m h_r => ⟨Or.inl ?_, _, _, _, _, _, rfl⟩⟩
      obtain ⟨rfl, rfl⟩ := Reply.success.inj h_r
      exact ⟨rfl, rfl⟩
    | commandError m id x =>
      obtain ⟨rfl, rfl⟩ := ServerOut.callback.inj (List.mem_singleton.mp h)
      exact ⟨rfl, rfl, fun a m h_r => absurd h_r (by simp)⟩
    | _ => exact absurd h List.not_mem_nil
  | unlockDoor request moduleId =>
    obtain ⟨rfl, rfl⟩ := h_k
    cases e with
    | commandFeedback m id t a raw =>
      obtain ⟨rfl, rfl⟩ := ServerOut.callback.inj (List.mem_singleton.mp h)
      refine ⟨rfl, rfl, fun a m h_r => ⟨Or.inr ?_, _, _, _, _, _, rfl⟩⟩
      obtain ⟨rfl, rfl⟩ := Reply.success.inj h_r
      exact ⟨rfl, rfl⟩
    | commandError m id x =>
      obtain ⟨rfl, rfl⟩ := ServerOut.callback.inj (List.mem_singleton.mp h)
      exact ⟨rfl, rfl, fun a m h_r => absurd h_r (by simp)⟩
    | _ => exact absurd h List.not_mem_nil

/-- An error makes no success. -/
theorem Client.caused_of_error {c c' : ℕ} {k : Client} (h_k : k.Of (asked c') c') {m x : CStr}
    {id : ℕ} {e : ServerEv} {r : Reply}
    (h : ServerOut.callback c r ∈ k.emit (.commandError m id x)) : Caused (asked c) s e c r := by
  obtain ⟨rfl, h_any, h_success⟩ := Client.mem_emit h_k h
  refine ⟨h_any, fun a m h_r => ?_⟩
  obtain ⟨-, _, _, _, _, _, h_e⟩ := h_success a m h_r
  exact absurd h_e (by simp)

theorem caused_of_null {c c' : ℕ} (h_info : ∃ m, asked c' = some (.getDoorInfo m))
    {e : ServerEv} {r : Reply}
    (h : ServerOut.callback c r ∈ [ServerOut.callback c' .null]) : Caused (asked c) s e c r := by
  obtain ⟨rfl, rfl⟩ := ServerOut.callback.inj (List.mem_singleton.mp h)
  obtain ⟨m, h_m⟩ := h_info
  exact ⟨by rw [h_m]; rfl, fun a m h_r => absurd h_r (by simp)⟩

theorem doorInfo_ne_success (U : UpperCase) (module target rawAction a m : CStr) :
    Server.doorInfo U module target rawAction ≠ .success a m := by
  unfold Server.doorInfo
  dsimp only
  exact Reply.noConfusion

theorem caused_of_message (own : Owned asked s) (U : UpperCase) {text : CStr} {c : ℕ} {r : Reply}
    (h : ServerOut.callback c r ∈ (s.message U text).2) :
    Caused (asked c) s (.message text) c r := by
  rcases Server.message_cases U s text with ⟨module, cmdidS, target, action, h_action, h_words,
    h_eq⟩ | ⟨e', h_eq⟩
  · rw [h_eq] at h
    unfold Server.feedback at h
    dsimp only at h
    -- the broadcasts are no calls
    replace h := (List.mem_append.mp h).resolve_right (by simp)
    rcases h_get : s.pendingGet (parseInt cmdidS) with _ | ⟨key, ⟨socket, t⟩⟩
    · rw [h_get] at h
      exact absurd h List.not_mem_nil
    · rw [h_get] at h
      obtain ⟨h_id, h_p⟩ := Server.pendingGet_eq_some h_get
      have h_of := own.entry key _ h_p
      rcases socket with k | ⟨request, t'⟩
      · change ServerOut.callback c r ∈ k.emit _ at h
        obtain ⟨rfl, h_any, h_success⟩ := Client.mem_emit h_of h
        refine ⟨h_any, fun a m h_r => ⟨(h_success a m h_r).1, text, rfl, ?_, ?_⟩⟩
        · exact ⟨module, cmdidS, target, action, h_words, h_action, h_id⟩
        · rw [h_p]
          simp
      · -- the answer of get-door-info is none of these replies
        obtain ⟨rfl, m, h_m⟩ := h_of
        obtain ⟨rfl, rfl⟩ := ServerOut.callback.inj (List.mem_singleton.mp h)
        exact ⟨by rw [h_m]; rfl, fun a m h_r => absurd h_r (doorInfo_ne_success U _ _ _ a m)⟩
  · rw [h_eq] at h
    exact absurd h (by simp)

theorem caused_of_exec (own : Owned asked s) (U : UpperCase) {e : ServerEv} {c : ℕ} {r : Reply}
    (h : ServerOut.callback c r ∈ (s.exec U e).2) : Caused (asked c) s e c r := by
  cases e with
  | sendCommand ws module target action => exact absurd (List.mem_singleton.mp h) (by simp)
  | lockDoor moduleId => exact absurd (List.mem_singleton.mp h) (by simp)
  | unlockDoor moduleId => exact absurd (List.mem_singleton.mp h) (by simp)
  | getDoorInfo moduleId => exact absurd (List.mem_singleton.mp h) (by simp)
  | sent cmdid err =>
    -- only a send that failed calls back
    change ServerOut.callback c r ∈ (s.sendDone cmdid err).2 at h
    unfold Server.sendDone at h
    cases h_sending : s.sending cmdid with
    | none =>
      rw [h_sending] at h
      exact absurd h List.not_mem_nil
    | some out =>
      rw [h_sending] at h
      cases out with
      | command moduleId socket =>
        cases err with
        | some x => exact Client.caused_of_error (own.command cmdid _ _ h_sending) h
        | none => exact absurd h List.not_mem_nil
      | doorInfo timer =>
        cases err with
        | some x => exact caused_of_null (own.info cmdid _ h_sending) h
        | none => exact absurd h List.not_mem_nil
  | message text => exact caused_of_message own U h
  | timeout t =>
    -- a timer calls back as the kind of its entry does
    change ServerOut.callback c r ∈ (s.timeout t).2 at h
    unfold Server.timeout at h
    rcases h_t : s.timers t with _ | ⟨cmdid, moduleId, socket⟩ | cmdid
    · rw [h_t] at h
      exact absurd h List.not_mem_nil
    · rw [h_t] at h
      exact Client.caused_of_error (own.timer t cmdid _ _ h_t) h
    · rw [h_t] at h
      exact caused_of_null (own.infoTimer t cmdid h_t) h

/-- Nothing is on its way out again. -/
theorem sending_step (inv : s.Inv) (U : UpperCase) (e : ServerEv) {c : ℕ} (h_c : c < s.cmdCounter)
    (h_none : s.sending c = none) : (s.step U e).sending c = none := by
  have h_new : ∀ out, Function.update s.sending s.cmdCounter (some out) c = none := by
    -- a new send has a new number, and a send that ends is taken out
    intro out
    rw [Function.update_of_ne h_c.ne]
    exact h_none
  have h_done : ∀ c', Function.update s.sending c' none c = none := by
    intro c'
    by_cases h_eq : c = c'
    · rw [h_eq, Function.update_self]
    · rw [Function.update_of_ne h_eq]
      exact h_none
  cases e with
  | sendCommand ws module target action => exact h_new _
  | lockDoor moduleId => exact h_new _
  | unlockDoor moduleId => exact h_new _
  | getDoorInfo moduleId => exact h_new _
  | sent cmdid err =>
    show (s.sendDone cmdid err).1.sending c = none
    unfold Server.sendDone
    rcases s.sending cmdid with _ | ⟨moduleId, socket⟩ | timer
    · exact h_none
    · cases err <;> exact h_done cmdid
    · cases err <;> exact h_done cmdid
  | message text =>
    show (s.message U text).1.sending c = none
    rcases Server.message_cases U s text with ⟨module, cmdidS, target, action, -, -, h_eq⟩ |
      ⟨e', h_eq⟩
    · rw [h_eq, inv.feedback_fst]
      rcases s.pendingGet (parseInt cmdidS) with _ | ⟨key, p⟩ <;> exact h_none
    · rw [h_eq]
      exact h_none
  | timeout t =>
    show (s.timeout t).1.sending c = none
    unfold Server.timeout
    rcases s.timers t with _ | ⟨cmdid, moduleId, socket⟩ | cmdid <;> exact h_none

/-- A late failure calls the callback, and leaves nothing behind. -/
theorem exec_of_failsLate (U : UpperCase) {e : ServerEv} {c : ℕ} (h : FailsLate s c e) :
    (s.exec U e).2.countP (ServerOut.calls c) = 1 ∧ (s.step U e).sending c = none ∧
      (s.step U e).pending c = none := by
  rcases e with _ | _ | _ | _ | ⟨c', _ | x⟩ | _ | _
  case sent.some =>
    obtain ⟨rfl, ⟨t, h_sending⟩, -⟩ := h
    show (s.sendDone c' (some x)).2.countP (ServerOut.calls c') = 1 ∧
      (s.sendDone c' (some x)).1.sending c' = none ∧ (s.sendDone c' (some x)).1.pending c' = none
    unfold Server.sendDone
    rw [h_sending]
    refine ⟨?_, Function.update_self _ _ _, Function.update_self _ _ _⟩
    dsimp only
    rw [countP_callback, if_pos rfl]
  all_goals exact h.elim

/-- A request with a callback waits as soon as it is made. -/
theorem waiting_of_request (U : UpperCase) {e : ServerEv} (h_e : e.hasCallback = true) :
    Waiting (s.step U e) s.cmdCounter := by
  cases e with
  | lockDoor moduleId => exact Or.inl ⟨_, _, Function.update_self _ _ _⟩
  | unlockDoor moduleId => exact Or.inl ⟨_, _, Function.update_self _ _ _⟩
  | getDoorInfo moduleId =>
    refine Or.inr ?_
    show Function.update s.pending s.cmdCounter _ s.cmdCounter ≠ none
    rw [Function.update_self]
    simp
  | _ => exact absurd h_e (by simp [ServerEv.hasCallback])

end Steps

/-! ### The log of a run -/

/-- The log records requests by their numbers, and answers to requests only. -/
structure LogInv (l : Log) : Prop where
  inv : l.server.Inv
  own : Owned l.asked l.server
  asked_lt : ∀ c, l.asked c ≠ none → c < l.server.cmdCounter
  answers_of_none : ∀ c, l.asked c = none → l.answers c = 0

theorem LogInv.initial : LogInv Log.initial where
  inv := Server.Inv.initial
  own := Owned.initial
  asked_lt := fun _ h => absurd rfl h
  answers_of_none := fun _ _ => rfl

/-- The next number is not taken. -/
theorem LogInv.asked_counter {l : Log} (inv : LogInv l) : l.asked l.server.cmdCounter = none := by
  by_contra h_some
  exact lt_irrefl _ (inv.asked_lt _ h_some)

theorem LogInv.lt_of_expects {l : Log} (inv : LogInv l) {c : ℕ} (h : l.Expects c) :
    c < l.server.cmdCounter := by
  obtain ⟨e, h_e, -⟩ := h
  refine inv.asked_lt c ?_
  rw [h_e]
  simp

/-- Nobody is called under a number that no request has taken. -/
theorem LogInv.countP_of_none {l : Log} (inv : LogInv l) (U : UpperCase) (e : ServerEv) {c : ℕ}
    (h_c : l.asked c = none) : (l.server.exec U e).2.countP (ServerOut.calls c) = 0 := by
  refine List.countP_eq_zero.mpr (fun out h_out h_calls => ?_)
  cases out with
  | callback request r =>
    obtain rfl : request = c := beq_iff_eq.mp h_calls
    have h_any := (caused_of_exec inv.own U h_out).expected
    rw [h_c] at h_any
    exact absurd h_any (by simp)
  | _ => exact absurd h_calls (by simp [ServerOut.calls])

theorem Log.asked_step_of_ne (U : UpperCase) {l : Log} (e : ServerEv) {c : ℕ}
    (h_c : c ≠ l.server.cmdCounter) : (l.step U e).asked c = l.asked c := by
  show (if e.requests then Function.update l.asked l.server.cmdCounter (some e) else l.asked) c = _
  split_ifs
  · exact Function.update_of_ne h_c _ _
  · rfl

theorem Log.asked_step_counter (U : UpperCase) {l : Log} (inv : LogInv l) (e : ServerEv) :
    (l.step U e).asked l.server.cmdCounter = if e.requests then some e else none := by
  show (if e.requests then Function.update l.asked l.server.cmdCounter (some e) else l.asked)
    l.server.cmdCounter = _
  split_ifs
  · exact Function.update_self _ _ _
  · exact inv.asked_counter

/-- **Step.** -/
theorem LogInv.step {l : Log} (inv : LogInv l) (U : UpperCase) (e : ServerEv) :
    LogInv (l.step U e) := by
  have h_counter : (l.step U e).server.cmdCounter
      = if e.requests then l.server.cmdCounter + 1 else l.server.cmdCounter :=
    Server.step_cmdCounter U inv.inv e
  refine ⟨inv.inv.step U e, Log.owned_step U inv.inv inv.own e, fun c h_c => ?_, fun c h_c => ?_⟩
  · rw [h_counter]
    by_cases h_eq : c = l.server.cmdCounter
    · rw [h_eq, Log.asked_step_counter U inv] at h_c
      split_ifs at h_c ⊢
      · omega
      · exact absurd rfl h_c
    · rw [Log.asked_step_of_ne U e h_eq] at h_c
      have h_lt := inv.asked_lt c h_c
      split_ifs <;> omega
  · -- the number was not taken before either
    have h_none : l.asked c = none := by
      by_cases h_eq : c = l.server.cmdCounter
      · rw [h_eq]
        exact inv.asked_counter
      · rwa [Log.asked_step_of_ne U e h_eq] at h_c
    show l.answers c + _ = 0
    rw [inv.answers_of_none c h_none, inv.countP_of_none U e h_none]

theorem logInv_logged (U : UpperCase) (es : List ServerEv) : LogInv (logged U es) :=
  run_invariant LogInv (fun _ e inv => inv.step U e) LogInv.initial es

section Result

variable (U : UpperCase)

/-- A send has failed late in the run. -/
def FailedLate (es : List ServerEv) (c : ℕ) : Prop :=
  ∃ pre e post, es = pre ++ e :: post ∧ FailsLate (Server.served U pre) c e

/-- The request has been answered once, unless it still waits; or its send has failed late. -/
def Counted (es : List ServerEv) (c : ℕ) : Prop :=
  ((Waiting (logged U es).server c → (logged U es).answers c = 0) ∧
    (¬ Waiting (logged U es).server c → (logged U es).answers c = 1)) ∨
  FailedLate U es c ∧ (logged U es).server.sending c = none

theorem Log.Expects.any {l : Log} {c : ℕ} (h : l.Expects c) :
    (l.asked c).any ServerEv.hasCallback = true := by
  obtain ⟨e, h_e, h_callback⟩ := h
  rw [h_e]
  exact h_callback

/-- **Step.** -/
theorem counted_concat {es : List ServerEv} {e : ServerEv} {c : ℕ}
    (h_old : (logged U es).Expects c → Counted U es c)
    (h_new : (logged U (es ++ [e])).Expects c) : Counted U (es ++ [e]) c := by
  have inv := logInv_logged U es
  unfold Counted
  rw [logged_concat] at h_new ⊢
  by_cases h_c : c = (logged U es).server.cmdCounter
  · -- the request is made by this event
    subst h_c
    obtain ⟨e', h_e', h_callback⟩ := h_new
    rw [Log.asked_step_counter U inv] at h_e'
    split_ifs at h_e'
    obtain rfl := Option.some.inj h_e'
    have h_none := inv.asked_counter
    refine Or.inl ⟨fun _ => ?_, fun h_not => absurd (waiting_of_request U h_callback) h_not⟩
    show (logged U es).answers _ + _ = 0
    rw [inv.answers_of_none _ h_none, inv.countP_of_none U e h_none]
  · have h_expects : (logged U es).Expects c := by
      unfold Log.Expects at h_new ⊢
      rwa [Log.asked_step_of_ne U e h_c] at h_new
    have h_lt := inv.lt_of_expects h_expects
    rcases h_old h_expects with ⟨h_wait, h_done⟩ | ⟨⟨pre, e', post, rfl, h_late⟩, h_sent⟩
    · have h_tally := tally_exec inv.inv inv.own U e h_lt h_expects.any
      show ((Waiting ((logged U es).server.step U e) c →
          (logged U es).answers c +
            ((logged U es).server.exec U e).2.countP (ServerOut.calls c) = 0)
        ∧ (¬ Waiting ((logged U es).server.step U e) c →
          (logged U es).answers c + ((logged U es).server.exec U e).2.countP (ServerOut.calls c)
            = 1)) ∨ _
      generalize ((logged U es).server.exec U e).2.countP (ServerOut.calls c) = n at h_tally ⊢
      cases h_tally with
      | keeps h_same =>
        exact Or.inl ⟨fun h => h_wait (h_same.mp h), fun h => h_done (fun h' => h (h_same.mpr h'))⟩
      | answers h_before h_after =>
        exact Or.inl ⟨fun h => absurd h h_after, fun _ => by rw [h_wait h_before]⟩
      | late h_late h_after =>
        rw [logged_server] at h_late
        refine Or.inr ⟨⟨es, e, [], rfl, h_late⟩, ?_⟩
        rw [← logged_server] at h_late
        exact (exec_of_failsLate U h_late).2.1
    · exact Or.inr ⟨⟨pre, e', post ++ [e], by simp, h_late⟩,
        sending_step inv.inv U e h_lt h_sent⟩

theorem counted_logged (es : List ServerEv) {c : ℕ} (h_c : (logged U es).Expects c) :
    Counted U es c := by
  induction es using List.reverseRecOn with
  | nil =>
    obtain ⟨e, h_e, -⟩ := h_c
    exact absurd h_e (by simp [logged, Log.initial])
  | append_singleton es e ih => exact counted_concat U ih h_c

/-- A request whose send fails late has been answered. -/
theorem answered_of_failsLate {pre : List ServerEv} {e : ServerEv} {c : ℕ}
    (h_late : FailsLate (logged U pre).server c e) :
    (logged U pre).Expects c ∧ (logged U pre).answers c = 1 := by
  rcases e with _ | _ | _ | _ | ⟨c', _ | x⟩ | _ | _
  case sent.some =>
    obtain ⟨rfl, ⟨t, h_sending⟩, h_pending⟩ := h_late
    obtain ⟨m, h_m⟩ := (logInv_logged U pre).own.info c' t h_sending
    have h_expects : (logged U pre).Expects c' := ⟨_, h_m, rfl⟩
    refine ⟨h_expects, ?_⟩
    -- still sending, with no entry left: its timer has called back
    rcases counted_logged U pre h_expects with ⟨-, h_done⟩ | ⟨-, h_none⟩
    · refine h_done (not_waiting (fun m k h => ?_) h_pending)
      rw [h_sending] at h
      exact absurd h (by simp)
    · rw [h_sending] at h_none
      exact absurd h_none (by simp)
  all_goals exact h_late.elim

/-- **When every request is answered exactly once.** In every run, in every state, the callback of
every `lock-door`, `unlock-door` and `get-door-info` whose send has completed and whose timer has
fired or been cleared has been called exactly once, if and only if no send of a `get-door-info`
fails after its request was answered. -/
theorem calledOnce_iff (es : List ServerEv) : AnsweredOnce U es ↔ NoneFailsLate U es := by
  constructor
  · rintro h_once pre e post rfl c h_late
    rw [← logged_server] at h_late
    have inv := logInv_logged U pre
    obtain ⟨h_calls, h_sent, h_gone⟩ := exec_of_failsLate U h_late
    -- the request was answered before, and is answered again
    obtain ⟨h_expects, h_answered⟩ := answered_of_failsLate U h_late
    have h_lt := inv.lt_of_expects h_expects
    have h_after := h_once (pre ++ [e]) ⟨post, by simp⟩ c
    rw [logged_concat] at h_after
    have h_two : (logged U pre).answers c + ((logged U pre).server.exec U e).2.countP
        (ServerOut.calls c) = 1 := by
      refine h_after ?_ ⟨h_sent, ?_⟩
      · unfold Log.Expects at h_expects ⊢
        rwa [Log.asked_step_of_ne U e h_lt.ne]
      · intro t h_armed
        obtain ⟨p, h_p, -⟩ := (inv.inv.step U e).timer c t h_armed
        rw [h_gone] at h_p
        exact absurd h_p (by simp)
    rw [h_answered, h_calls] at h_two
    exact absurd h_two (by decide)
  · intro h_none pre h_pre c h_expects h_settled
    have inv := logInv_logged U pre
    rcases counted_logged U pre h_expects with ⟨-, h_done⟩ | ⟨⟨pre', e, post, rfl, h_late⟩, -⟩
    · refine h_done (not_waiting (fun m k h => ?_) ?_)
      · rw [h_settled.sent] at h
        exact absurd h (by simp)
      · -- an entry would have its timer armed
        by_contra h_some
        obtain ⟨p, h_p⟩ := Option.ne_none_iff_exists'.mp h_some
        exact h_settled.timer _ (inv.inv.entry c p h_p)
    · obtain ⟨rest, rfl⟩ := h_pre
      exact absurd h_late (h_none pre' e (post ++ rest) (by simp) c)

end Result

/-- The timer of a `get-door-info` runs out, and then its send fails: the callback is called
twice. -/
theorem not_calledOnce :
    ¬ AnsweredOnce UpperCase.asciiLetters
      [.getDoorInfo "D1".toList, .timeout 0, .sent 1 (some "Error: send".toList)] := by
  intro h_once
  have h_answers := h_once _ (List.prefix_refl _) 1 ⟨.getDoorInfo "D1".toList, rfl, rfl⟩ ?_
  · exact absurd h_answers (by decide +kernel)
  · refine ⟨rfl, fun t h_armed => ?_⟩
    obtain ⟨p, h_p, -⟩ := (logInv_logged _ _).inv.timer 1 t h_armed
    exact absurd (show (none : Option PendingEntry) = some p from h_p) (by simp)

/-! ### What makes a success -/

/-- Success is reported for the door's own answer only: the FEEDBACK names the module of the
request, its number as it was sent, and the action that was requested. -/
def OwnAnswers (U : UpperCase) (es : List ServerEv) : Prop :=
  ∀ pre e post, es = pre ++ e :: post → ∀ c a m,
    ServerOut.callback c (.success a m) ∈ ((Server.served U pre).exec U e).2 →
      ∃ text target rest, e = .message text ∧
        words (trim text) = Server.orElse m "D1".toList :: "FEEDBACK".toList :: fmtInt c ::
          target :: a :: rest

/-- Success is reported to a request for a FEEDBACK that reads as its number, while it waits. -/
def SuccessNeedsFeedback (U : UpperCase) (es : List ServerEv) : Prop :=
  ∀ pre e post, es = pre ++ e :: post → ∀ c a m,
    ServerOut.callback c (.success a m) ∈ ((Server.served U pre).exec U e).2 →
      SuccessTo ((logged U pre).asked c) a m ∧
        ∃ text, e = .message text ∧ FeedbackFor (Server.served U pre) c text

/-- **What makes a success.** In every run, a success is reported to a `lock-door` or `unlock-door`
only by a FEEDBACK datagram with at least five words whose third word reads as the number of the
request, while the request waits; the reply names the action and the module of the request. -/
theorem success_of_feedback (U : UpperCase) (es : List ServerEv) : SuccessNeedsFeedback U es := by
  intro pre e post _ c a m h_mem
  have inv := logInv_logged U pre
  rw [← logged_server] at h_mem ⊢
  exact (caused_of_exec inv.own U h_mem).success a m rfl

/-- The lock command of D1 is reported done when D2 reports an open door under the id `1x`. -/
theorem not_ownAnswers :
    ¬ OwnAnswers UpperCase.asciiLetters
      [.lockDoor "D1".toList, .sent 1 none, .message "D2 FEEDBACK 1x D0 OPEN\n".toList] := by
  intro h_own
  obtain ⟨text, target, rest, h_e, h_words⟩ :=
    h_own [.lockDoor "D1".toList, .sent 1 none] _ [] rfl 1 "LOCK".toList "D1".toList
      (by decide +kernel)
  obtain rfl := ServerEv.message.inj h_e
  have h_first : (words (trim "D2 FEEDBACK 1x D0 OPEN\n".toList)).head? = some "D2".toList := by
    decide +kernel
  rw [h_words] at h_first
  exact absurd (show some "D1".toList = some "D2".toList from h_first) (by decide)

end Node

end DoorSystem
