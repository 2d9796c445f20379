import DoorSystem.Door.Bolt
import DoorSystem.Door.Handler
import DoorSystem.Door.Reporting
import DoorSystem.Hub.Forwarding
import DoorSystem.Hub.SendCommand
import DoorSystem.Lib.Bag

/-!
# Commands that are sent again

`hub_udp_send_command` sends its line again when no FEEDBACK comes in time, and `door_cmd_thread`
runs the handler for every COMMAND datagram that reaches it: neither side keeps a record of the
numbers that were carried out. So a command runs once for each copy that arrives, whatever was
carried out in between.

`atMostPerCopy` is what the number of attempts leaves: a call runs the handler at most once for each
copy it has sent, and it sends at most three. The copies in flight are a multiset, so they are
lost, delayed and reordered at will; what reaches the hub is not restricted at all.
-/

namespace DoorSystem

open CLib

namespace System

open Door Hub

/-! ### The parties -/

/-- A datagram to a door, with the index of the call that has sent it. What the hub forwards for its
clients belongs to no call. -/
structure Copy where
  call : Option ℕ
  dest : SockAddr
  line : CStr
deriving DecidableEq

/-- A call of `hub_udp_send_command`, and what it has sent so far. -/
structure Issued where
  args : SendCall
  phase : SendPhase
  copies : List (SockAddr × CStr)

/-- The hub, its calls, the doors at their addresses, and the datagrams on the way to them. -/
structure Exchange where
  hub : HubState
  calls : List Issued
  doors : SockAddr → DoorRun
  inFlight : Multiset Copy
  /-- The datagrams for which `app_command_handler` was called, with its arguments. -/
  handled : List (Copy × CmdWords)

/-- What happens. -/
inductive ExchangeEv
  /-- `hub_udp_send_command` is called. -/
  | call (args : SendCall)
  /-- The call `i` goes on, as in `SendEv`. -/
  | sendto (i : ℕ) (ok : Bool)
  | lock (i : ℕ)
  | wake (i : ℕ) (timedOut : Bool)
  /-- The receiver thread of the hub. -/
  | hub (e : HubEv)
  /-- The other threads of a door. -/
  | door (a : SockAddr) (e : DoorEv)
  /-- A datagram reaches the listener thread of the door at its address. -/
  | deliver (c : Copy) (env : CallEnv)
  | lose (c : Copy)

/-! ### Steps -/

/-- The route and the number of a `sendto` that succeeds. -/
def sentBy : SendPhase → SendEv → Option SendLocals
  | .sending l _, .sendto ok => if ok then some l else none
  | _, _ => none

/-- The datagrams of one event of a call. -/
def Issued.sends (c : Issued) (e : SendEv) : List (SockAddr × CStr) :=
  (sentBy c.phase e).toList.map (fun l => (l.dest, sendLine c.args l.cmdid))

/-- One event of a call. -/
def Issued.step (c : Issued) (h : HubState) (e : SendEv) : Issued :=
  { c with phase := (stepSend c.args (h, c.phase) e).2, copies := c.sends e ++ c.copies }

/-- The call `i` goes on. -/
def Exchange.act (s : Exchange) (i : ℕ) (e : SendEv) : Exchange :=
  match s.calls[i]? with
  | some c =>
    { s with
      calls := s.calls.set i (c.step s.hub e)
      inFlight := ↑((c.sends e).map (fun p => Copy.mk (some i) p.1 p.2)) + s.inFlight }
  | none => s

/-- The arguments with which a door calls `app_command_handler` for a datagram. -/
def handlerWords (line : CStr) (s : DoorModule) : Option CmdWords :=
  (commandOf (lineTokens (datagramLine line))).filter
    (fun c => decide (c.mod = s.udp.gModuleId.str) && s.udp.gCmdHandler)

/-- One event. -/
def stepExchange (s : Exchange) : ExchangeEv → Exchange
  | .call args =>
    let (hub, phase) := beginSend args s.hub
    { s with hub := hub, calls := s.calls ++ [⟨args, phase, []⟩] }
  | .sendto i ok => s.act i (.sendto ok)
  | .lock i => s.act i .lock
  | .wake i timedOut => s.act i (.wake timedOut)
  | .hub e =>
    { s with
      hub := Hub.step s.hub e
      inFlight := ↑((forwardsOf (exec s.hub e).2).map (fun p => Copy.mk none p.1 p.2)) +
        s.inFlight }
  | .door a e => { s with doors := Function.update s.doors a (execEv (s.doors a) e).1 }
  | .deliver c env =>
    if c ∈ s.inFlight then
      let d := s.doors c.dest
      { s with
        doors := Function.update s.doors c.dest
          { d with module := (doorCmdDatagram c.line env d.module).1 }
        inFlight := s.inFlight.erase c
        handled := s.handled ++ (handlerWords c.line d.module).toList.map (fun w => (c, w)) }
    else s
  | .lose c => { s with inFlight := s.inFlight.erase c }

/-- A datagram is handled by `app_command_handler` exactly when it is logged as such, and otherwise
the door stays as it is. -/
theorem doorCmdDatagram_eq (line : CStr) (env : CallEnv) (s : DoorModule) :
    (doorCmdDatagram line env s).1 = match handlerWords line s with
      | some c => (appCommandHandler c.mod c.cmdid c.target c.action env s).1
      | none => s := by
  unfold doorCmdDatagram handlerWords
  cases commandOf (lineTokens (datagramLine line)) with
  | none => rfl
  | some c =>
    dsimp only
    split_ifs with h_mod h_handler
    · rw [Option.filter_some_pos (by simp [h_mod, h_handler])]
    · rw [Option.filter_some_neg (by simp [h_handler])]
    · rw [Option.filter_some_neg (by simp [h_mod])]

/-! ### Runs -/

/-- Any doors, a hub with any past, and any events from then on. -/
structure ExchangeRun where
  url : CharBuf 512
  past : List HubEv
  doors : SockAddr → DoorRun
  events : List ExchangeEv

/-- The state after the events `es`. -/
def ExchangeRun.after (R : ExchangeRun) (es : List ExchangeEv) : Exchange :=
  run stepExchange ⟨reached R.url R.past, [], R.doors, 0, []⟩ es

/-- How many copies of its line the call `i` has sent. -/
def Exchange.copies (s : Exchange) (i : ℕ) : ℕ := (s.calls[i]?).elim 0 (fun c => c.copies.length)

/-- The arguments of the handler's runs for the call `i`. -/
def Exchange.ran (s : Exchange) (i : ℕ) : List CmdWords :=
  (s.handled.filter (fun x => decide (x.1.call = some i))).map Prod.snd

/-- **At most once**, in every state of the run. -/
def AtMostOnce (R : ExchangeRun) : Prop :=
  ∀ pre post, R.events = pre ++ post → ∀ i, ((R.after pre).ran i).length ≤ 1

/-- A datagram has reached its door: either `app_command_handler` has run and is logged, or nothing
has happened. -/
def Handles (c : Copy) (env : CallEnv) (s s' : Exchange) : Prop :=
  match handlerWords c.line (s.doors c.dest).module with
  | some w =>
    s'.handled = s.handled ++ [(c, w)] ∧
      (s'.doors c.dest).module
        = (appCommandHandler w.mod w.cmdid w.target w.action env (s.doors c.dest).module).1
  | none => s'.handled = s.handled ∧ (s'.doors c.dest).module = (s.doors c.dest).module

/-- **At most once for each copy**, in every state of the run. There are three copies at most, and
all of them run the handler with the same arguments. -/
structure AtMostPerCopy (R : ExchangeRun) : Prop where
  handles : ∀ pre c env post, R.events = pre ++ .deliver c env :: post →
    c ∈ (R.after pre).inFlight → Handles c env (R.after pre) (R.after (pre ++ [.deliver c env]))
  ran : ∀ pre post, R.events = pre ++ post → ∀ i,
    ((R.after pre).ran i).length ≤ (R.after pre).copies i
  copies : ∀ pre post, R.events = pre ++ post → ∀ i, (R.after pre).copies i ≤ ACK_RETRIES + 1
  same : ∀ pre post, R.events = pre ++ post → ∀ i, ∀ w ∈ (R.after pre).ran i,
    ∀ w' ∈ (R.after pre).ran i, w = w'

theorem deliver_handles {s : Exchange} {c : Copy} (h_c : c ∈ s.inFlight) (env : CallEnv) :
    Handles c env s (stepExchange s (.deliver c env)) := by
  have h_step : stepExchange s (.deliver c env) =
      { s with
        doors := Function.update s.doors c.dest
          { s.doors c.dest with
            module := (doorCmdDatagram c.line env (s.doors c.dest).module).1 }
        inFlight := s.inFlight.erase c
        handled := s.handled ++
          (handlerWords c.line (s.doors c.dest).module).toList.map (fun w => (c, w)) } :=
    if_pos h_c
  rw [h_step]
  unfold Handles
  dsimp only
  rw [Function.update_self, doorCmdDatagram_eq]
  -- a command for this door, or a datagram that it ignores
  cases handlerWords c.line (s.doors c.dest).module with
  | some w => exact ⟨rfl, rfl⟩
  | none => exact ⟨List.append_nil _, rfl⟩

/-! ### One call -/

/-- The attempts that a call has begun to use. -/
def spent : SendPhase → ℕ
  | .sending _ attempt => attempt
  | .locking _ attempt => attempt + 1
  | .waiting _ attempt => attempt + 1
  | .returned _ => ACK_RETRIES + 1

/-- The call is in an attempt that the loop admits. -/
def InLoop : SendPhase → Prop
  | .sending _ attempt => attempt ≤ ACK_RETRIES
  | .locking _ attempt => attempt ≤ ACK_RETRIES
  | .waiting _ attempt => attempt ≤ ACK_RETRIES
  | .returned _ => True

/-- The route and the number of a call that still runs. -/
def localsOf : SendPhase → Option SendLocals
  | .sending l _ => some l
  | .locking l _ => some l
  | .waiting l _ => some l
  | .returned _ => none

theorem spent_le {p : SendPhase} (h_p : InLoop p) : spent p ≤ ACK_RETRIES + 1 := by
  cases p with
  | sending l attempt => exact Nat.le_succ_of_le h_p
  | locking l attempt => exact Nat.succ_le_succ h_p
  | waiting l attempt => exact Nat.succ_le_succ h_p
  | returned r => exact le_rfl

/-- A call goes from the phase `p` to the phase `p'` without forgetting what it is about, and has
used up `n` attempts more. -/
structure GoesOn (p p' : SendPhase) (n : ℕ) : Prop where
  inLoop : InLoop p'
  spent : spent p + n ≤ spent p'
  locals : ∀ l, localsOf p' = some l → localsOf p = some l

theorem GoesOn.refl {p : SendPhase} (h_p : InLoop p) : GoesOn p p 0 := ⟨h_p, le_rfl, fun _ => id⟩

theorem GoesOn.nextAttempt {p : SendPhase} {l : SendLocals} {attempt n : ℕ}
    (h_l : localsOf p = some l) (h_p : System.spent p + n ≤ attempt + 1)
    (h_attempt : attempt ≤ ACK_RETRIES) : GoesOn p (nextAttempt l attempt) n := by
  unfold Hub.nextAttempt
  split_ifs with h_more
  · exact ⟨h_more, h_p, fun _ h => h_l.trans h⟩
  · exact ⟨trivial, h_p.trans (Nat.succ_le_succ h_attempt),
      fun _ h => absurd h (by simp [localsOf])⟩

theorem GoesOn.checkAck {p : SendPhase} {l : SendLocals} {attempt : ℕ}
    (h_l : localsOf p = some l) (h_p : System.spent p ≤ attempt + 1)
    (h_attempt : attempt ≤ ACK_RETRIES) (args : SendCall) (h : HubState) :
    GoesOn p (checkAck args l attempt h) 0 := by
  unfold Hub.checkAck
  split_ifs
  · exact ⟨trivial, h_p.trans (Nat.succ_le_succ h_attempt),
      fun _ h => absurd h (by simp [localsOf])⟩
  · exact .nextAttempt h_l h_p h_attempt

/-- **Step of a call.** It uses up one attempt at least for what it sends. -/
theorem stepSend_goesOn (args : SendCall) (h : HubState) {p : SendPhase} (h_p : InLoop p)
    (e : SendEv) :
    GoesOn p (stepSend args (h, p) e).2 (sentBy p e).toList.length := by
  cases e with
  | env e => cases p <;> exact .refl h_p
  | sendto ok =>
    -- a copy is counted with its send, and an attempt that fails goes to the next
    cases p with
    | sending l attempt =>
      cases ok with
      | true => exact ⟨h_p, le_rfl, fun _ => id⟩
      | false => exact .nextAttempt rfl (Nat.le_succ _) h_p
    | locking l attempt => exact .refl h_p
    | waiting l attempt => exact .refl h_p
    | returned r => exact .refl h_p
  | lock =>
    -- a wake that finds the answer returns, and else the call waits or tries again
    cases p with
    | locking l attempt =>
      show GoesOn _ (if _ then _ else _) 0
      split_ifs
      · exact ⟨h_p, le_rfl, fun _ => id⟩
      · exact .checkAck rfl le_rfl h_p args h
    | sending l attempt => exact .refl h_p
    | waiting l attempt => exact .refl h_p
    | returned r => exact .refl h_p
  | wake timedOut =>
    cases p with
    | waiting l attempt =>
      show GoesOn _ (if _ then _ else _) 0
      split_ifs
      · exact ⟨h_p, le_rfl, fun _ => id⟩
      · exact .checkAck rfl le_rfl h_p args h
    | sending l attempt => exact .refl h_p
    | locking l attempt => exact .refl h_p
    | returned r => exact .refl h_p

/-- What is sent is the line of the call, on its route. -/
theorem localsOf_of_sentBy {p : SendPhase} {e : SendEv} {l : SendLocals}
    (h : sentBy p e = some l) : localsOf p = some l := by
  unfold sentBy at h
  split at h
  · split_ifs at h
    exact h
  · exact absurd h (by simp)

/-- The copies that a call has sent: all the same, and no more than the attempts it has used. -/
structure Issued.Inv (c : Issued) : Prop where
  inLoop : InLoop c.phase
  few : c.copies.length ≤ System.spent c.phase
  same : ∃ p, (∀ q ∈ c.copies, q = p) ∧
    ∀ l, localsOf c.phase = some l → p = (l.dest, sendLine c.args l.cmdid)

/-- A call starts with no copy. -/
theorem Issued.Inv.initial (args : SendCall) (h : HubState) :
    Issued.Inv ⟨args, (beginSend args h).2, []⟩ := by
  have h_phase : InLoop (beginSend args h).2 := by
    unfold beginSend
    split
    · split_ifs
      · exact Nat.zero_le _
      · trivial
    · trivial
  refine ⟨h_phase, Nat.zero_le _, ?_⟩
  cases h_l : localsOf (beginSend args h).2 with
  | none => exact ⟨(SockAddr.zero, []), by simp, by simp⟩
  | some l =>
    refine ⟨(l.dest, sendLine args l.cmdid), by simp, fun l' h_l' => ?_⟩
    obtain rfl : l = l' := Option.some.inj h_l'
    rfl

theorem Issued.Inv.step {c : Issued} (inv : c.Inv) (h : HubState) (e : SendEv) :
    (c.step h e).Inv := by
  have h_goes := stepSend_goesOn c.args h inv.inLoop e
  refine ⟨h_goes.inLoop, ?_, ?_⟩
  · have h_len : (c.step h e).copies.length
        = c.copies.length + (sentBy c.phase e).toList.length := by
      show (c.sends e ++ c.copies).length = _
      unfold Issued.sends
      rw [List.length_append, List.length_map, Nat.add_comm]
    rw [h_len]
    exact (Nat.add_le_add_right inv.few _).trans h_goes.spent
  · obtain ⟨p, h_same, h_p⟩ := inv.same
    refine ⟨p, fun q h_q => ?_, fun l h_l => h_p l (h_goes.locals l h_l)⟩
    rcases List.mem_append.mp h_q with h_new | h_old
    · obtain ⟨l, h_l, rfl⟩ := List.mem_map.mp h_new
      exact (h_p l (localsOf_of_sentBy (Option.mem_toList.mp h_l))).symm
    · exact h_same q h_old

/-! ### The invariant -/

/-- The copies of each call are in flight, handled or gone, and they are what the call has sent. -/
structure Exchange.Inv (s : Exchange) : Prop where
  calls : ∀ c ∈ s.calls, c.Inv
  counts : ∀ i, (about Copy.call i s.inFlight).card + (s.ran i).length ≤ s.copies i
  inFlight : ∀ d ∈ s.inFlight, ∀ i, d.call = some i →
    ∃ c, s.calls[i]? = some c ∧ (d.dest, d.line) ∈ c.copies
  handled : ∀ d w, (d, w) ∈ s.handled → ∀ i, d.call = some i →
    (∃ c, s.calls[i]? = some c ∧ (d.dest, d.line) ∈ c.copies) ∧
      commandOf (lineTokens (datagramLine d.line)) = some w

/-- What only moves datagrams keeps the invariant. -/
theorem Exchange.Inv.move {s s' : Exchange} (inv : s.Inv) (h_calls : s'.calls = s.calls)
    (h_counts : ∀ i, (about Copy.call i s'.inFlight).card + (s'.ran i).length
      ≤ (about Copy.call i s.inFlight).card + (s.ran i).length)
    (h_inFlight : ∀ d ∈ s'.inFlight, ∀ i, d.call = some i → d ∈ s.inFlight)
    (h_handled : ∀ d w, (d, w) ∈ s'.handled → (d, w) ∈ s.handled ∨
      d ∈ s.inFlight ∧ commandOf (lineTokens (datagramLine d.line)) = some w) : s'.Inv where
  calls := by
    rw [h_calls]
    exact inv.calls
  counts i := by
    unfold Exchange.copies
    rw [h_calls]
    exact (h_counts i).trans (inv.counts i)
  inFlight d h_d i h_i := by
    -- what is in flight was in flight, and what is handled was one or the other
    rw [h_calls]
    exact inv.inFlight d (h_inFlight d h_d i h_i) i h_i
  handled d w h_d i h_i := by
    rw [h_calls]
    rcases h_handled d w h_d with h_old | ⟨h_flight, h_w⟩
    · exact inv.handled d w h_old i h_i
    · exact ⟨inv.inFlight d h_flight i h_i, h_w⟩

theorem Exchange.Inv.call {s : Exchange} (inv : s.Inv) (args : SendCall) :
    (stepExchange s (.call args)).Inv := by
  have h_get : ∀ (i : ℕ) (c : Issued), s.calls[i]? = some c →
      (s.calls ++ [(⟨args, (beginSend args s.hub).2, []⟩ : Issued)])[i]? = some c := by
    intro i c h_c
    rw [List.getElem?_append_left (List.getElem?_eq_some_iff.mp h_c).1]
    exact h_c
  refine ⟨fun c h_c => ?_, fun i => ?_, fun d h_d i h_i => ?_, fun d w h_d i h_i => ?_⟩
  · rcases List.mem_append.mp h_c with h_old | h_new
    · exact inv.calls c h_old
    · rw [List.mem_singleton.mp h_new]
      exact .initial args s.hub
  · -- the new call has sent nothing
    refine (inv.counts i).trans ?_
    unfold Exchange.copies
    cases h_c : s.calls[i]? with
    | none => exact Nat.zero_le _
    | some c =>
      refine le_of_eq ?_
      show _ = ((s.calls ++ [(⟨args, (beginSend args s.hub).2, []⟩ : Issued)])[i]?).elim 0 _
      rw [h_get i c h_c]
  · obtain ⟨c, h_c, h_sent⟩ := inv.inFlight d h_d i h_i
    exact ⟨c, h_get i c h_c, h_sent⟩
  · obtain ⟨⟨c, h_c, h_sent⟩, h_w⟩ := inv.handled d w h_d i h_i
    exact ⟨⟨c, h_get i c h_c, h_sent⟩, h_w⟩

/-- What the call `i` puts in flight belongs to it. -/
theorem card_about_sends (i j : ℕ) (ps : List (SockAddr × CStr)) :
    (about Copy.call j (↑(ps.map (fun p => Copy.mk (some i) p.1 p.2)) : Multiset Copy)).card
      = if i = j then ps.length else 0 := by
  split_ifs with h_j
  · subst h_j
    have h_all : about Copy.call i (↑(ps.map (fun p => Copy.mk (some i) p.1 p.2)) : Multiset Copy)
        = ↑(ps.map (fun p => Copy.mk (some i) p.1 p.2)) := by
      refine Multiset.filter_eq_self.mpr (fun d h_d => ?_)
      obtain ⟨p, -, rfl⟩ := List.mem_map.mp h_d
      rfl
    rw [h_all, Multiset.coe_card, List.length_map]
  · refine Multiset.card_eq_zero.mpr (about_eq_zero (fun d h_d h_key => ?_))
    obtain ⟨p, -, rfl⟩ := List.mem_map.mp h_d
    exact h_j (Option.some.inj h_key)

/-- And it is on the list of the call. -/
theorem Exchange.copies_act {s : Exchange} {i : ℕ} {c : Issued} (h_c : s.calls[i]? = some c)
    (e : SendEv) (j : ℕ) :
    (s.act i e).copies j = (if i = j then (c.sends e).length else 0) + s.copies j := by
  have h_lt := (List.getElem?_eq_some_iff.mp h_c).1
  unfold Exchange.copies Exchange.act
  rw [h_c]
  dsimp only
  split_ifs with h_j
  · subst h_j
    rw [List.getElem?_set_self h_lt, h_c]
    exact List.length_append
  · rw [List.getElem?_set_ne h_j, Nat.zero_add]

theorem Exchange.Inv.act {s : Exchange} (inv : s.Inv) (i : ℕ) (e : SendEv) : (s.act i e).Inv := by
  unfold Exchange.act
  cases h_c : s.calls[i]? with
  | none => exact inv
  | some c =>
    dsimp only
    have h_lt := (List.getElem?_eq_some_iff.mp h_c).1
    -- a call that has sent something still has
    have h_get : ∀ (j : ℕ) (c' : Issued) p, s.calls[j]? = some c' → p ∈ c'.copies →
        ∃ c'' : Issued, (s.calls.set i (c.step s.hub e))[j]? = some c'' ∧ p ∈ c''.copies := by
      intro j c' p h_c' h_p
      by_cases h_j : i = j
      · subst h_j
        rw [h_c] at h_c'
        obtain rfl := Option.some.inj h_c'
        exact ⟨_, List.getElem?_set_self h_lt, List.mem_append_right _ h_p⟩
      · exact ⟨c', (List.getElem?_set_ne h_j).trans h_c', h_p⟩
    refine ⟨fun c' h_c' => ?_, fun j => ?_, fun d h_d j h_j => ?_, fun d w h_d j h_j => ?_⟩
    · rcases List.mem_or_eq_of_mem_set h_c' with h_old | rfl
      · exact inv.calls c' h_old
      · exact (inv.calls c (List.mem_of_getElem? h_c)).step s.hub e
    · -- what is sent is in flight and on the list
      have h_new := Exchange.copies_act h_c e j
      unfold Exchange.act at h_new
      rw [h_c] at h_new
      rw [h_new, about_add, Multiset.card_add, card_about_sends, Nat.add_assoc]
      exact Nat.add_le_add_left (inv.counts j) _
    · rcases Multiset.mem_add.mp h_d with h_new | h_old
      · obtain ⟨p, h_p, rfl⟩ := List.mem_map.mp h_new
        obtain rfl : i = j := Option.some.inj h_j
        exact ⟨_, List.getElem?_set_self h_lt, List.mem_append_left _ h_p⟩
      · obtain ⟨c', h_c', h_sent⟩ := inv.inFlight d h_old j h_j
        exact h_get j c' _ h_c' h_sent
    · obtain ⟨⟨c', h_c', h_sent⟩, h_w⟩ := inv.handled d w h_d j h_j
      exact ⟨h_get j c' _ h_c' h_sent, h_w⟩

/-- **A datagram arrives.** Its copy is no longer in flight, and the handler has run at most once
more. -/
theorem Exchange.Inv.deliver {s : Exchange} (inv : s.Inv) (c : Copy) (env : CallEnv) :
    (stepExchange s (.deliver c env)).Inv := by
  unfold stepExchange
  dsimp only
  split_ifs with h_c
  · refine inv.move rfl (fun i => ?_) (fun d h_d i _ => Multiset.mem_of_mem_erase h_d)
      (fun d w h_d => ?_)
    · unfold Exchange.ran
      dsimp only
      rw [List.filter_append, List.map_append, List.length_append]
      -- a copy of this call leaves the flight and is handled at most once
      by_cases h_i : c.call = some i
      · have h_erase := card_about_erase h_c h_i
        have h_new : (((handlerWords c.line (s.doors c.dest).module).toList.map
            (fun w => (c, w))).filter (fun x => decide (x.1.call = some i))).length ≤ 1 := by
          refine (List.length_filter_le _ _).trans ?_
          rw [List.length_map]
          exact Option.length_toList_le
        rw [List.length_map, List.length_map]
        omega
      · have h_new : ((handlerWords c.line (s.doors c.dest).module).toList.map
            (fun w => (c, w))).filter (fun x => decide (x.1.call = some i)) = [] := by
          refine List.filter_eq_nil_iff.mpr (fun x h_x => ?_)
          obtain ⟨w, -, rfl⟩ := List.mem_map.mp h_x
          simpa using h_i
        rw [about_erase_of_ne h_i, h_new]
        exact le_rfl
    · rcases List.mem_append.mp h_d with h_old | h_new
      · exact Or.inl h_old
      · -- the words handled are those of the copy's line
        obtain ⟨w', h_w, h_eq⟩ := List.mem_map.mp h_new
        obtain ⟨rfl, rfl⟩ := Prod.mk.inj h_eq
        exact Or.inr ⟨h_c, (Option.filter_eq_some_iff.mp (Option.mem_toList.mp h_w)).1⟩
  · exact inv

/-- **Step.** -/
theorem Exchange.Inv.step {s : Exchange} (inv : s.Inv) (e : ExchangeEv) :
    (stepExchange s e).Inv := by
  cases e with
  | call args => exact inv.call args
  | sendto i ok => exact inv.act i _
  | lock i => exact inv.act i _
  | wake i timedOut => exact inv.act i _
  | hub e =>
    -- what the hub forwards belongs to no call
    have h_none : ∀ d ∈ (↑((forwardsOf (exec s.hub e).2).map (fun p => Copy.mk none p.1 p.2)) :
        Multiset Copy), ∀ i, d.call ≠ some i := by
      intro d h_d i
      obtain ⟨p, -, rfl⟩ := List.mem_map.mp h_d
      simp
    refine inv.move rfl (fun i => ?_) (fun d h_d i h_i => ?_) (fun d w h_d => Or.inl h_d)
    · show (about Copy.call i (_ + s.inFlight)).card + _ ≤ _
      rw [about_add, about_eq_zero (fun d h_d => h_none d h_d i), zero_add]
      exact le_rfl
    · rcases Multiset.mem_add.mp h_d with h_new | h_old
      · exact absurd h_i (h_none d h_new i)
      · exact h_old
  | door a e => exact inv.move rfl (fun _ => le_rfl) (fun _ h_d _ _ => h_d) (fun _ _ => Or.inl)
  | deliver c env => exact inv.deliver c env
  | lose c =>
    exact inv.move rfl (fun _ => Nat.add_le_add_right card_about_erase_le _)
      (fun _ h_d _ _ => Multiset.mem_of_mem_erase h_d) (fun _ _ => Or.inl)

/-- **Run.** -/
theorem ExchangeRun.inv (R : ExchangeRun) (es : List ExchangeEv) : (R.after es).Inv := by
  refine run_invariant Exchange.Inv (fun s e inv => inv.step e) ?_ es
  exact ⟨by simp, fun _ => le_rfl, by simp, by simp⟩

/-- **Retransmission.** Whatever is lost, delayed or reordered, a call runs the handler at most once
for each copy of its line, it sends at most three copies, and all of them say the same. -/
theorem atMostPerCopy (R : ExchangeRun) : AtMostPerCopy R where
  handles pre c env post _ h_c := by
    unfold ExchangeRun.after
    rw [run_append]
    exact deliver_handles h_c env
  ran pre post _ i := (Nat.le_add_left _ _).trans ((R.inv pre).counts i)
  copies pre post _ i := by
    unfold Exchange.copies
    cases h_c : (R.after pre).calls[i]? with
    | none => exact Nat.zero_le _
    | some c =>
      have inv := (R.inv pre).calls c (List.mem_of_getElem? h_c)
      exact inv.few.trans (spent_le inv.inLoop)
  same pre post _ i w h_w w' h_w' := by
    have h_copy : ∀ w ∈ (R.after pre).ran i, ∃ c, (R.after pre).calls[i]? = some c ∧
        ∃ p ∈ c.copies, commandOf (lineTokens (datagramLine p.2)) = some w := by
      intro w h_w
      obtain ⟨⟨d, w⟩, h_d, rfl⟩ := List.mem_map.mp h_w
      obtain ⟨h_mem, h_i⟩ := List.mem_filter.mp h_d
      obtain ⟨⟨c, h_c, h_sent⟩, h_line⟩ :=
        (R.inv pre).handled d w h_mem i (of_decide_eq_true h_i)
      exact ⟨c, h_c, _, h_sent, h_line⟩
    obtain ⟨c, h_c, p, h_p, h_line⟩ := h_copy w h_w
    obtain ⟨c', h_c', p', h_p', h_line'⟩ := h_copy w' h_w'
    obtain rfl : c = c' := Option.some.inj (h_c.symm.trans h_c')
    -- both copies are the line of the call
    obtain ⟨q, h_q, -⟩ := ((R.inv pre).calls c (List.mem_of_getElem? h_c)).same
    rw [h_q p h_p, ← h_q p' h_p', h_line'] at h_line
    exact (Option.some.inj h_line).symm

/-! ### A LOCK that acts after a newer UNLOCK -/

/-- The address of the door. -/
def doorAddr : SockAddr := ⟨2, 5000⟩

/-- A datagram of the first call. -/
def lockCopy : Copy := ⟨some 0, doorAddr, "D1 COMMAND 1 D0 LOCK\n".toList⟩

/-- The datagram of the second call. -/
def unlockCopy : Copy := ⟨some 1, doorAddr, "D1 COMMAND 2 D0 UNLOCK\n".toList⟩

/-- The call for LOCK times out and sends its line again. One copy arrives before the newer UNLOCK,
the other one after it. -/
def lateLock : ExchangeRun where
  url := CharBuf.zero _
  past := [.datagram "D1 HELLO\n".toList doorAddr 0 0]
  doors _ := ⟨(ListeningDoor.started "D1".toList).module, none⟩
  events := [.call ⟨"D1".toList, "D0".toList, "LOCK".toList⟩, .sendto 0 true, .lock 0, .wake 0 true,
    .sendto 0 true, .deliver lockCopy (closedEnv goodGpio),
    .call ⟨"D1".toList, "D0".toList, "UNLOCK".toList⟩, .sendto 1 true,
    .deliver unlockCopy (closedEnv goodGpio), .deliver lockCopy (closedEnv goodGpio)]

/-- The handler's runs, in their order, and where the bolt is in the end. -/
example : (lateLock.after lateLock.events).handled.map (fun x => x.2.action)
      = ["LOCK".toList, "UNLOCK".toList, "LOCK".toList] ∧
    ((lateLock.after lateLock.events).doors doorAddr).module.motor.getPosition = 180 := by
  decide +kernel

/-- **A command is executed at most once** fails: the same call runs the handler a second time. -/
theorem not_atMostOnce : ¬ AtMostOnce lateLock := by
  intro h_once
  have h_first := h_once lateLock.events [] (List.append_nil _).symm 0
  revert h_first
  decide +kernel

end System

end DoorSystem
