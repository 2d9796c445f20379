import DoorSystem.Http.Api
import DoorSystem.Lib.Run

/-!
# The server of the HTTP API

`server_loop` with `http_api_start` and `http_api_stop` around it: the listening socket with the
connections that wait in it, the one thread that serves them, and `main` in `pthread_join`. The
calls of `main` come one after another. A client sends when it likes, and `recv` waits for it
without a time-out.

`server_contract` is what holds in every run: connections are accepted in the order of their
arrival, and each is closed, one after the other, before the next is accepted; no second thread is
started. A client that is silent holds up everybody behind it, and `http_api_stop` as well; without
one the thread returns within three steps of a stop. And an error of `accept` ends the loop while
`server_running` stays set: no connection is served any more, and the API cannot be started again
before it is stopped.
-/

namespace DoorSystem

open CLib

namespace Http

open Hub

/-! ### The server -/

/-- How far `http_api_start` comes. -/
inductive StartResult
  | noSocket
  | badAddress
  | notBound
  | notListening
  | noThread
  | started

/-- What `accept` finds. -/
inductive AcceptResult
  /-- A connection, as soon as there is one. -/
  | ready
  /-- `EINTR`. -/
  | interrupted
  | failed

/-- Where the thread of `server_loop` is. -/
inductive ServerPc
  | top
  | accepting
  /-- In `recv` of `handle_client`. -/
  | receiving (c : ℕ)
  | answering (c : ℕ) (act : ClientAct)
  | returned

/-- The static variables of the API, with what the kernel has of the socket. -/
structure ApiServer where
  api : HttpApi
  serverRunning : Bool
  /-- `server_sock` is a socket, and it listens. -/
  listening : Bool
  /-- The connections that wait to be accepted. -/
  backlog : List ℕ
  /-- The number of connections so far; they are numbered in the order of their arrival. -/
  connections : ℕ
  /-- What a client has sent, once it has sent something or hung up. -/
  sent : ℕ → Option (List Char)
  thread : Option ServerPc
  /-- `main` waits in `http_api_stop`. -/
  joining : Bool

/-- What happens. -/
inductive ServerEv
  | start (r : StartResult) (localModuleId : Option CStr)
  | stop
  | joined
  | connect
  | sends (c : ℕ) (data : List Char)
  /-- The thread takes a step, with the hub as it is then. -/
  | thread (r : AcceptResult) (hub : HubState)

/-- What is done. -/
inductive ServerOut
  | startReturned (ok : Bool)
  | stopReturned
  | connected (c : ℕ)
  | accepted (c : ℕ)
  /-- `handle_client` has answered and closed the connection. -/
  | answered (c : ℕ) (act : ClientAct)
  /-- The socket is closed with this connection waiting in it. -/
  | reset (c : ℕ)

/-- `http_api_start`. -/
def ApiServer.start (r : StartResult) (localModuleId : Option CStr) (s : ApiServer) :
    ApiServer × List ServerOut :=
  if s.serverRunning then (s, [.startReturned false])
  else
    let s := { s with api := { s.api with
      gModuleId := httpApiStart localModuleId s.api.gModuleId } }
    match r with
    | .started =>
      ({ s with serverRunning := true, listening := true, thread := some .top },
        [.startReturned true])
    -- the socket is closed again
    | _ => (s, [.startReturned false])

/-- `http_api_stop`, up to its `pthread_join`. -/
def ApiServer.stop (s : ApiServer) : ApiServer × List ServerOut :=
  if s.serverRunning then
    -- the kernel resets the connections that wait in the socket
    ({ s with serverRunning := false, listening := false, backlog := [], joining := true },
      s.backlog.map .reset)
  else (s, [.stopReturned])

/-- `server_loop`, and `handle_client` in it. -/
def ApiServer.threadStep (r : AcceptResult) (hub : HubState) (s : ApiServer) :
    ApiServer × List ServerOut :=
  match s.thread with
  | none => (s, [])
  | some .top =>
    ({ s with thread := some (if s.serverRunning then .accepting else .returned) }, [])
  | some .accepting =>
    match r with
    | .interrupted => ({ s with thread := some .top }, [])
    | .failed => ({ s with thread := some .returned }, [])
    | .ready =>
      -- the socket is shut down
      if !s.listening then ({ s with thread := some .returned }, [])
      else
        match s.backlog with
        -- `accept` goes on waiting
        | [] => (s, [])
        | c :: rest => ({ s with thread := some (.receiving c), backlog := rest }, [.accepted c])
  | some (.receiving c) =>
    match s.sent c with
    -- `recv` has no time-out
    | none => (s, [])
    | some data => ({ s with thread := some (.answering c (handleClient s.api data hub)) }, [])
  | some (.answering c act) => ({ s with thread := some .top }, [.answered c act])
  | some .returned => (s, [])

/-- One step. -/
def execServer (s : ApiServer) : ServerEv → ApiServer × List ServerOut
  | .start r localModuleId => if s.joining then (s, []) else s.start r localModuleId
  | .stop => if s.joining then (s, []) else s.stop
  | .joined =>
    match s.joining, s.thread with
    | true, some .returned => ({ s with joining := false, thread := none }, [.stopReturned])
    | _, _ => (s, [])
  | .connect =>
    if s.listening then
      ({ s with backlog := s.backlog ++ [s.connections], connections := s.connections + 1 },
        [.connected s.connections])
    else (s, [])
  | .sends c data =>
    ({ s with sent := Function.update s.sent c (some ((s.sent c).getD [] ++ data)) }, [])
  | .thread r hub => s.threadStep r hub

/-- The program before the first start. -/
def ApiServer.initial (expectedToken : Option CStr) : ApiServer where
  api := ⟨CharBuf.zero 32, expectedToken⟩
  serverRunning := false
  listening := false
  backlog := []
  connections := 0
  sent _ := none
  thread := none
  joining := false

def served (expectedToken : Option CStr) (es : List ServerEv) : ApiServer × List ServerOut :=
  run (logged execServer) (ApiServer.initial expectedToken, []) es

/-! ### What the log says -/

def ServerOut.connected? : ServerOut → Option ℕ
  | .connected c => some c
  | _ => none

/-- The connection leaves the backlog. -/
def ServerOut.left? : ServerOut → Option ℕ
  | .accepted c | .reset c => some c
  | _ => none

def ServerOut.accepted? : ServerOut → Option ℕ
  | .accepted c => some c
  | _ => none

def ServerOut.answered? : ServerOut → Option ℕ
  | .answered c _ => some c
  | _ => none

/-- The connection that is served. -/
def ServerPc.current : ServerPc → List ℕ
  | .receiving c | .answering c _ => [c]
  | _ => []

def ApiServer.current (s : ApiServer) : List ℕ := (s.thread.map ServerPc.current).getD []

/-- What holds in every run. -/
structure ServerInv (r : ApiServer × List ServerOut) : Prop where
  /-- Connections leave the backlog in the order of their arrival. -/
  order : r.2.filterMap ServerOut.connected? = r.2.filterMap ServerOut.left? ++ r.1.backlog
  numbers : r.2.filterMap ServerOut.connected? = List.range r.1.connections
  /-- One connection is served at a time. -/
  closed : r.2.filterMap ServerOut.accepted? =
    r.2.filterMap ServerOut.answered? ++ r.1.current
  listening : r.1.listening = r.1.serverRunning
  waiting : r.1.listening = false → r.1.backlog = []
  /-- There is a thread while the API runs and until it is joined, and at no other time. -/
  thread : r.1.thread.isSome = (r.1.serverRunning || r.1.joining)
  joining : r.1.joining = true → r.1.serverRunning = false

theorem ServerInv.initial (expectedToken : Option CStr) :
    ServerInv (ApiServer.initial expectedToken, []) := by
  refine ⟨rfl, rfl, rfl, rfl, fun _ => rfl, rfl, fun h => ?_⟩
  exact absurd h (by simp [ApiServer.initial])

/-- Results of calls are not about connections. -/
def ServerOut.IsResult : ServerOut → Prop
  | .startReturned _ | .stopReturned => True
  | _ => False

theorem filterMap_results {outs : List ServerOut} (h_outs : ∀ o ∈ outs, o.IsResult)
    {f : ServerOut → Option ℕ} (h_f : ∀ o, o.IsResult → f o = none) : outs.filterMap f = [] :=
  List.filterMap_eq_nil_iff.mpr (fun o h_o => h_f o (h_outs o h_o))

theorem filterMap_concat_none {f : ServerOut → Option ℕ} {o : ServerOut} (h_o : f o = none)
    (log : List ServerOut) : (log ++ [o]).filterMap f = log.filterMap f := by
  rw [List.filterMap_append, List.filterMap_cons_none h_o, List.filterMap_nil, List.append_nil]

theorem filterMap_concat_some {f : ServerOut → Option ℕ} {o : ServerOut} {c : ℕ}
    (h_o : f o = some c) (log : List ServerOut) :
    (log ++ [o]).filterMap f = log.filterMap f ++ [c] := by
  rw [List.filterMap_append, List.filterMap_cons_some h_o, List.filterMap_nil]

/-- **Step that moves no connection.** -/
theorem ServerInv.results {s s' : ApiServer} {log outs : List ServerOut} (h : ServerInv (s, log))
    (h_outs : ∀ o ∈ outs, o.IsResult) (h_backlog : s'.backlog = s.backlog)
    (h_connections : s'.connections = s.connections) (h_current : s'.current = s.current)
    (h_listening : s'.listening = s'.serverRunning)
    (h_waiting : s'.listening = false → s.backlog = [])
    (h_thread : s'.thread.isSome = (s'.serverRunning || s'.joining))
    (h_joining : s'.joining = true → s'.serverRunning = false) :
    ServerInv (s', log ++ outs) := by
  -- results are no part of the four histories
  have h_none : ∀ f : ServerOut → Option ℕ, (∀ o, o.IsResult → f o = none) →
      (log ++ outs).filterMap f = log.filterMap f := by
    intro f h_f
    rw [List.filterMap_append, filterMap_results h_outs h_f, List.append_nil]
  have h_connected := h_none ServerOut.connected? (fun o h_o => by cases o <;> trivial)
  have h_left := h_none ServerOut.left? (fun o h_o => by cases o <;> trivial)
  have h_accepted := h_none ServerOut.accepted? (fun o h_o => by cases o <;> trivial)
  have h_answered := h_none ServerOut.answered? (fun o h_o => by cases o <;> trivial)
  refine ⟨?_, ?_, ?_, h_listening, ?_, h_thread, h_joining⟩
  · rw [h_connected, h_left, h_backlog]
    exact h.order
  · rw [h_connected, h_connections]
    exact h.numbers
  · rw [h_accepted, h_answered, h_current]
    exact h.closed
  · exact fun h_not => h_backlog.trans (h_waiting h_not)

theorem ServerInv.same {s : ApiServer} {log : List ServerOut} (h : ServerInv (s, log)) :
    ServerInv (s, log ++ []) := by
  rw [List.append_nil]
  exact h

/-- **Step of `http_api_start`.** -/
theorem ServerInv.start {s : ApiServer} {log : List ServerOut} (h : ServerInv (s, log))
    (h_joining : s.joining = false) (r : StartResult) (localModuleId : Option CStr) :
    ServerInv ((s.start r localModuleId).1, log ++ (s.start r localModuleId).2) := by
  have h_result : ∀ ok : Bool, ∀ o ∈ [ServerOut.startReturned ok], o.IsResult := by
    intro ok o h_o
    rw [List.mem_singleton.mp h_o]
    trivial
  unfold ApiServer.start
  by_cases h_running : s.serverRunning = true
  · rw [if_pos h_running]
    exact h.results (h_result false) rfl rfl rfl h.listening h.waiting h.thread h.joining
  · rw [if_neg h_running]
    rw [Bool.not_eq_true] at h_running
    -- no thread is left from an earlier start, so there is no second one
    have h_none : s.thread = none := by
      have h_some := h.thread
      dsimp only at h_some
      rw [h_running, h_joining] at h_some
      exact Option.isSome_eq_false_iff.mp h_some |> Option.isNone_iff_eq_none.mp
    cases r with
    | started =>
      refine h.results (h_result true) rfl rfl ?_ rfl ?_ rfl ?_
      · unfold ApiServer.current
        rw [h_none]
        rfl
      · exact fun h_not => absurd h_not (by simp)
      · exact fun h_join => absurd (h_joining.symm.trans h_join) (by simp)
    | _ => exact h.results (h_result false) rfl rfl rfl h.listening h.waiting h.thread h.joining

/-- **Step of `http_api_stop`**: the socket is closed with what waits in it. -/
theorem ServerInv.stop {s : ApiServer} {log : List ServerOut} (h : ServerInv (s, log)) :
    ServerInv (s.stop.1, log ++ s.stop.2) := by
  unfold ApiServer.stop
  by_cases h_running : s.serverRunning = true
  · rw [if_pos h_running]
    -- the backlog is reset, which is no connect, accept or answer
    have h_resets : ∀ f : ServerOut → Option ℕ, (∀ c, f (.reset c) = none) →
        (log ++ s.backlog.map ServerOut.reset).filterMap f = log.filterMap f := by
      intro f h_f
      have h_none : (s.backlog.map ServerOut.reset).filterMap f = [] := by
        rw [List.filterMap_map]
        exact List.filterMap_eq_nil_iff.mpr (fun c _ => h_f c)
      rw [List.filterMap_append, h_none, List.append_nil]
    have h_left : (log ++ s.backlog.map ServerOut.reset).filterMap ServerOut.left? =
        log.filterMap ServerOut.left? ++ s.backlog := by
      rw [List.filterMap_append, List.filterMap_map]
      exact congrArg _ List.filterMap_some
    refine ⟨?_, ?_, ?_, rfl, fun _ => rfl, ?_, fun _ => rfl⟩
    · -- what was waiting has left
      rw [h_resets ServerOut.connected? (fun _ => rfl), h_left, List.append_nil]
      exact h.order
    · rw [h_resets ServerOut.connected? (fun _ => rfl)]
      exact h.numbers
    · rw [h_resets ServerOut.accepted? (fun _ => rfl), h_resets ServerOut.answered? (fun _ => rfl)]
      exact h.closed
    · have h_some := h.thread
      dsimp only at h_some ⊢
      rw [h_some, h_running]
      rfl
  · -- not running: only the result of the call
    rw [if_neg h_running]
    refine h.results (fun o h_o => ?_) rfl rfl rfl h.listening h.waiting h.thread h.joining
    rw [List.mem_singleton.mp h_o]
    trivial

/-- **Step of the thread.** -/
theorem ServerInv.threadStep {s : ApiServer} {log : List ServerOut} (h : ServerInv (s, log))
    (r : AcceptResult) (hub : HubState) :
    ServerInv ((s.threadStep r hub).1, log ++ (s.threadStep r hub).2) := by
  have h_nil : ∀ o ∈ ([] : List ServerOut), o.IsResult := fun o h_o => absurd h_o List.not_mem_nil
  -- the thread goes on with the connection it has
  have h_moves : ∀ {pc pc' : ServerPc}, s.thread = some pc → pc'.current = pc.current →
      ServerInv ({ s with thread := some pc' }, log ++ []) := by
    intro pc pc' h_pc h_same
    refine h.results h_nil rfl rfl ?_ h.listening h.waiting ?_ h.joining
    · unfold ApiServer.current
      rw [h_pc]
      exact h_same
    · have h_some := h.thread
      dsimp only at h_some ⊢
      rw [← h_some, h_pc]
      rfl
  unfold ApiServer.threadStep
  cases h_thread : s.thread with
  | none => exact h.same
  | some pc =>
    have h_closed := h.closed
    have h_some := h.thread
    unfold ApiServer.current at h_closed
    dsimp only at h_closed h_some
    rw [h_thread] at h_closed h_some
    cases pc with
    | top =>
      dsimp only
      refine h_moves h_thread ?_
      split <;> rfl
    | accepting =>
      dsimp only
      cases r with
      | interrupted => exact h_moves h_thread rfl
      | failed => exact h_moves h_thread rfl
      | ready =>
        dsimp only
        by_cases h_listening : s.listening = true
        · rw [if_neg (by simp [h_listening])]
          have h_order := h.order
          dsimp only at h_order
          cases h_backlog : s.backlog with
          | nil =>
            dsimp only
            exact h.same
          | cons c rest =>
            rw [h_backlog] at h_order
            refine ⟨?_, ?_, ?_, h.listening, ?_, h_some, h.joining⟩
            · rw [filterMap_concat_none rfl, filterMap_concat_some rfl, List.append_assoc]
              exact h_order
            · rw [filterMap_concat_none rfl]
              exact h.numbers
            · rw [filterMap_concat_some rfl, filterMap_concat_none rfl, h_closed]
              exact congrArg (· ++ [c]) (List.append_nil _)
            · exact fun h_not => absurd (h_listening.symm.trans h_not) (by simp)
        · rw [if_pos (by simp [h_listening])]
          exact h_moves h_thread rfl
    | receiving c =>
      dsimp only
      cases s.sent c with
      | none => exact h.same
      | some data => exact h_moves h_thread rfl
    | answering c act =>
      refine ⟨?_, ?_, ?_, h.listening, h.waiting, h_some, h.joining⟩
      · rw [filterMap_concat_none rfl, filterMap_concat_none rfl]
        exact h.order
      · rw [filterMap_concat_none rfl]
        exact h.numbers
      · rw [filterMap_concat_none rfl, filterMap_concat_some rfl, h_closed]
        exact (List.append_nil _).symm
    | returned => exact h.same

/-- **Step.** -/
theorem ServerInv.step {r : ApiServer × List ServerOut} (h : ServerInv r) (e : ServerEv) :
    ServerInv (logged execServer r e) := by
  obtain ⟨s, log⟩ := r
  have h_nil : ∀ o ∈ ([] : List ServerOut), o.IsResult := fun o h_o => absurd h_o List.not_mem_nil
  unfold logged execServer
  cases e with
  | start r localModuleId =>
    dsimp only
    by_cases h_joining : s.joining = true
    · -- nothing is called while a stop waits for the thread
      rw [if_pos h_joining]
      exact h.same
    · rw [if_neg h_joining]
      exact h.start (Bool.eq_false_iff.mpr h_joining) r localModuleId
  | stop =>
    dsimp only
    by_cases h_joining : s.joining = true
    · -- nor is a second stop
      rw [if_pos h_joining]
      exact h.same
    · rw [if_neg h_joining]
      exact h.stop
  | joined =>
    dsimp only
    split
    · -- the thread has returned
      next h_joining h_thread =>
      refine h.results (fun o h_o => ?_) rfl rfl ?_ h.listening h.waiting ?_ ?_
      · rw [List.mem_singleton.mp h_o]
        trivial
      · unfold ApiServer.current
        rw [h_thread]
        rfl
      · show false = (s.serverRunning || false)
        rw [h.joining h_joining]
        rfl
      · exact fun h_join => absurd h_join (by simp)
    · exact h.same
  | connect =>
    dsimp only
    by_cases h_listening : s.listening = true
    · -- the connection queues up behind the others
      rw [if_pos h_listening]
      refine ⟨?_, ?_, ?_, h.listening, ?_, h.thread, h.joining⟩
      · rw [filterMap_concat_some rfl, filterMap_concat_none rfl, h.order, List.append_assoc]
      · rw [filterMap_concat_some rfl, h.numbers, List.range_succ]
      · rw [filterMap_concat_none rfl, filterMap_concat_none rfl]
        exact h.closed
      · exact fun h_not => absurd (h_listening.symm.trans h_not) (by simp)
    · -- nobody listens: it is refused
      rw [if_neg h_listening]
      exact h.same
  | sends c data => exact h.results h_nil rfl rfl rfl h.listening h.waiting h.thread h.joining
  | thread r hub => exact h.threadStep r hub

theorem ServerInv.served (expectedToken : Option CStr) (es : List ServerEv) :
    ServerInv (served expectedToken es) :=
  run_invariant ServerInv (fun _ e h => h.step e) (ServerInv.initial expectedToken) es

/-! ### Held up -/

/-- Nobody is served, and no call is successful. -/
def ServerOut.HoldsUp : ServerOut → Prop
  | .startReturned ok => ok = false
  | .connected _ | .reset _ => True
  | .accepted _ | .answered _ _ | .stopReturned => False

/-- What is done after `log` is nothing but this. -/
def HeldUp (log : List ServerOut) (r : ApiServer × List ServerOut) : Prop :=
  ∃ new, r.2 = log ++ new ∧ ∀ o ∈ new, o.HoldsUp

theorem HeldUp.refl (s : ApiServer) (log : List ServerOut) : HeldUp log (s, log) :=
  ⟨[], (List.append_nil log).symm, fun _ h_o => absurd h_o List.not_mem_nil⟩

theorem HeldUp.logged {log : List ServerOut} {r : ApiServer × List ServerOut}
    (h : HeldUp log r) {e : ServerEv} (h_outs : ∀ o ∈ (execServer r.1 e).2, o.HoldsUp) :
    HeldUp log (logged execServer r e) := by
  obtain ⟨new, h_new, h_held⟩ := h
  refine ⟨new ++ (execServer r.1 e).2, ?_, fun o h_o => ?_⟩
  · rw [← List.append_assoc, ← h_new]
    rfl
  · exact (List.mem_append.mp h_o).elim (h_held o) (h_outs o)

/-- A client that is being served and has sent nothing. -/
structure Silent (c : ℕ) (s : ApiServer) : Prop where
  thread : s.thread = some (.receiving c)
  sent : s.sent c = none
  busy : (s.serverRunning || s.joining) = true

/-- **Step**: nothing gets past a silent client. -/
theorem Silent.step {c : ℕ} {s : ApiServer} (h : Silent c s) {e : ServerEv}
    (h_e : ∀ data, e ≠ .sends c data) :
    Silent c (execServer s e).1 ∧ ∀ o ∈ (execServer s e).2, o.HoldsUp := by
  have h_nil : ∀ o ∈ ([] : List ServerOut), o.HoldsUp := fun o h_o => absurd h_o List.not_mem_nil
  have h_busy := h.busy
  cases e with
  | start r localModuleId =>
    unfold execServer ApiServer.start
    dsimp only
    by_cases h_joining : s.joining = true
    · rw [if_pos h_joining]
      exact ⟨h, h_nil⟩
    · -- `main` does not wait, so the API runs and does not start again
      rw [if_neg h_joining, if_pos (by simpa [h_joining] using h_busy)]
      refine ⟨h, fun o h_o => ?_⟩
      rw [List.mem_singleton.mp h_o]
      rfl
  | stop =>
    unfold execServer ApiServer.stop
    dsimp only
    by_cases h_joining : s.joining = true
    · rw [if_pos h_joining]
      exact ⟨h, h_nil⟩
    · rw [if_neg h_joining, if_pos (by simpa [h_joining] using h_busy)]
      refine ⟨⟨h.thread, h.sent, rfl⟩, fun o h_o => ?_⟩
      obtain ⟨c', -, rfl⟩ := List.mem_map.mp h_o
      trivial
  | joined =>
    -- the thread has not returned
    unfold execServer
    dsimp only
    rw [h.thread]
    cases s.joining <;> exact ⟨h, h_nil⟩
  | connect =>
    unfold execServer
    dsimp only
    split
    · refine ⟨⟨h.thread, h.sent, h.busy⟩, fun o h_o => ?_⟩
      rw [List.mem_singleton.mp h_o]
      trivial
    · exact ⟨h, h_nil⟩
  | sends c' data =>
    have h_ne : c ≠ c' := by
      rintro rfl
      exact h_e data rfl
    refine ⟨⟨h.thread, ?_, h.busy⟩, h_nil⟩
    show Function.update s.sent c' _ c = none
    rw [Function.update_of_ne h_ne]
    exact h.sent
  | thread r hub =>
    -- the thread stays in `recv`
    have h_same : s.threadStep r hub = (s, []) := by
      unfold ApiServer.threadStep
      rw [h.thread]
      dsimp only
      rw [h.sent]
    show Silent c (s.threadStep r hub).1 ∧ ∀ o ∈ (s.threadStep r hub).2, o.HoldsUp
    rw [h_same]
    exact ⟨h, h_nil⟩

/-- The loop has ended, and `server_running` is still set. -/
structure Dead (s : ApiServer) : Prop where
  thread : s.thread = some .returned
  running : s.serverRunning = true
  joining : s.joining = false

/-- **Step**: nothing but a stop changes this. -/
theorem Dead.step {s : ApiServer} (h : Dead s) {e : ServerEv} (h_e : e ≠ .stop) :
    Dead (execServer s e).1 ∧ ∀ o ∈ (execServer s e).2, o.HoldsUp := by
  have h_nil : ∀ o ∈ ([] : List ServerOut), o.HoldsUp := fun o h_o => absurd h_o List.not_mem_nil
  cases e with
  | start r localModuleId =>
    -- the server counts as running, so it is not started again
    unfold execServer ApiServer.start
    dsimp only
    rw [if_neg (by simp [h.joining]), if_pos h.running]
    refine ⟨h, fun o h_o => ?_⟩
    rw [List.mem_singleton.mp h_o]
    rfl
  | stop => exact absurd rfl h_e
  | joined =>
    unfold execServer
    dsimp only
    rw [h.joining]
    exact ⟨h, h_nil⟩
  | connect =>
    -- connections are taken in, and nobody serves them
    unfold execServer
    dsimp only
    split
    · refine ⟨⟨h.thread, h.running, h.joining⟩, fun o h_o => ?_⟩
      rw [List.mem_singleton.mp h_o]
      trivial
    · exact ⟨h, h_nil⟩
  | sends c data => exact ⟨⟨h.thread, h.running, h.joining⟩, h_nil⟩
  | thread r hub =>
    have h_same : s.threadStep r hub = (s, []) := by
      unfold ApiServer.threadStep
      rw [h.thread]
    show Dead (s.threadStep r hub).1 ∧ ∀ o ∈ (s.threadStep r hub).2, o.HoldsUp
    rw [h_same]
    exact ⟨h, h_nil⟩

/-- **Rule**: what every step keeps, with nobody served, a run keeps. -/
theorem heldUp_run {P : ApiServer → Prop} {C : ServerEv → Prop}
    (h_step : ∀ s e, P s → C e →
      P (execServer s e).1 ∧ ∀ o ∈ (execServer s e).2, o.HoldsUp)
    {s : ApiServer} (h : P s) (log : List ServerOut) {es : List ServerEv} (h_es : ∀ e ∈ es, C e) :
    P (run (logged execServer) (s, log) es).1 ∧
      HeldUp log (run (logged execServer) (s, log) es) := by
  refine run_invariant_of_forall
    (fun r : ApiServer × List ServerOut => P r.1 ∧ HeldUp log r) ?_ ⟨h, .refl s log⟩ h_es
  rintro r e h_e ⟨h_p, h_held⟩
  obtain ⟨h_next, h_outs⟩ := h_step r.1 e h_p h_e
  exact ⟨h_next, h_held.logged h_outs⟩

/-! ### The way out -/

def ServerEv.isThread : ServerEv → Bool
  | .thread _ _ => true
  | _ => false

def ServerEv.isStart : ServerEv → Bool
  | .start _ _ => true
  | _ => false

/-- The steps that are left to the thread after a stop. -/
def ApiServer.stepsLeft (s : ApiServer) : ℕ :=
  match s.thread with
  | none | some .returned => 0
  | some .top => 1
  | some .accepting | some (.answering _ _) => 2
  | some (.receiving _) => 3

/-- The API is stopped, and nobody who is served is silent. -/
structure Stopping (s : ApiServer) : Prop where
  running : s.serverRunning = false
  listening : s.listening = false
  spoken : ∀ c, s.thread = some (.receiving c) → s.sent c ≠ none

/-- **Step towards the end.** -/
theorem Stopping.step {s : ApiServer} (h : Stopping s) {e : ServerEv} (h_e : e.isStart = false) :
    Stopping (execServer s e).1 ∧
      (execServer s e).1.stepsLeft ≤ s.stepsLeft - [e].countP ServerEv.isThread := by
  cases e with
  | start r localModuleId => exact absurd h_e (by simp [ServerEv.isStart])
  | stop =>
    have h_same : (execServer s .stop).1 = s := by
      unfold execServer ApiServer.stop
      dsimp only
      rw [if_neg (show ¬ s.serverRunning = true by simp [h.running])]
      split <;> rfl
    rw [h_same]
    exact ⟨h, le_rfl⟩
  | joined =>
    unfold execServer
    dsimp only
    split
    · refine ⟨⟨h.running, h.listening, fun c h_c => absurd h_c (by simp)⟩, ?_⟩
      exact Nat.zero_le _
    · exact ⟨h, le_rfl⟩
  | connect =>
    have h_same : (execServer s .connect).1 = s := by
      unfold execServer
      dsimp only
      rw [if_neg (by simp [h.listening])]
    rw [h_same]
    exact ⟨h, le_rfl⟩
  | sends c data =>
    refine ⟨⟨h.running, h.listening, fun c' h_c' => ?_⟩, le_rfl⟩
    show Function.update s.sent c _ c' ≠ none
    by_cases h_same : c' = c
    · rw [h_same, Function.update_self]
      exact Option.some_ne_none _
    · rw [Function.update_of_ne h_same]
      exact h.spoken c' h_c'
  | thread r hub =>
    have h_one : [ServerEv.thread r hub].countP ServerEv.isThread = 1 := rfl
    -- the thread is at `pc` next
    have h_moves : ∀ pc : ServerPc, (∀ c, pc ≠ .receiving c) →
        Stopping { s with thread := some pc } :=
      fun pc h_pc => ⟨h.running, h.listening, fun c h_c => absurd (Option.some.inj h_c) (h_pc c)⟩
    rw [h_one]
    show Stopping (s.threadStep r hub).1 ∧ (s.threadStep r hub).1.stepsLeft ≤ s.stepsLeft - 1
    unfold ApiServer.threadStep ApiServer.stepsLeft
    cases h_thread : s.thread with
    | none =>
      dsimp only
      rw [h_thread]
      exact ⟨h, le_rfl⟩
    | some pc =>
      cases pc with
      | top =>
        dsimp only
        rw [if_neg (by simp [h.running])]
        exact ⟨h_moves .returned (by simp), le_rfl⟩
      | accepting =>
        cases r with
        | interrupted => exact ⟨h_moves .top (by simp), le_rfl⟩
        | failed => exact ⟨h_moves .returned (by simp), Nat.zero_le _⟩
        | ready =>
          dsimp only
          rw [if_pos (by simp [h.listening])]
          exact ⟨h_moves .returned (by simp), Nat.zero_le _⟩
      | receiving c =>
        obtain ⟨data, h_data⟩ := Option.ne_none_iff_exists'.mp (h.spoken c h_thread)
        dsimp only
        rw [h_data]
        exact ⟨h_moves (.answering c _) (by simp), le_rfl⟩
      | answering c act => exact ⟨h_moves .top (by simp), le_rfl⟩
      | returned =>
        dsimp only
        rw [h_thread]
        exact ⟨h, le_rfl⟩

/-- **The thread returns** within three steps of a stop. -/
theorem Stopping.run {r : ApiServer × List ServerOut} (h : Stopping r.1) {es : List ServerEv}
    (h_es : ∀ e ∈ es, e.isStart = false) :
    (run (logged execServer) r es).1.stepsLeft ≤
      r.1.stepsLeft - es.countP ServerEv.isThread := by
  induction es generalizing r with
  | nil => exact le_rfl
  | cons e es ih =>
    obtain ⟨h_next, h_left⟩ := h.step (h_es e List.mem_cons_self)
    have h_rest := ih (r := logged execServer r e) h_next
      (fun e' h_e' => h_es e' (List.mem_cons_of_mem e h_e'))
    have h_count : ([e] ++ es).countP ServerEv.isThread =
        [e].countP ServerEv.isThread + es.countP ServerEv.isThread := List.countP_append
    rw [List.singleton_append] at h_count
    rw [run_cons, h_count]
    unfold logged at h_rest ⊢
    dsimp only at h_rest
    omega

theorem ApiServer.stepsLeft_le (s : ApiServer) : s.stepsLeft ≤ 3 := by
  unfold ApiServer.stepsLeft
  split <;> decide

theorem ApiServer.stepsLeft_eq_zero {s : ApiServer} (h : s.stepsLeft = 0) :
    s.thread = none ∨ s.thread = some .returned := by
  unfold ApiServer.stepsLeft at h
  split at h
  · next h_thread => exact .inl h_thread
  · next h_thread => exact .inr h_thread
  all_goals exact absurd h (by decide)

/-! ### The contract -/

/-- What holds of the server after the events `es`, and of what follows. -/
structure ServerContract (expectedToken : Option CStr) (es : List ServerEv) : Prop where
  inv : ServerInv (served expectedToken es)
  /-- A client that is served and sends nothing holds up everybody behind it, and
  `http_api_stop`. -/
  silent : ∀ c, (served expectedToken es).1.thread = some (.receiving c) →
    (served expectedToken es).1.sent c = none →
    ∀ es', (∀ e ∈ es', ∀ data, e ≠ .sends c data) →
      (served expectedToken (es ++ es')).1.thread = some (.receiving c) ∧
        HeldUp (served expectedToken es).2 (served expectedToken (es ++ es'))
  /-- After a failure of `accept` nothing but a stop helps. -/
  dead : (served expectedToken es).1.thread = some .returned →
    (served expectedToken es).1.serverRunning = true →
    ∀ es', .stop ∉ es' → HeldUp (served expectedToken es).2 (served expectedToken (es ++ es'))
  /-- After a stop the thread returns, where nobody who is served is silent. -/
  stops : (served expectedToken es).1.serverRunning = false →
    (∀ c, (served expectedToken es).1.thread = some (.receiving c) →
      (served expectedToken es).1.sent c ≠ none) →
    ∀ es', (∀ e ∈ es', e.isStart = false) → 3 ≤ es'.countP ServerEv.isThread →
      (served expectedToken (es ++ es')).1.thread = none ∨
        (served expectedToken (es ++ es')).1.thread = some .returned

/-- **The server of the HTTP API**, in every run. -/
theorem server_contract (expectedToken : Option CStr) (es : List ServerEv) :
    ServerContract expectedToken es := by
  have h_inv := ServerInv.served expectedToken es
  have h_more : ∀ es', served expectedToken (es ++ es') =
      run (logged execServer) (served expectedToken es) es' :=
    fun es' => run_append _ _ _ _
  refine ⟨h_inv, ?_, ?_, ?_⟩
  · -- there is a thread, so the API runs or is being joined
    intro c h_thread h_sent es' h_es'
    have h_busy := h_inv.thread
    rw [h_thread] at h_busy
    have h_held := heldUp_run (P := Silent c) (C := fun e => ∀ data, e ≠ .sends c data)
      (fun _ _ h h_e => h.step h_e) ⟨h_thread, h_sent, h_busy.symm⟩ (served expectedToken es).2
      h_es'
    rw [h_more]
    exact ⟨h_held.1.thread, h_held.2⟩
  · intro h_thread h_running es' h_es'
    have h_joining : (served expectedToken es).1.joining = false := by
      by_contra h_join
      have h_not := h_inv.joining (Bool.eq_true_of_not_eq_false h_join)
      exact absurd (h_running.symm.trans h_not) (by simp)
    have h_held := heldUp_run (P := Dead) (C := fun e => e ≠ .stop) (fun _ _ h h_e => h.step h_e)
      ⟨h_thread, h_running, h_joining⟩ (served expectedToken es).2
      (fun e h_e h_stop => h_es' (h_stop ▸ h_e))
    rw [h_more]
    exact h_held.2
  · intro h_running h_spoken es' h_es' h_steps
    have h_stopping : Stopping (served expectedToken es).1 :=
      ⟨h_running, h_inv.listening.trans h_running, h_spoken⟩
    have h_left := h_stopping.run h_es'
    have h_start := (served expectedToken es).1.stepsLeft_le
    rw [h_more]
    exact ApiServer.stepsLeft_eq_zero (by omega)

end Http

end DoorSystem
