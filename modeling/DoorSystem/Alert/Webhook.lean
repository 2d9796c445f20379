import DoorSystem.Lib.Run
import Mathlib.Data.List.Induction
import Mathlib.Data.List.Nodup
import Mathlib.Logic.Function.Basic
import Mathlib.Tactic.Push
import Mathlib.Tactic.SplitIfs

/-!
# The webhook queue

`system_webhook.c`: `hub_webhook_send` puts messages into a linked list, from any thread, and a
worker takes them out and hands each to `sendDiscordAlert`. The list and `running` are only touched
in critical sections of `queue_lock`, and these are the steps of the model. `hub_webhook_send` has
two: in the first it looks at `running`, in the second it appends.

Between the two, `hub_webhook_shutdown` can clear `running` and the worker can leave. The message is
then appended to a list that nobody reads any more, and it is freed or stays (`not_noneLost`).
`noneLost_iff` says that this is the only way in which a message gets lost.
-/

namespace DoorSystem

open CLib

namespace Alert

/-- A message with the call of `hub_webhook_send` that has it. -/
structure Msg (α : Type) where
  call : ℕ
  text : α
deriving DecidableEq

/-- Where a call of `hub_webhook_send` is. -/
inductive SendState (α : Type)
  | fresh
  /-- It has seen `running` set, and has not appended its message yet. -/
  | accepted (text : α)
  | returned

/-- The worker thread. -/
inductive HookWorker (α : Type)
  | absent
  /-- At the top of its loop, or waiting for the condition. -/
  | ready
  | sending (m : Msg α)
  /-- It has returned. -/
  | exited

/-- How far the controlling thread has come in its `hub_webhook_init` and `hub_webhook_shutdown`. -/
inductive HookPhase
  | fresh
  | up
  /-- In `pthread_join`. -/
  | joining
  | joined
  /-- `hub_webhook_shutdown` has returned. -/
  | down
deriving DecidableEq

/-- The state of the module. -/
structure Webhook (α : Type) where
  running : Bool
  /-- `g_webhook_url` is set. -/
  hasUrl : Bool
  /-- The list from `queue_head` on. -/
  queue : List (Msg α)
  worker : HookWorker α
  phase : HookPhase
  calls : ℕ → SendState α

/-- What happens to a message. -/
inductive HookOut (α : Type)
  | accepted (m : Msg α)
  | enqueued (m : Msg α)
  /-- It is passed to `sendDiscordAlert`. -/
  | delivered (m : Msg α)
  /-- `hub_webhook_shutdown` frees it. -/
  | discarded (m : Msg α)
deriving DecidableEq

/-- What the threads do, one critical section at a time. -/
inductive HookEv (α : Type)
  /-- `hub_webhook_init`, which succeeds. -/
  | init
  /-- The first section of the call `i` of `hub_webhook_send`. -/
  | sendCheck (i : ℕ) (msg : Option α)
  /-- Its second section, in `enqueue_msg`. -/
  | enqueueMsg (i : ℕ)
  /-- The section of the worker in `dequeue_msg`. -/
  | dequeueMsg
  /-- The worker passes its message on. -/
  | sendAlert
  /-- The first section of `hub_webhook_shutdown`. -/
  | stop
  /-- Its `pthread_join` returns. -/
  | join
  /-- Its second section, and the rest. -/
  | drain

section Machine

variable {α : Type}

/-- `hub_webhook_init`. -/
def hubWebhookInit (s : Webhook α) : Webhook α :=
  if s.phase = .fresh then
    { s with hasUrl := true, running := true, worker := .ready, phase := .up }
  else s

/-- The first section of `hub_webhook_send`. -/
def sendCheck (i : ℕ) (text : α) (s : Webhook α) : Webhook α × List (HookOut α) :=
  if s.running then
    ({ s with calls := Function.update s.calls i (.accepted text) }, [.accepted ⟨i, text⟩])
  else ({ s with calls := Function.update s.calls i .returned }, [])

/-- `hub_webhook_send` up to its first section. Without a message it returns at once. -/
def hubWebhookSend (i : ℕ) (msg : Option α) (s : Webhook α) : Webhook α × List (HookOut α) :=
  match s.calls i, msg with
  | .fresh, some text => sendCheck i text s
  | .fresh, none => ({ s with calls := Function.update s.calls i .returned }, [])
  | _, _ => (s, [])

/-- The section of `enqueue_msg`, and the return of `hub_webhook_send`. -/
def enqueueMsg (i : ℕ) (s : Webhook α) : Webhook α × List (HookOut α) :=
  match s.calls i with
  | .accepted text =>
    ({ s with
        queue := s.queue ++ [⟨i, text⟩]
        calls := Function.update s.calls i .returned },
      [.enqueued ⟨i, text⟩])
  | _ => (s, [])

/-- The section of `dequeue_msg`: the worker waits, leaves or takes the first message. -/
def dequeueMsg (s : Webhook α) : Webhook α :=
  match s.worker, s.queue with
  | .ready, [] => if s.running then s else { s with worker := .exited }
  | .ready, m :: rest => { s with queue := rest, worker := .sending m }
  | _, _ => s

/-- `worker` with the message it has taken. -/
def sendAlert (s : Webhook α) : Webhook α × List (HookOut α) :=
  match s.worker with
  | .sending m => ({ s with worker := .ready }, if s.hasUrl then [.delivered m] else [])
  | _ => (s, [])

/-- `hub_webhook_shutdown` up to `pthread_join`. -/
def shutdownStop (s : Webhook α) : Webhook α :=
  if s.phase = .up then { s with running := false, phase := .joining } else s

/-- The `pthread_join` of `hub_webhook_shutdown`. -/
def shutdownJoin (s : Webhook α) : Webhook α :=
  match s.worker with
  | .exited => if s.phase = .joining then { s with phase := .joined } else s
  | _ => s

/-- `hub_webhook_shutdown` after `pthread_join`. -/
def shutdownDrain (s : Webhook α) : Webhook α × List (HookOut α) :=
  if s.phase = .joined then
    ({ s with queue := [], hasUrl := false, phase := .down }, s.queue.map .discarded)
  else (s, [])

/-- One step. A step that the threads cannot take where they are changes nothing. -/
def execHook (s : Webhook α) : HookEv α → Webhook α × List (HookOut α)
  | .init => (hubWebhookInit s, [])
  | .sendCheck i msg => hubWebhookSend i msg s
  | .enqueueMsg i => enqueueMsg i s
  | .dequeueMsg => (dequeueMsg s, [])
  | .sendAlert => sendAlert s
  | .stop => (shutdownStop s, [])
  | .join => (shutdownJoin s, [])
  | .drain => shutdownDrain s

variable (α) in
/-- The module before its first call. -/
def Webhook.initial : Webhook α where
  running := false
  hasUrl := false
  queue := []
  worker := .absent
  phase := .fresh
  calls := fun _ => .fresh

/-- The state and the outputs after the steps `es`. -/
def hookReached (es : List (HookEv α)) : Webhook α × List (HookOut α) :=
  run (logged execHook) (Webhook.initial α, []) es

end Machine

/-! ### What a step can do -/

section Moves

variable {α : Type}

/-- All that one step can do. -/
inductive HookMove (s : Webhook α) (e : HookEv α) : Webhook α × List (HookOut α) → Prop
  | none : HookMove s e (s, [])
  | init (h_phase : s.phase = .fresh) :
    HookMove s e ({ s with hasUrl := true, running := true, worker := .ready, phase := .up }, [])
  | reject (i : ℕ) (h_fresh : s.calls i = .fresh) :
    HookMove s e ({ s with calls := Function.update s.calls i .returned }, [])
  | accept (i : ℕ) (text : α) (h_fresh : s.calls i = .fresh) (h_running : s.running = true) :
    HookMove s e
      ({ s with calls := Function.update s.calls i (.accepted text) }, [.accepted ⟨i, text⟩])
  | enqueue (i : ℕ) (text : α) (h_accepted : s.calls i = .accepted text) :
    HookMove s e
      ({ s with
          queue := s.queue ++ [⟨i, text⟩]
          calls := Function.update s.calls i .returned },
        [.enqueued ⟨i, text⟩])
  | take (m : Msg α) (rest : List (Msg α)) (h_ready : s.worker = .ready)
    (h_queue : s.queue = m :: rest) :
    HookMove s e ({ s with queue := rest, worker := .sending m }, [])
  | exit (h_event : e = .dequeueMsg) (h_ready : s.worker = .ready) (h_queue : s.queue = [])
    (h_stopped : s.running = false) :
    HookMove s e ({ s with worker := .exited }, [])
  | send (m : Msg α) (h_sending : s.worker = .sending m) :
    HookMove s e ({ s with worker := .ready }, if s.hasUrl then [.delivered m] else [])
  | stop (h_phase : s.phase = .up) :
    HookMove s e ({ s with running := false, phase := .joining }, [])
  | join (h_phase : s.phase = .joining) (h_exited : s.worker = .exited) :
    HookMove s e ({ s with phase := .joined }, [])
  | drain (h_phase : s.phase = .joined) :
    HookMove s e
      ({ s with queue := [], hasUrl := false, phase := .down }, s.queue.map .discarded)

theorem execHook_move (s : Webhook α) (e : HookEv α) : HookMove s e (execHook s e) := by
  cases e with
  | init =>
    -- only before the first start or after a shutdown
    unfold execHook hubWebhookInit
    dsimp only
    split_ifs with h_phase
    · exact .init h_phase
    · exact .none
  | sendCheck i msg =>
    unfold execHook hubWebhookSend
    dsimp only
    split
    · -- a fresh call is taken in while the thread runs
      unfold sendCheck
      split_ifs with h_running
      · exact .accept i _ ‹_› h_running
      · exact .reject i ‹_›
    · exact .reject i ‹_›
    · exact .none
  | enqueueMsg i =>
    -- the message of an accepted call
    unfold execHook enqueueMsg
    dsimp only
    split
    · exact .enqueue i _ ‹_›
    · exact .none
  | dequeueMsg =>
    -- the worker takes the oldest message, and leaves when there is none and it is told to stop
    unfold execHook dequeueMsg
    dsimp only
    split
    · split_ifs with h_running
      · exact .none
      · exact .exit rfl ‹_› ‹_› (Bool.eq_false_iff.mpr h_running)
    · exact .take _ _ ‹_› ‹_›
    · exact .none
  | sendAlert =>
    unfold execHook sendAlert
    dsimp only
    split
    · exact .send _ ‹_›
    · exact .none
  | stop =>
    unfold execHook shutdownStop
    dsimp only
    split_ifs with h_phase
    · exact .stop h_phase
    · exact .none
  | join =>
    unfold execHook shutdownJoin
    dsimp only
    split
    · split_ifs with h_phase
      · exact .join h_phase ‹_›
      · exact .none
    · exact .none
  | drain =>
    -- what is left in the queue is thrown away
    unfold execHook shutdownDrain
    dsimp only
    split_ifs with h_phase
    · exact .drain h_phase
    · exact .none

end Moves

/-! ### Where a message is -/

section Invariant

variable {α : Type}

/-- The messages of the calls that have seen `running` set. -/
def HookOut.accepted? : HookOut α → Option (Msg α)
  | .accepted m => some m
  | _ => none

/-- The messages that have been appended. -/
def HookOut.enqueued? : HookOut α → Option (Msg α)
  | .enqueued m => some m
  | _ => none

/-- The messages that have been passed on. -/
def HookOut.delivered? : HookOut α → Option (Msg α)
  | .delivered m => some m
  | _ => none

/-- The messages that have been freed without being passed on. -/
def HookOut.discarded? : HookOut α → Option (Msg α)
  | .discarded m => some m
  | _ => none

/-- The message in the worker's hands. -/
def HookWorker.current : HookWorker α → List (Msg α)
  | .sending m => [m]
  | _ => []

/-- What the phase of the controlling thread says about the rest. -/
def PhaseOk (s : Webhook α) : Prop :=
  match s.phase with
  | .fresh => s.running = false ∧ s.worker = .absent
  | .up => s.running = true ∧ s.hasUrl = true ∧ s.worker ≠ .absent ∧ s.worker ≠ .exited
  | .joining => s.running = false ∧ s.hasUrl = true ∧ s.worker ≠ .absent
  | .joined => s.running = false ∧ s.worker = .exited
  | .down => s.running = false ∧ s.worker = .exited

/-- The messages that have been accepted and appended are those of the calls. -/
structure CallsOk (calls : ℕ → SendState α) (accepted enqueued : List (Msg α)) : Prop where
  accepted_iff : ∀ m, m ∈ accepted ↔ calls m.call = .accepted m.text ∨ m ∈ enqueued
  returned : ∀ m ∈ enqueued, calls m.call = .returned
  nodup : enqueued.Nodup

theorem CallsOk.initial : CallsOk (fun _ => (.fresh : SendState α)) [] [] where
  accepted_iff := by simp
  returned := by simp
  nodup := List.nodup_nil

theorem CallsOk.reject {calls : ℕ → SendState α} {accepted enqueued : List (Msg α)}
    (h : CallsOk calls accepted enqueued) {i : ℕ} (h_fresh : calls i = .fresh) :
    CallsOk (Function.update calls i .returned) accepted enqueued where
  accepted_iff := by
    intro m
    rw [h.accepted_iff]
    by_cases h_i : m.call = i
    · simp [h_i, h_fresh]
    · rw [Function.update_of_ne h_i]
  returned := by
    intro m h_m
    by_cases h_i : m.call = i
    · rw [h_i, Function.update_self]
    · rw [Function.update_of_ne h_i]
      exact h.returned m h_m
  nodup := h.nodup

theorem CallsOk.accept {calls : ℕ → SendState α} {accepted enqueued : List (Msg α)}
    (h : CallsOk calls accepted enqueued) {i : ℕ} (h_fresh : calls i = .fresh) (text : α) :
    CallsOk (Function.update calls i (.accepted text)) (accepted ++ [⟨i, text⟩]) enqueued where
  accepted_iff := by
    intro m
    obtain ⟨k, t⟩ := m
    rw [List.mem_append, List.mem_singleton, h.accepted_iff]
    by_cases h_k : k = i
    · -- a fresh call has not returned
      subst h_k
      have h_new : ⟨k, t⟩ ∉ enqueued := by
        intro h_m
        exact absurd (h_fresh.symm.trans (h.returned _ h_m)) (by simp)
      simp [h_fresh, h_new, eq_comm]
    · simp [h_k]
  returned := by
    intro m h_m
    -- calls that have returned are others
    have h_done := h.returned m h_m
    have h_i : m.call ≠ i := by
      rintro rfl
      exact absurd (h_fresh.symm.trans h_done) (by simp)
    rwa [Function.update_of_ne h_i]
  nodup := h.nodup

theorem CallsOk.enqueue {calls : ℕ → SendState α} {accepted enqueued : List (Msg α)}
    (h : CallsOk calls accepted enqueued) {i : ℕ} {text : α} (h_i : calls i = .accepted text) :
    CallsOk (Function.update calls i .returned) accepted (enqueued ++ [⟨i, text⟩]) where
  accepted_iff := by
    intro m
    obtain ⟨k, t⟩ := m
    rw [List.mem_append, List.mem_singleton, h.accepted_iff]
    by_cases h_k : k = i
    · subst h_k
      simp [h_i, or_comm, eq_comm]
    · simp [h_k]
  returned := by
    intro m h_m
    by_cases h_k : m.call = i
    · rw [h_k, Function.update_self]
    · rw [Function.update_of_ne h_k]
      rcases List.mem_append.mp h_m with h_m | h_m
      · exact h.returned m h_m
      · obtain rfl := List.mem_singleton.mp h_m
        exact absurd rfl h_k
  nodup := by
    -- the call has not appended anything before
    refine List.nodup_append.mpr ⟨h.nodup, List.nodup_singleton _, ?_⟩
    rintro m h_m m' h_m' rfl
    obtain rfl := List.mem_singleton.mp h_m'
    exact absurd (h_i.symm.trans (h.returned _ h_m)) (by simp)

/-- What holds after every run, of the state and the outputs so far. -/
structure HookInv (s : Webhook α × List (HookOut α)) : Prop where
  phase_ok : PhaseOk s.1
  /-- What has been appended has left the list, in this order, or is still in it. -/
  queue_eq : s.2.filterMap HookOut.enqueued? = s.2.filterMap HookOut.delivered?
    ++ s.1.worker.current ++ s.2.filterMap HookOut.discarded? ++ s.1.queue
  /-- Nothing is freed before the end. -/
  discarded_eq : s.1.phase ≠ .down → s.2.filterMap HookOut.discarded? = []
  calls_ok : CallsOk s.1.calls (s.2.filterMap HookOut.accepted?)
    (s.2.filterMap HookOut.enqueued?)

theorem HookInv.initial : HookInv (Webhook.initial α, []) where
  phase_ok := ⟨rfl, rfl⟩
  queue_eq := rfl
  discarded_eq := fun _ => rfl
  calls_ok := CallsOk.initial

/-- A worker that is at work has the URL, and nothing has been freed. -/
theorem HookInv.of_working {s : Webhook α} {log : List (HookOut α)} (h : HookInv (s, log))
    (h_absent : s.worker ≠ .absent) (h_exited : s.worker ≠ .exited) :
    s.hasUrl = true ∧ log.filterMap HookOut.discarded? = [] := by
  have h_phase := h.phase_ok
  have h_discarded := h.discarded_eq
  unfold PhaseOk at h_phase
  dsimp only at h_phase h_discarded
  cases h_eq : s.phase with
  | fresh =>
    -- no worker yet
    rw [h_eq] at h_phase
    exact absurd h_phase.2 h_absent
  | up =>
    -- nothing is thrown away before the drain
    rw [h_eq] at h_phase
    exact ⟨h_phase.2.1, h_discarded (by simp [h_eq])⟩
  | joining =>
    rw [h_eq] at h_phase
    exact ⟨h_phase.2.1, h_discarded (by simp [h_eq])⟩
  | joined =>
    -- the join has seen the worker leave
    rw [h_eq] at h_phase
    exact absurd h_phase.2 h_exited
  | down =>
    rw [h_eq] at h_phase
    exact absurd h_phase.2 h_exited

/-- The worker takes its steps in two of the phases, and stays there. -/
theorem PhaseOk.worker {s : Webhook α} (h : PhaseOk s) (queue : List (Msg α))
    {w w' : HookWorker α} (h_w : s.worker = w) (h_absent : w ≠ .absent) (h_exited : w ≠ .exited)
    (h_absent' : w' ≠ .absent) (h_exited' : w' = .exited → s.running = false) :
    PhaseOk { s with queue := queue, worker := w' } := by
  unfold PhaseOk at h ⊢
  dsimp only
  cases h_eq : s.phase with
  | fresh =>
    rw [h_eq] at h
    exact absurd (h_w.symm.trans h.2) h_absent
  | up =>
    -- the worker does not leave while it may run
    rw [h_eq] at h
    obtain ⟨h_running, h_url, -, -⟩ := h
    refine ⟨h_running, h_url, h_absent', fun h_w' => ?_⟩
    exact absurd (h_running.symm.trans (h_exited' h_w')) (by simp)
  | joining =>
    rw [h_eq] at h
    exact ⟨h.1, h.2.1, h_absent'⟩
  | joined =>
    -- the worker has left, so it is not at `w`
    rw [h_eq] at h
    exact absurd (h_w.symm.trans h.2) h_exited
  | down =>
    rw [h_eq] at h
    exact absurd (h_w.symm.trans h.2) h_exited

/-- **Step.** -/
theorem HookInv.step {s : Webhook α × List (HookOut α)} (h : HookInv s) (e : HookEv α) :
    HookInv (logged execHook s e) := by
  obtain ⟨s, log⟩ := s
  have h_phase := h.phase_ok
  have h_queue := h.queue_eq
  have h_discarded := h.discarded_eq
  have h_calls := h.calls_ok
  dsimp only at h_phase h_queue h_discarded h_calls
  have h_move := execHook_move s e
  unfold logged
  generalize execHook s e = r at h_move
  cases h_move with
  | none =>
    dsimp only
    rw [List.append_nil]
    exact h
  | init h_eq =>
    unfold PhaseOk at h_phase
    rw [h_eq] at h_phase
    rw [h_phase.2] at h_queue
    dsimp only
    rw [List.append_nil]
    exact ⟨⟨rfl, rfl, by simp, by simp⟩, h_queue, fun _ => h_discarded (by simp [h_eq]), h_calls⟩
  | reject i h_fresh =>
    dsimp only
    rw [List.append_nil]
    exact ⟨h_phase, h_queue, h_discarded, h_calls.reject h_fresh⟩
  | accept i text h_fresh h_running =>
    refine ⟨h_phase, ?_, ?_, ?_⟩ <;> dsimp only
    · simpa [List.filterMap_cons, HookOut.enqueued?, HookOut.delivered?,
        HookOut.discarded?] using h_queue
    · simpa [List.filterMap_cons, HookOut.discarded?] using h_discarded
    · simpa [List.filterMap_cons, HookOut.accepted?, HookOut.enqueued?]
        using h_calls.accept h_fresh text
  | enqueue i text h_i =>
    refine ⟨h_phase, ?_, ?_, ?_⟩ <;> dsimp only
    · simp [List.filterMap_cons, HookOut.enqueued?, HookOut.delivered?, HookOut.discarded?, h_queue]
    · simpa [List.filterMap_cons, HookOut.discarded?] using h_discarded
    · simpa [List.filterMap_cons, HookOut.accepted?, HookOut.enqueued?] using h_calls.enqueue h_i
  | take m rest h_ready h_eq =>
    obtain ⟨-, h_none⟩ := h.of_working (by simp [h_ready]) (by simp [h_ready])
    rw [h_none, h_ready, h_eq] at h_queue
    dsimp only
    rw [List.append_nil]
    refine ⟨h_phase.worker rest h_ready (by simp) (by simp) (by simp) (by simp), ?_,
      h_discarded, h_calls⟩
    rw [h_none]
    simpa [HookWorker.current] using h_queue
  | exit _ h_ready h_eq h_stopped =>
    rw [h_ready] at h_queue
    dsimp only
    rw [List.append_nil]
    exact ⟨h_phase.worker s.queue h_ready (by simp) (by simp) (by simp) (fun _ => h_stopped),
      h_queue, h_discarded, h_calls⟩
  | send m h_sending =>
    obtain ⟨h_url, h_none⟩ := h.of_working (by simp [h_sending]) (by simp [h_sending])
    rw [h_none, h_sending] at h_queue
    have h_out : (if s.hasUrl then [HookOut.delivered m] else []) = [.delivered m] := if_pos h_url
    rw [h_out]
    refine ⟨h_phase.worker s.queue h_sending (by simp) (by simp) (by simp) (by simp), ?_, ?_, ?_⟩
      <;> dsimp only
    · simpa [List.filterMap_cons, HookOut.enqueued?, HookOut.delivered?, HookOut.discarded?,
        HookWorker.current, h_none] using h_queue
    · simpa [List.filterMap_cons, HookOut.discarded?] using h_discarded
    · simpa [List.filterMap_cons, HookOut.accepted?, HookOut.enqueued?] using h_calls
  | stop h_eq =>
    unfold PhaseOk at h_phase
    rw [h_eq] at h_phase
    dsimp only
    rw [List.append_nil]
    exact ⟨⟨rfl, h_phase.2.1, h_phase.2.2.1⟩, h_queue, fun _ => h_discarded (by simp [h_eq]),
      h_calls⟩
  | join h_eq h_exited =>
    unfold PhaseOk at h_phase
    rw [h_eq] at h_phase
    dsimp only
    rw [List.append_nil]
    exact ⟨⟨h_phase.1, h_exited⟩, h_queue, fun _ => h_discarded (by simp [h_eq]), h_calls⟩
  | drain h_eq =>
    unfold PhaseOk at h_phase
    rw [h_eq] at h_phase
    have h_none := h_discarded (by simp [h_eq])
    have h_lists : ∀ (f : HookOut α → Option (Msg α)) (_ : ∀ m, f (.discarded m) = none),
        (log ++ s.queue.map HookOut.discarded).filterMap f = log.filterMap f := by
      intro f h_f
      have h_nil : s.queue.filterMap (f ∘ HookOut.discarded) = [] :=
        List.filterMap_eq_nil_iff.mpr (fun m _ => h_f m)
      rw [List.filterMap_append, List.filterMap_map, h_nil, List.append_nil]
    have h_freed : (log ++ s.queue.map HookOut.discarded).filterMap HookOut.discarded?
        = s.queue := by
      rw [List.filterMap_append, h_none, List.nil_append, List.filterMap_map]
      exact List.filterMap_some
    refine ⟨⟨h_phase.1, h_phase.2⟩, ?_, fun h_down => absurd rfl h_down, ?_⟩ <;> dsimp only
    · -- what was in the list has been freed
      rw [h_lists HookOut.enqueued? (fun _ => rfl), h_lists HookOut.delivered? (fun _ => rfl),
        h_freed, h_queue, h_none, List.append_nil, List.append_nil]
    · rw [h_lists HookOut.accepted? (fun _ => rfl), h_lists HookOut.enqueued? (fun _ => rfl)]
      exact h_calls

/-- **Run.** -/
theorem HookInv.reached (es : List (HookEv α)) : HookInv (hookReached es) :=
  run_invariant HookInv (fun _ e h => h.step e) HookInv.initial es

end Invariant

/-! ### The messages that get lost -/

section Lost

variable {α : Type}

/-- All calls have returned, and so has the worker. -/
structure Complete (es : List (HookEv α)) : Prop where
  phase_eq : (hookReached es).1.phase = .down
  returned : ∀ i text, (hookReached es).1.calls i ≠ .accepted text

/-- No message is lost or left behind by the steps `es`. -/
structure NoneLost (es : List (HookEv α)) : Prop where
  /-- What is passed on are the messages of the calls that have seen `running` set. -/
  delivered_iff : ∀ m, m ∈ (hookReached es).2.filterMap HookOut.delivered? ↔
    m ∈ (hookReached es).2.filterMap HookOut.accepted?
  once : ((hookReached es).2.filterMap HookOut.delivered?).Nodup
  in_order : (hookReached es).2.filterMap HookOut.delivered?
    = (hookReached es).2.filterMap HookOut.enqueued?
  queue_nil : (hookReached es).1.queue = []

/-- The section in which the worker leaves its loop, with an empty list after the shutdown. -/
def Leaves (s : Webhook α) (e : HookEv α) : Prop :=
  e = .dequeueMsg ∧ s.worker = .ready ∧ s.queue = [] ∧ s.running = false

/-- When the worker leaves, no call of `hub_webhook_send` is between its two sections. -/
def CleanExit (es : List (HookEv α)) : Prop :=
  ∀ pre e post, es = pre ++ e :: post → Leaves (hookReached pre).1 e →
    ∀ i text, (hookReached pre).1.calls i ≠ .accepted text

theorem hookReached_concat (es : List (HookEv α)) (e : HookEv α) :
    hookReached (es ++ [e]) = logged execHook (hookReached es) e := by
  unfold hookReached
  rw [run_append]
  rfl

theorem cleanExit_concat {es : List (HookEv α)} {e : HookEv α} :
    CleanExit (es ++ [e]) ↔ CleanExit es ∧ (Leaves (hookReached es).1 e →
      ∀ i text, (hookReached es).1.calls i ≠ .accepted text) :=
  forall_split_concat

/-- Once the worker has left, the list is empty and no call is left that could append anything. -/
def Quiet (s : Webhook α) : Prop :=
  s.worker = .exited → s.queue = [] ∧ ∀ i text, s.calls i ≠ .accepted text

/-- Nothing is accepted any more once the worker has left. -/
theorem PhaseOk.not_running {s : Webhook α} (h : PhaseOk s) (h_exited : s.worker = .exited) :
    s.running = false := by
  unfold PhaseOk at h
  cases h_eq : s.phase with
  | fresh =>
    rw [h_eq] at h
    exact h.1
  | up =>
    -- the worker has not left in this phase
    rw [h_eq] at h
    exact absurd h_exited h.2.2.2
  | joining =>
    rw [h_eq] at h
    exact h.1
  | joined =>
    rw [h_eq] at h
    exact h.1
  | down =>
    rw [h_eq] at h
    exact h.1

/-- **Step.** A clean exit makes the state quiet, and it stays so. -/
theorem Quiet.step {s : Webhook α} (h : Quiet s) (h_phase : PhaseOk s) {e : HookEv α}
    (h_clean : Leaves s e → ∀ i text, s.calls i ≠ .accepted text) : Quiet (execHook s e).1 := by
  have h_move := execHook_move s e
  generalize execHook s e = r at h_move
  unfold Quiet at h ⊢
  intro h_exited
  cases h_move with
  | none => exact h h_exited
  | init h_eq => exact absurd h_exited (by simp)
  | reject i h_fresh =>
    -- a call that is turned away is not accepted
    obtain ⟨h_nil, h_calls⟩ := h h_exited
    refine ⟨h_nil, fun j text => ?_⟩
    by_cases h_j : j = i
    · simp [h_j]
    · simpa [Function.update_of_ne h_j] using h_calls j text
  | accept i text h_fresh h_running =>
    -- a worker that has left was told to stop
    have h_stopped := h_phase.not_running h_exited
    exact absurd (h_running.symm.trans h_stopped) (by simp)
  | enqueue i text h_i => exact absurd h_i ((h h_exited).2 i text)
  | take m rest h_ready h_eq => exact absurd h_exited (by simp)
  | exit h_event h_ready h_eq h_stopped =>
    -- the worker leaves now, with no accepted call on its way
    exact ⟨h_eq, h_clean ⟨h_event, h_ready, h_eq, h_stopped⟩⟩
  | send m h_sending => exact absurd h_exited (by simp)
  | stop h_eq => exact h h_exited
  | join h_eq _ => exact h h_exited
  | drain h_eq => exact ⟨rfl, (h h_exited).2⟩

/-- **Step.** Then nothing is freed either. -/
theorem Quiet.discarded {s : Webhook α} (h : Quiet s) (h_phase : PhaseOk s) (e : HookEv α) :
    (execHook s e).2.filterMap HookOut.discarded? = [] := by
  have h_move := execHook_move s e
  generalize execHook s e = r at h_move
  cases h_move with
  | drain h_eq =>
    -- the worker has left, and the list is empty
    unfold PhaseOk at h_phase
    rw [h_eq] at h_phase
    rw [(h h_phase.2).1]
    rfl
  | send m h_sending =>
    dsimp only
    split_ifs <;> rfl
  | _ => rfl

/-- **Run.** After a clean exit the state is quiet, and nothing has been freed. -/
theorem quiet_of_cleanExit {es : List (HookEv α)} (h : CleanExit es) :
    Quiet (hookReached es).1 ∧ (hookReached es).2.filterMap HookOut.discarded? = [] := by
  induction es using List.reverseRecOn with
  | nil => exact ⟨fun h_exited => absurd h_exited (by simp [hookReached, Webhook.initial]), rfl⟩
  | append_singleton es e ih =>
    obtain ⟨h_clean, h_last⟩ := cleanExit_concat.mp h
    obtain ⟨h_quiet, h_none⟩ := ih h_clean
    have h_phase := (HookInv.reached es).phase_ok
    rw [hookReached_concat]
    refine ⟨h_quiet.step h_phase h_last, ?_⟩
    show ((hookReached es).2 ++ (execHook (hookReached es).1 e).2).filterMap _ = []
    rw [List.filterMap_append, h_none, h_quiet.discarded h_phase]
    rfl

/-- The message has been accepted, and there is no worker that could pass it on. -/
structure Stuck (m : Msg α) (s : Webhook α × List (HookOut α)) : Prop where
  exited : s.1.worker = .exited
  phase_ne : s.1.phase ≠ .fresh
  accepted : m ∈ s.2.filterMap HookOut.accepted?
  not_delivered : m ∉ s.2.filterMap HookOut.delivered?

/-- **Step.** -/
theorem Stuck.step {m : Msg α} {s : Webhook α × List (HookOut α)} (h : Stuck m s)
    (e : HookEv α) : Stuck m (logged execHook s e) := by
  obtain ⟨s, log⟩ := s
  have h_exited := h.exited
  have h_phase := h.phase_ne
  dsimp only at h_exited h_phase
  have h_move := execHook_move s e
  -- no step of the others passes a message on
  have h_step : (execHook s e).1.worker = .exited ∧ (execHook s e).1.phase ≠ .fresh ∧
      (execHook s e).2.filterMap HookOut.delivered? = [] := by
    generalize execHook s e = r at h_move
    cases h_move with
    | none => exact ⟨h_exited, h_phase, rfl⟩
    | init h_eq => exact absurd h_eq h_phase
    | reject i _ => exact ⟨h_exited, h_phase, rfl⟩
    | accept i text _ _ => exact ⟨h_exited, h_phase, rfl⟩
    | enqueue i text _ => exact ⟨h_exited, h_phase, rfl⟩
    | take m rest h_ready _ => exact absurd (h_exited.symm.trans h_ready) (by simp)
    | exit _ h_ready _ _ => exact absurd (h_exited.symm.trans h_ready) (by simp)
    | send m h_sending => exact absurd (h_exited.symm.trans h_sending) (by simp)
    | stop _ => exact ⟨h_exited, by simp, rfl⟩
    | join _ _ => exact ⟨h_exited, by simp, rfl⟩
    | drain _ =>
      refine ⟨h_exited, by simp, ?_⟩
      rw [List.filterMap_map]
      exact List.filterMap_eq_nil_iff.mpr (fun _ _ => rfl)
  refine ⟨h_step.1, h_step.2.1, ?_, ?_⟩
  · exact (List.filterMap_append (f := HookOut.accepted?)).symm ▸ List.mem_append_left _ h.accepted
  · show m ∉ (log ++ (execHook s e).2).filterMap _
    rw [List.filterMap_append, h_step.2.2, List.append_nil]
    exact h.not_delivered

theorem Leaves.exec_eq {s : Webhook α} {e : HookEv α} (h : Leaves s e) :
    execHook s e = ({ s with worker := .exited }, []) := by
  obtain ⟨rfl, h_ready, h_queue, h_stopped⟩ := h
  unfold execHook dequeueMsg
  dsimp only
  rw [h_ready, h_queue, h_stopped]
  rfl

/-- A message between its two sections when the worker leaves is never passed on. -/
theorem stuck_of_leaves {pre : List (HookEv α)} {e : HookEv α}
    (h_leaves : Leaves (hookReached pre).1 e) {i : ℕ} {text : α}
    (h_i : (hookReached pre).1.calls i = .accepted text) :
    Stuck ⟨i, text⟩ (hookReached (pre ++ [e])) := by
  obtain ⟨h_phase, h_queue, -, h_calls⟩ := HookInv.reached pre
  have h_exec := h_leaves.exec_eq
  obtain ⟨-, h_ready, -, -⟩ := h_leaves
  rw [hookReached_concat]
  unfold logged
  rw [h_exec, List.append_nil]
  refine ⟨rfl, ?_, ?_, ?_⟩
  · intro h_fresh
    change (hookReached pre).1.phase = .fresh at h_fresh
    unfold PhaseOk at h_phase
    rw [h_fresh] at h_phase
    exact absurd (h_ready.symm.trans h_phase.2) (by simp)
  · exact (h_calls.accepted_iff ⟨i, text⟩).mpr (Or.inl h_i)
  · -- what has been passed on belongs to calls that have returned
    intro h_delivered
    have h_enqueued : (⟨i, text⟩ : Msg α) ∈ (hookReached pre).2.filterMap HookOut.enqueued? := by
      rw [h_queue, List.append_assoc, List.append_assoc]
      exact List.mem_append_left _ h_delivered
    have h_returned := h_calls.returned _ h_enqueued
    exact absurd (h_i.symm.trans h_returned) (by simp)

/-- **No message is lost** exactly when, at the step in which the worker leaves, no call of
`hub_webhook_send` has seen `running` set without having appended its message. -/
theorem noneLost_iff {es : List (HookEv α)} (h_done : Complete es) :
    NoneLost es ↔ CleanExit es := by
  obtain ⟨h_phase, h_queue, -, h_calls⟩ := HookInv.reached es
  constructor
  · intro h pre e post h_eq h_leaves i text h_i
    -- the message of the call is stuck from then on
    have h_stuck : Stuck ⟨i, text⟩ (hookReached es) := by
      rw [h_eq, List.append_cons]
      unfold hookReached
      rw [run_append]
      exact run_invariant (Stuck ⟨i, text⟩) (fun _ e h => h.step e)
        (stuck_of_leaves h_leaves h_i) post
    exact h_stuck.not_delivered ((h.delivered_iff _).mpr h_stuck.accepted)
  · intro h_clean
    obtain ⟨h_quiet, h_none⟩ := quiet_of_cleanExit h_clean
    have h_exited : (hookReached es).1.worker = .exited := by
      unfold PhaseOk at h_phase
      rw [h_done.phase_eq] at h_phase
      exact h_phase.2
    have h_nil := (h_quiet h_exited).1
    rw [h_exited, h_none, h_nil, List.append_nil, List.append_nil] at h_queue
    have h_order := (h_queue.trans (List.append_nil _)).symm
    refine ⟨fun m => ?_, ?_, h_order, h_nil⟩
    · rw [h_order, h_calls.accepted_iff]
      exact ⟨Or.inr, fun h_m => h_m.resolve_left (h_done.returned m.call m.text)⟩
    · rw [h_order]
      exact h_calls.nodup

end Lost

/-! ### A schedule of each kind -/

/-- One message goes out before the shutdown. -/
def cleanSchedule : List (HookEv String) :=
  [.init, .sendCheck 0 (some "door open"), .enqueueMsg 0, .dequeueMsg, .sendAlert, .stop,
    .dequeueMsg, .join, .drain]

/-- The calls after the only one has returned. -/
theorem only_call_returned (i : ℕ) (text : String) :
    Function.update (Function.update (fun _ => SendState.fresh) 0 (.accepted "door open")) 0
      .returned i ≠ .accepted text := by
  by_cases h_i : i = 0 <;> simp [h_i]

theorem complete_cleanSchedule : Complete cleanSchedule where
  phase_eq := rfl
  returned := only_call_returned

theorem noneLost_iff_cleanSchedule :
    Complete cleanSchedule ∧ (NoneLost cleanSchedule ↔ CleanExit cleanSchedule) :=
  ⟨complete_cleanSchedule, noneLost_iff complete_cleanSchedule⟩

/-- The shutdown runs between the two sections of a call, and the message stays behind. -/
def lostSchedule : List (HookEv String) :=
  [.init, .sendCheck 0 (some "door open"), .stop, .dequeueMsg, .join, .drain, .enqueueMsg 0]

theorem complete_lostSchedule : Complete lostSchedule where
  phase_eq := rfl
  returned := only_call_returned

theorem not_noneLost : ¬ ∀ es : List (HookEv String), Complete es → NoneLost es := by
  intro h
  have h_nil : (hookReached lostSchedule).1.queue = [] := (h _ complete_lostSchedule).queue_nil
  exact absurd h_nil (by decide)

end Alert

end DoorSystem
