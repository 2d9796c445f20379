import DoorSystem.Lib.Run
import DoorSystem.Lib.SlotRing
import Mathlib.Data.Int.Notation

/-!
# The LED task queue

`led_worker.c`: the nine `LED_enqueue_*` functions put tasks into a ring of 32 cells, from any
thread, and one worker thread takes them out and runs the LED sequence of each. Every access to the
ring is one critical section of `g_q_mutex`. One controlling thread starts the worker and shuts it
down.

The worker and its control are written over the operations of a queue, `QueueOps`. `ringOps` are the
functions of the source, and `listOps` are those of a list of at most 31 tasks that drops its oldest
one when it is full. `step_abstract` is the simulation of one by the other, and the invariant `Inv`
of the worker is proved over the list.
-/

namespace DoorSystem

open CLib

namespace Led

inductive LedTaskType
  | LED_TASK_BLINK_RED
  | LED_TASK_HUB_SUCCESS
  | LED_TASK_NETWORK_ERROR
  | LED_TASK_HUB_FAILURE
  | LED_TASK_LOCK_SUCCESS
  | LED_TASK_LOCK_FAILURE
  | LED_TASK_UNLOCK_SUCCESS
  | LED_TASK_UNLOCK_FAILURE
  | LED_TASK_DOOR_ERROR
deriving DecidableEq

/-- A task. The numbers are 0 for all types but `LED_TASK_BLINK_RED`. -/
structure LedTask where
  type : LedTaskType
  flashes : ℤ := 0
  freqHz : ℤ := 0
  duty : ℤ := 0
deriving DecidableEq

abbrev LED_QUEUE_SIZE : ℕ := 32

/-- `g_queue` with `g_q_head` and `g_q_tail`. -/
abbrev LedQueue := SlotRing LED_QUEUE_SIZE LedTask

/-- What happens to a task, and the end of the worker. -/
inductive LedOut
  | enqueued (t : LedTask)
  /-- The task has made room for a new one. -/
  | dropped (t : LedTask)
  /-- The task has not found room. -/
  | lost (t : LedTask)
  | popped (t : LedTask)
  | executed (t : LedTask)
  | exited
deriving DecidableEq

/-! ### The functions on the ring -/

/-- `queue_push`. -/
def queuePush (t : LedTask) (q : LedQueue) : LedQueue × ℤ :=
  match q.push t with
  | none => (q, -1)
  | some q' => (q', 0)

/-- `queue_pop`, without a task when it returns -1. -/
def queuePop (q : LedQueue) : LedQueue × Option LedTask :=
  match q.pop with
  | none => (q, none)
  | some (t, q') => (q', some t)

/-- The critical section of the `LED_enqueue_*` functions. -/
def enqueue (t : LedTask) (q : LedQueue) : LedQueue × List LedOut :=
  let (q, full) := queuePush t q
  if full ≠ 0 then
    -- discard the oldest task by advancing the head, then push
    let oldest := q.cells (Fin.ofNat LED_QUEUE_SIZE q.head)
    let (q, full) := queuePush t q.dropOldest
    (q, [.dropped oldest, if full ≠ 0 then .lost t else .enqueued t])
  else (q, [.enqueued t])

/-- `LED_enqueue_blink_red_n`. -/
def ledEnqueueBlinkRedN (flashes freqHz dutyPercent : ℤ) : LedQueue → LedQueue × List LedOut :=
  enqueue
    { type := .LED_TASK_BLINK_RED, flashes := flashes, freqHz := freqHz, duty := dutyPercent }

/-- `LED_enqueue_hub_command_success`. -/
def ledEnqueueHubCommandSuccess : LedQueue → LedQueue × List LedOut :=
  enqueue { type := .LED_TASK_HUB_SUCCESS }

/-- `LED_enqueue_status_network_error`. -/
def ledEnqueueStatusNetworkError : LedQueue → LedQueue × List LedOut :=
  enqueue { type := .LED_TASK_NETWORK_ERROR }

/-- `LED_enqueue_hub_command_failure`. -/
def ledEnqueueHubCommandFailure : LedQueue → LedQueue × List LedOut :=
  enqueue { type := .LED_TASK_HUB_FAILURE }

/-- `LED_enqueue_lock_success`. -/
def ledEnqueueLockSuccess : LedQueue → LedQueue × List LedOut :=
  enqueue { type := .LED_TASK_LOCK_SUCCESS }

/-- `LED_enqueue_lock_failure`. -/
def ledEnqueueLockFailure : LedQueue → LedQueue × List LedOut :=
  enqueue { type := .LED_TASK_LOCK_FAILURE }

/-- `LED_enqueue_unlock_success`. -/
def ledEnqueueUnlockSuccess : LedQueue → LedQueue × List LedOut :=
  enqueue { type := .LED_TASK_UNLOCK_SUCCESS }

/-- `LED_enqueue_unlock_failure`. -/
def ledEnqueueUnlockFailure : LedQueue → LedQueue × List LedOut :=
  enqueue { type := .LED_TASK_UNLOCK_FAILURE }

/-- `LED_enqueue_status_door_error`. -/
def ledEnqueueStatusDoorError : LedQueue → LedQueue × List LedOut :=
  enqueue { type := .LED_TASK_DOOR_ERROR }

/-- A call of one of the `LED_enqueue_*` functions. -/
inductive LedCall
  | blinkRedN (flashes freqHz dutyPercent : ℤ)
  | hubCommandSuccess
  | statusNetworkError
  | hubCommandFailure
  | lockSuccess
  | lockFailure
  | unlockSuccess
  | unlockFailure
  | statusDoorError

/-- The call on the ring. -/
def LedCall.run : LedCall → LedQueue → LedQueue × List LedOut
  | .blinkRedN flashes freqHz dutyPercent => ledEnqueueBlinkRedN flashes freqHz dutyPercent
  | .hubCommandSuccess => ledEnqueueHubCommandSuccess
  | .statusNetworkError => ledEnqueueStatusNetworkError
  | .hubCommandFailure => ledEnqueueHubCommandFailure
  | .lockSuccess => ledEnqueueLockSuccess
  | .lockFailure => ledEnqueueLockFailure
  | .unlockSuccess => ledEnqueueUnlockSuccess
  | .unlockFailure => ledEnqueueUnlockFailure
  | .statusDoorError => ledEnqueueStatusDoorError

/-- The task that a call hands over. -/
def LedCall.task : LedCall → LedTask
  | .blinkRedN flashes freqHz dutyPercent =>
    { type := .LED_TASK_BLINK_RED, flashes := flashes, freqHz := freqHz, duty := dutyPercent }
  | .hubCommandSuccess => { type := .LED_TASK_HUB_SUCCESS }
  | .statusNetworkError => { type := .LED_TASK_NETWORK_ERROR }
  | .hubCommandFailure => { type := .LED_TASK_HUB_FAILURE }
  | .lockSuccess => { type := .LED_TASK_LOCK_SUCCESS }
  | .lockFailure => { type := .LED_TASK_LOCK_FAILURE }
  | .unlockSuccess => { type := .LED_TASK_UNLOCK_SUCCESS }
  | .unlockFailure => { type := .LED_TASK_UNLOCK_FAILURE }
  | .statusDoorError => { type := .LED_TASK_DOOR_ERROR }

theorem LedCall.run_eq (c : LedCall) (q : LedQueue) : c.run q = enqueue c.task q := by
  cases c <;> rfl

/-! ### The worker -/

/-- What the worker uses of a queue. -/
structure QueueOps (Q : Type) where
  call : LedCall → Q → Q × List LedOut
  isEmpty : Q → Bool
  pop : Q → Q × Option LedTask

/-- The functions of the source. -/
def ringOps : QueueOps LedQueue where
  call := LedCall.run
  isEmpty q := q.head == q.tail
  pop := queuePop

/-- The worker thread `g_worker`. -/
inductive WorkerThread
  /-- Not created, or joined. -/
  | absent
  /-- At the top of its loop, or waiting for the condition. -/
  | ready
  /-- In the LED sequence of a task. -/
  | executing (t : LedTask)
  /-- Returned, and not joined yet. -/
  | exited
deriving DecidableEq

/-- The state of the module. -/
structure LedWorker (Q : Type) where
  queue : Q
  gWorkerRunning : Bool
  worker : WorkerThread
  /-- `LED_worker_shutdown` is in `pthread_join`. -/
  joining : Bool

/-- What the threads do, one critical section or return at a time. -/
inductive LedEv
  /-- An `LED_enqueue_*` call, from any thread. -/
  | call (c : LedCall)
  /-- The worker takes the lock, at the top of its loop or after a wait. -/
  | workerSection
  /-- The sequence of the worker's task returns. -/
  | sequenceDone
  /-- `LED_worker_init`, with the outcome of `pthread_create`. -/
  | workerInit (created : Bool)
  /-- `LED_worker_shutdown` up to `pthread_join`. -/
  | workerShutdown
  /-- `pthread_join` returns. -/
  | joined

section Machine

variable {Q : Type} (O : QueueOps Q)

/-- The critical section of `worker_fn`. -/
def workerSection (s : LedWorker Q) : LedWorker Q × List LedOut :=
  if O.isEmpty s.queue && s.gWorkerRunning then (s, [])
  else if !s.gWorkerRunning && O.isEmpty s.queue then ({ s with worker := .exited }, [.exited])
  else match O.pop s.queue with
    | (_, none) => (s, [])
    | (q, some t) => ({ s with queue := q, worker := .executing t }, [.popped t])

/-- `LED_worker_init`. -/
def ledWorkerInit (created : Bool) (s : LedWorker Q) : LedWorker Q :=
  if s.gWorkerRunning then s
  else if created then { s with gWorkerRunning := true, worker := .ready }
  else s

/-- `LED_worker_shutdown` up to `pthread_join`. -/
def ledWorkerShutdown (s : LedWorker Q) : LedWorker Q :=
  if s.gWorkerRunning then { s with gWorkerRunning := false, joining := true } else s

/-- One step. A step that the threads cannot take where they are changes nothing. -/
def execLed (s : LedWorker Q) : LedEv → LedWorker Q × List LedOut
  | .call c => ({ s with queue := (O.call c s.queue).1 }, (O.call c s.queue).2)
  | .workerSection => if s.worker = .ready then workerSection O s else (s, [])
  | .sequenceDone =>
    match s.worker with
    | .executing t => ({ s with worker := .ready }, [.executed t])
    | _ => (s, [])
  | .workerInit created => (if s.joining then s else ledWorkerInit created s, [])
  | .workerShutdown => (if s.joining then s else ledWorkerShutdown s, [])
  | .joined =>
    (if s.joining && s.worker = .exited then { s with worker := .absent, joining := false } else s,
      [])

/-- The module before its first call. -/
def LedWorker.initial (queue : Q) : LedWorker Q where
  queue := queue
  gWorkerRunning := false
  worker := .absent
  joining := false

/-- The state and the outputs after the steps `es`. -/
def ledReached (queue : Q) (es : List LedEv) : LedWorker Q × List LedOut :=
  run (logged (execLed O)) (LedWorker.initial queue, []) es

end Machine

/-! ### The abstract queue -/

/-- Append a task to a list of at most 31; the oldest one makes room when there are 31. -/
def listCall (c : LedCall) (ts : List LedTask) : List LedTask × List LedOut :=
  (boundedPush (LED_QUEUE_SIZE - 1) ts c.task,
    if ts.length < LED_QUEUE_SIZE - 1 then [.enqueued c.task]
    else (ts.take 1).map .dropped ++ [.enqueued c.task])

/-- The queue as a list. -/
def listOps : QueueOps (List LedTask) where
  call := listCall
  isEmpty := List.isEmpty
  pop ts := (ts.tail, ts.head?)

/-- The ring before the first call: the cells are zeroed. -/
def emptyQueue : LedQueue := SlotRing.empty (fun _ => { type := .LED_TASK_BLINK_RED })

/-! ### What the functions do to the list -/

theorem queuePush_of_full {q : LedQueue} (h : q.contents.length = LED_QUEUE_SIZE - 1)
    (t : LedTask) : queuePush t q = (q, -1) := by
  have h_none : q.push t = none := (SlotRing.push_eq_none_iff q t).mpr h
  unfold queuePush
  rw [h_none]

theorem queuePush_of_room {q : LedQueue} (h : q.contents.length ≠ LED_QUEUE_SIZE - 1)
    (t : LedTask) : ∃ q', queuePush t q = (q', 0) ∧ q'.contents = q.contents ++ [t] := by
  have h_some : q.push t ≠ none := fun h_none => h ((SlotRing.push_eq_none_iff q t).mp h_none)
  obtain ⟨q', h_push⟩ := Option.ne_none_iff_exists'.mp h_some
  refine ⟨q', ?_, SlotRing.contents_push h_push⟩
  unfold queuePush
  rw [h_push]

/-- **The enqueue section** is the abstract one. In particular its second push finds room. -/
theorem enqueue_spec (c : LedCall) (q : LedQueue) :
    ((c.run q).1.contents, (c.run q).2) = listCall c q.contents := by
  rw [LedCall.run_eq]
  have h_count := q.count_lt
  rw [← SlotRing.length_contents] at h_count
  unfold enqueue listCall boundedPush
  by_cases h_full : q.contents.length = LED_QUEUE_SIZE - 1
  · -- the oldest task makes room
    have h_ne : q.contents ≠ [] := by
      intro h_nil
      rw [h_nil] at h_full
      exact absurd h_full (by simp)
    have h_drop := SlotRing.contents_dropOldest h_ne
    have h_room : q.dropOldest.contents.length ≠ LED_QUEUE_SIZE - 1 := by
      have h_length := congrArg List.length h_drop
      rw [List.length_cons] at h_length
      omega
    obtain ⟨q', h_push, h_contents⟩ := queuePush_of_room h_room c.task
    rw [queuePush_of_full h_full, if_neg (by omega), if_neg (by omega), h_drop]
    simp [h_push, h_contents]
  · obtain ⟨q', h_push, h_contents⟩ := queuePush_of_room h_full c.task
    rw [h_push, if_pos (by omega), if_pos (by omega)]
    simp [h_contents]

theorem isEmpty_contents (q : LedQueue) : (q.head == q.tail) = q.contents.isEmpty := by
  rw [Bool.eq_iff_iff, beq_iff_eq, List.isEmpty_iff, SlotRing.contents_eq_nil_iff]

theorem queuePop_spec (q : LedQueue) :
    (queuePop q).1.contents = q.contents.tail ∧ (queuePop q).2 = q.contents.head? := by
  unfold queuePop
  rcases SlotRing.pop_eq q with ⟨h_nil, h_pop⟩ | ⟨t, h_cons, h_pop⟩
  · rw [h_pop]
    dsimp only
    rw [h_nil]
    exact ⟨rfl, rfl⟩
  · rw [h_pop, h_cons]
    exact ⟨rfl, rfl⟩

/-! ### The simulation -/

/-- The state with the queue as a list. -/
def LedWorker.abstract (s : LedWorker LedQueue) : LedWorker (List LedTask) where
  queue := s.queue.contents
  gWorkerRunning := s.gWorkerRunning
  worker := s.worker
  joining := s.joining

theorem workerSection_abstract (s : LedWorker LedQueue) :
    ((workerSection ringOps s).1.abstract, (workerSection ringOps s).2)
      = workerSection listOps s.abstract := by
  have h_empty : ringOps.isEmpty s.queue = listOps.isEmpty s.abstract.queue :=
    isEmpty_contents s.queue
  have h_running : s.abstract.gWorkerRunning = s.gWorkerRunning := rfl
  obtain ⟨h_rest, h_first⟩ := queuePop_spec s.queue
  unfold workerSection
  rw [h_empty, h_running]
  split_ifs
  · rfl
  · rfl
  · -- both queues give the same task, if any
    have h_list : listOps.pop s.abstract.queue
        = ((queuePop s.queue).1.contents, (queuePop s.queue).2) := Prod.ext h_rest.symm h_first.symm
    have h_ring : ringOps.pop s.queue = queuePop s.queue := rfl
    rw [h_list, h_ring]
    rcases queuePop s.queue with ⟨q, _ | t⟩
    · rfl
    · rfl

/-- **Simulation.** A step over the ring is the step over the list. -/
theorem step_abstract (s : LedWorker LedQueue) (e : LedEv) :
    ((execLed ringOps s e).1.abstract, (execLed ringOps s e).2)
      = execLed listOps s.abstract e := by
  cases e with
  | call c =>
    -- the calls are where the ring and the list differ
    have h_call : listOps.call c s.abstract.queue
        = ((c.run s.queue).1.contents, (c.run s.queue).2) := (enqueue_spec c s.queue).symm
    unfold execLed
    dsimp only
    rw [h_call]
    rfl
  | workerSection =>
    -- the worker looks at the queue only when it is awake
    unfold execLed
    dsimp only
    by_cases h_ready : s.worker = .ready
    · rw [if_pos h_ready, if_pos (show s.abstract.worker = .ready from h_ready)]
      exact workerSection_abstract s
    · rw [if_neg h_ready, if_neg (show s.abstract.worker ≠ .ready from h_ready)]
  | sequenceDone =>
    -- no event below touches the queue
    obtain ⟨q, running, worker, joining⟩ := s
    cases worker <;> rfl
  | workerInit created =>
    obtain ⟨q, running, worker, joining⟩ := s
    cases joining <;> cases running <;> cases created <;> rfl
  | workerShutdown =>
    obtain ⟨q, running, worker, joining⟩ := s
    cases joining <;> cases running <;> rfl
  | joined =>
    obtain ⟨q, running, worker, joining⟩ := s
    cases joining <;> cases worker <;> rfl

/-- **Run.** The queue and all outputs are those of the list. -/
theorem ledReached_abstract (es : List LedEv) :
    ((ledReached ringOps emptyQueue es).1.abstract, (ledReached ringOps emptyQueue es).2)
      = ledReached listOps [] es := by
  have h_step : ∀ (s : LedWorker LedQueue × List LedOut) (e : LedEv),
      ((logged (execLed ringOps) s e).1.abstract, (logged (execLed ringOps) s e).2)
        = logged (execLed listOps) (s.1.abstract, s.2) e := by
    intro s e
    unfold logged
    rw [← step_abstract]
  have h_run := run_simulation
    (fun s : LedWorker LedQueue × List LedOut => (s.1.abstract, s.2)) h_step
    (LedWorker.initial emptyQueue, []) es
  have h_start : (LedWorker.initial emptyQueue).abstract = LedWorker.initial [] := by
    unfold LedWorker.abstract LedWorker.initial emptyQueue
    rw [SlotRing.contents_empty]
  rw [h_start] at h_run
  exact h_run

/-! ### The worker over the list -/

/-- The tasks that an `LED_enqueue_*` call has put into the queue. -/
def LedOut.enqueued? : LedOut → Option LedTask
  | .enqueued t => some t
  | _ => none

/-- The tasks that have left the queue. -/
def LedOut.removed? : LedOut → Option LedTask
  | .dropped t => some t
  | .popped t => some t
  | _ => none

/-- The tasks that the worker has taken. -/
def LedOut.popped? : LedOut → Option LedTask
  | .popped t => some t
  | _ => none

/-- The tasks whose sequence has run. -/
def LedOut.executed? : LedOut → Option LedTask
  | .executed t => some t
  | _ => none

/-- The task in the worker's hands. -/
def WorkerThread.current : WorkerThread → List LedTask
  | .executing t => [t]
  | _ => []

/-- What holds after every run, of the state and the outputs so far. -/
structure Inv (s : LedWorker (List LedTask) × List LedOut) : Prop where
  length_le : s.1.queue.length ≤ LED_QUEUE_SIZE - 1
  /-- What has been enqueued has left the queue, in this order, or is still in it. -/
  queue_eq : s.2.filterMap LedOut.enqueued? = s.2.filterMap LedOut.removed? ++ s.1.queue
  /-- What has been taken is executed, in this order. -/
  worker_eq :
    s.2.filterMap LedOut.popped? = s.2.filterMap LedOut.executed? ++ s.1.worker.current
  /-- There is a worker as long as it is wanted or awaited, and none else. -/
  absent_iff : s.1.worker = .absent ↔ s.1.gWorkerRunning = false ∧ s.1.joining = false
  exited_imp : s.1.worker = .exited → s.1.joining = true
  not_running : s.1.joining = true → s.1.gWorkerRunning = false
  not_lost : ∀ t, LedOut.lost t ∉ s.2

theorem Inv.initial : Inv (LedWorker.initial [], []) where
  length_le := by simp [LedWorker.initial]
  queue_eq := rfl
  worker_eq := rfl
  absent_iff := by simp [LedWorker.initial]
  exited_imp := by simp [LedWorker.initial]
  not_running := by simp [LedWorker.initial]
  not_lost := by simp

/-- All that one step over the list can do. -/
inductive LedMove (s : LedWorker (List LedTask)) : LedWorker (List LedTask) × List LedOut → Prop
  | none : LedMove s (s, [])
  | append (t : LedTask) (h_room : s.queue.length < LED_QUEUE_SIZE - 1) :
    LedMove s ({ s with queue := s.queue ++ [t] }, [.enqueued t])
  | replace (t oldest : LedTask) (ts : List LedTask) (h_queue : s.queue = oldest :: ts)
    (h_full : LED_QUEUE_SIZE - 1 ≤ s.queue.length) :
    LedMove s ({ s with queue := ts ++ [t] }, [.dropped oldest, .enqueued t])
  | exit (h_ready : s.worker = .ready) (h_queue : s.queue = [])
    (h_stopped : s.gWorkerRunning = false) :
    LedMove s ({ s with worker := .exited }, [.exited])
  | pop (t : LedTask) (ts : List LedTask) (h_ready : s.worker = .ready)
    (h_queue : s.queue = t :: ts) :
    LedMove s ({ s with queue := ts, worker := .executing t }, [.popped t])
  | execute (t : LedTask) (h_executing : s.worker = .executing t) :
    LedMove s ({ s with worker := .ready }, [.executed t])
  | init (h_stopped : s.gWorkerRunning = false) (h_joined : s.joining = false) :
    LedMove s ({ s with gWorkerRunning := true, worker := .ready }, [])
  | shutdown (h_running : s.gWorkerRunning = true) (h_joined : s.joining = false) :
    LedMove s ({ s with gWorkerRunning := false, joining := true }, [])
  | join (h_joining : s.joining = true) (h_exited : s.worker = .exited) :
    LedMove s ({ s with worker := .absent, joining := false }, [])

theorem execLed_move (s : LedWorker (List LedTask)) (e : LedEv) :
    LedMove s (execLed listOps s e) := by
  obtain ⟨queue, running, worker, joining⟩ := s
  cases e with
  | call c =>
    unfold execLed listOps listCall boundedPush
    dsimp only
    split_ifs with h_room
    · exact .append c.task h_room
    · -- a full list has an oldest task
      cases queue with
      | nil => exact absurd (by decide) h_room
      | cons oldest ts => exact .replace c.task oldest ts rfl (Nat.le_of_not_lt h_room)
  | workerSection =>
    unfold execLed
    dsimp only
    split_ifs with h_ready
    · cases queue with
      | nil =>
        cases running with
        | false => exact .exit h_ready rfl rfl
        | true => exact .none
      | cons t ts => cases running <;> exact .pop t ts h_ready rfl
    · exact .none
  | sequenceDone =>
    cases worker with
    | executing t => exact .execute t rfl
    | absent => exact .none
    | ready => exact .none
    | exited => exact .none
  | workerInit created =>
    cases joining with
    | true => exact .none
    | false =>
      cases running <;> cases created
      · exact .none
      · exact .init rfl rfl
      · exact .none
      · exact .none
  | workerShutdown =>
    cases joining with
    | true => exact .none
    | false =>
      cases running with
      | false => exact .none
      | true => exact .shutdown rfl rfl
  | joined =>
    cases joining with
    | false => exact .none
    | true =>
      cases worker with
      | exited => exact .join rfl rfl
      | absent => exact .none
      | ready => exact .none
      | executing t => exact .none

/-- A task is taken from the front. -/
theorem LedMove.popped {s : LedWorker (List LedTask)} {r : LedWorker (List LedTask) × List LedOut}
    (h : LedMove s r) {t : LedTask} (h_popped : LedOut.popped t ∈ r.2) :
    s.queue = t :: r.1.queue := by
  cases h with
  | pop t' ts h_ready h_queue =>
    obtain rfl : t = t' := by simpa using h_popped
    exact h_queue
  | _ => simp at h_popped

/-- The worker exits only when it is not wanted and nothing is left. -/
theorem LedMove.exited {s : LedWorker (List LedTask)} {r : LedWorker (List LedTask) × List LedOut}
    (h : LedMove s r) (h_exited : LedOut.exited ∈ r.2) :
    s.worker = .ready ∧ s.queue = [] ∧ s.gWorkerRunning = false := by
  cases h with
  | exit h_ready h_queue h_stopped => exact ⟨h_ready, h_queue, h_stopped⟩
  | _ => simp at h_exited

/-- **Step.** -/
theorem Inv.step {s : LedWorker (List LedTask) × List LedOut} (h : Inv s) (e : LedEv) :
    Inv (logged (execLed listOps) s e) := by
  obtain ⟨s, log⟩ := s
  have h_length := h.length_le
  have h_queue := h.queue_eq
  have h_worker := h.worker_eq
  have h_absent := h.absent_iff
  have h_lost := h.not_lost
  dsimp only at h_length h_queue h_worker h_absent h_lost
  have h_move := execLed_move s e
  unfold logged
  generalize execLed listOps s e = r at h_move
  cases h_move with
  | none =>
    dsimp only
    rw [List.append_nil]
    exact h
  | append t h_room =>
    refine ⟨?_, ?_, ?_, h_absent, h.exited_imp, h.not_running, by simp [h_lost]⟩
    · rw [List.length_append, List.length_singleton]
      omega
    · simp [List.filterMap_cons, LedOut.enqueued?, LedOut.removed?, h_queue]
    · simp [List.filterMap_cons, LedOut.popped?, LedOut.executed?, h_worker]
  | replace t oldest ts h_eq h_full =>
    rw [h_eq] at h_length h_queue
    refine ⟨?_, ?_, ?_, h_absent, h.exited_imp, h.not_running, by simp [h_lost]⟩
    · rw [List.length_cons] at h_length
      rw [List.length_append, List.length_singleton]
      omega
    · simp [List.filterMap_cons, LedOut.enqueued?, LedOut.removed?, h_queue]
    · simp [List.filterMap_cons, LedOut.popped?, LedOut.executed?, h_worker]
  | exit h_ready h_eq h_stopped =>
    rw [h_ready] at h_worker h_absent
    refine ⟨h_length, ?_, ?_, ?_, ?_, h.not_running, by simp [h_lost]⟩
    · simp [List.filterMap_cons, LedOut.enqueued?, LedOut.removed?, h_queue]
    · simpa [List.filterMap_cons, LedOut.popped?, LedOut.executed?, WorkerThread.current]
        using h_worker
    · simpa using h_absent
    · intro _
      -- somebody waits for a worker that is there and not wanted
      simpa [h_stopped] using h_absent
  | pop t ts h_ready h_eq =>
    rw [h_eq] at h_length h_queue
    rw [h_ready] at h_worker h_absent
    rw [List.length_cons] at h_length
    refine ⟨Nat.le_of_succ_le h_length, ?_, ?_, ?_, ?_, h.not_running, by simp [h_lost]⟩
    · simp [List.filterMap_cons, LedOut.enqueued?, LedOut.removed?, h_queue]
    · simpa [List.filterMap_cons, LedOut.popped?, LedOut.executed?, WorkerThread.current]
        using h_worker
    · simpa using h_absent
    · simp
  | execute t h_executing =>
    rw [h_executing] at h_worker h_absent
    refine ⟨h_length, ?_, ?_, ?_, ?_, h.not_running, by simp [h_lost]⟩
    · simp [List.filterMap_cons, LedOut.enqueued?, LedOut.removed?, h_queue]
    · simpa [List.filterMap_cons, LedOut.popped?, LedOut.executed?, WorkerThread.current]
        using h_worker
    · simpa using h_absent
    · simp
  | init h_stopped h_joined =>
    -- the worker before has been joined, and had nothing in its hands
    rw [h_absent.mpr ⟨h_stopped, h_joined⟩] at h_worker
    dsimp only
    rw [List.append_nil]
    exact ⟨h_length, h_queue, h_worker, by simp, by simp, by simp [h_joined], h_lost⟩
  | shutdown h_running h_joined =>
    dsimp only
    rw [List.append_nil]
    refine ⟨h_length, h_queue, h_worker, ?_, by simp, by simp, h_lost⟩
    simpa [h_running] using h_absent
  | join h_joining h_exited =>
    rw [h_exited] at h_worker
    have h_stopped := h.not_running h_joining
    dsimp only
    rw [List.append_nil]
    exact ⟨h_length, h_queue, h_worker, by simpa using h_stopped, by simp, by simp, h_lost⟩

/-- **Run.** -/
theorem Inv.ledReached (es : List LedEv) : Inv (ledReached listOps [] es) :=
  run_invariant Inv (fun _ e h => h.step e) Inv.initial es

/-! ### The queue of the source -/

/-- The queue and the outputs of the source after the steps `es`. -/
def ledQueue (es : List LedEv) : LedWorker LedQueue × List LedOut :=
  ledReached ringOps emptyQueue es

/-- What the queue is for, after the steps `es`. -/
structure FifoDropsOldest (es : List LedEv) : Prop where
  head_lt : (ledQueue es).1.queue.head < LED_QUEUE_SIZE
  tail_lt : (ledQueue es).1.queue.tail < LED_QUEUE_SIZE
  /-- The ring is the list of the abstract queue, and everything that happens to a task happens
  there as well. -/
  abstract_eq : ((ledQueue es).1.abstract, (ledQueue es).2) = ledReached listOps [] es
  length_le : (ledQueue es).1.queue.contents.length ≤ LED_QUEUE_SIZE - 1
  /-- The push of a call always succeeds in the end. -/
  never_lost : ∀ t, LedOut.lost t ∉ (ledQueue es).2
  /-- Tasks leave in the order in which they have come, none twice, and the others are there. -/
  queue_eq : (ledQueue es).2.filterMap LedOut.enqueued?
    = (ledQueue es).2.filterMap LedOut.removed? ++ (ledQueue es).1.queue.contents
  /-- What the worker takes is executed in this order. -/
  worker_eq : (ledQueue es).2.filterMap LedOut.popped?
    = (ledQueue es).2.filterMap LedOut.executed? ++ (ledQueue es).1.worker.current
  /-- A call appends its task. It drops a task only when there are 31, and then the oldest one. -/
  call_eq : ∀ c : LedCall,
    ((c.run (ledQueue es).1.queue).1.contents, (c.run (ledQueue es).1.queue).2)
      = listCall c (ledQueue es).1.queue.contents
  /-- A step that takes a task takes the oldest one. -/
  popped_eq : ∀ e t, LedOut.popped t ∈ (execLed ringOps (ledQueue es).1 e).2 →
    (ledQueue es).1.queue.contents
      = t :: (execLed ringOps (ledQueue es).1 e).1.queue.contents
  /-- The worker exits only after a shutdown, with an empty queue and no task in its hands. -/
  exited_imp : ∀ e, LedOut.exited ∈ (execLed ringOps (ledQueue es).1 e).2 →
    (ledQueue es).1.joining = true ∧ (ledQueue es).1.queue.contents = [] ∧
      (ledQueue es).2.filterMap LedOut.enqueued? = (ledQueue es).2.filterMap LedOut.removed? ∧
      (ledQueue es).2.filterMap LedOut.popped? = (ledQueue es).2.filterMap LedOut.executed?

/-- **FIFO.** For every interleaving of enqueues, worker steps, starts and shutdowns, the ring is a
queue that drops only its oldest task, and the worker executes what is left before it exits. -/
theorem ledQueue_fifo (es : List LedEv) : FifoDropsOldest es := by
  have h_abs := ledReached_abstract es
  have h_inv := Inv.ledReached es
  rw [← h_abs] at h_inv
  have h_queue : (ledQueue es).2.filterMap LedOut.enqueued?
      = (ledQueue es).2.filterMap LedOut.removed? ++ (ledQueue es).1.queue.contents :=
    h_inv.queue_eq
  have h_worker : (ledQueue es).2.filterMap LedOut.popped?
      = (ledQueue es).2.filterMap LedOut.executed? ++ (ledQueue es).1.worker.current :=
    h_inv.worker_eq
  refine ⟨(ledQueue es).1.queue.head_lt, (ledQueue es).1.queue.tail_lt, h_abs, h_inv.length_le,
    h_inv.not_lost, h_queue, h_worker, fun c => enqueue_spec c _, ?_, ?_⟩
  · intro e t h_popped
    have h_step := step_abstract (ledQueue es).1 e
    have h_move := execLed_move (ledQueue es).1.abstract e
    rw [← h_step] at h_move
    exact h_move.popped h_popped
  · intro e h_exited
    have h_step := step_abstract (ledQueue es).1 e
    have h_move := execLed_move (ledQueue es).1.abstract e
    rw [← h_step] at h_move
    obtain ⟨h_ready, h_empty, h_stopped⟩ := h_move.exited h_exited
    change (ledQueue es).1.worker = .ready at h_ready
    change (ledQueue es).1.queue.contents = [] at h_empty
    change (ledQueue es).1.gWorkerRunning = false at h_stopped
    refine ⟨?_, h_empty, ?_, ?_⟩
    · -- the worker is there and not wanted, so a shutdown is waiting for it
      by_contra h_joining
      have h_absent : (ledQueue es).1.worker = .absent :=
        h_inv.absent_iff.mpr ⟨h_stopped, Bool.eq_false_iff.mpr h_joining⟩
      exact absurd (h_ready.symm.trans h_absent) (by simp)
    · rw [h_empty, List.append_nil] at h_queue
      exact h_queue
    · rw [h_ready] at h_worker
      simpa [WorkerThread.current] using h_worker

end Led

end DoorSystem
