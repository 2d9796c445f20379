import DoorSystem.Door.Lamps
import DoorSystem.Door.OnLines
import DoorSystem.Http.Bodies

/-!
# The door of the hub program

`door_system.c` is the hub, and has the door operations of a module as well: the HTTP API calls them
for the id that it was started with, and the menu at the end of `main` for the door object of the
program. But `main` calls neither `initializeDoorSystem` nor `LED_init`. No line is configured, so
every write to one fails and every measurement is an error, and no worker takes the LED tasks.

`hubDoor_inert` is what comes of it in every run: the operations move nothing, send nothing and find
the door UNKNOWN, and the API answers each request for one with `ok`.
-/

namespace DoorSystem

open CLib Hal

namespace System

open Door Http Hub Led

variable {ο : Type}

/-! ### The program -/

/-- The part of the program that the operations use: the lines and the static variables of the door
module, the LED tasks, `g_module_id` of the API, and `door1` and `control_number` of `main`. -/
structure HubLocal (ο : Type) where
  api : HttpApi
  door : DoorOnLines ο
  leds : LedWorker LedQueue
  door1 : DoorT
  controlNumber : ℤ
  /-- The loop of the menu goes on. -/
  inMenu : Bool

/-- What the program shows. -/
inductive HubLocalOut
  /-- The answer to a POST that operates the door. -/
  | operated (kind : OpKind) (body : CStr)
  /-- The answer to a GET for the door. -/
  | localStatus (mod : CStr) (body : CStr)
  | datagram (out : DoorOut)
  | led (out : LedOut)

/-- A call of an operation: the door object afterwards, and the datagrams. -/
def callLines (kind : OpKind) (env : LineEnv) (door : DoorT) (d : DoorOnLines ο) :
    DoorOnLines ο × DoorT × List DoorOut :=
  let (d, door) := opActLines kind env door d
  let (d, outs) := reportDoorStateLines door env.report env.now d
  (d, door, outs)

/-- Calls of the `LED_enqueue_*` functions and steps of the worker. -/
def HubLocal.ledSteps (es : List LedEv) (h : HubLocal ο) : HubLocal ο × List HubLocalOut :=
  let (leds, outs) := run (logged (execLed ringOps)) (h.leds, []) es
  ({ h with leds := leds }, outs.map .led)

/-- A call of an operation with its LED tasks. -/
def HubLocal.perform (kind : OpKind) (env : LineEnv) (door : DoorT) (h : HubLocal ο) :
    HubLocal ο × DoorT × List HubLocalOut :=
  let calls := opLeds kind (env.onLines h.door.lines.gpio) h.door.module
  let (d, door, outs) := callLines kind env door h.door
  let (h, ledOuts) := HubLocal.ledSteps (calls.map .call) { h with door := d }
  (h, door, outs.map .datagram ++ ledOuts)

/-- What a line of the menu says. -/
inductive MenuWord
  | invalid
  | number (n : ℤ)

/-- A line of the menu: a number and nothing behind it. -/
def menuWord (line : CStr) : MenuWord :=
  match strtolEnd line with
  | none => .invalid
  | some [] => .number (toInt32 (strtol10 line))
  | some (c :: _) => if c = '\n' then .number (toInt32 (strtol10 line)) else .invalid

/-- The operation of a number. -/
def menuOp (n : ℤ) : Option OpKind :=
  if n = 1 then some .lock else if n = 2 then some .unlock else if n = 3 then some .status else none

/-- One turn of the menu. A line that is invalid leaves `control_number` as it is. -/
def HubLocal.menuLine (text : CStr) (env : LineEnv) (h : HubLocal ο) :
    HubLocal ο × List HubLocalOut :=
  match menuWord text with
  | .invalid => ({ h with inMenu := decide (h.controlNumber ≠ 4) }, [])
  | .number n =>
    match menuOp n with
    | some kind =>
      let (h, door, outs) := h.perform kind env h.door1
      ({ h with door1 := door, controlNumber := n, inMenu := decide (n ≠ 4) }, outs)
    | none => ({ h with controlNumber := n, inMenu := decide (n ≠ 4) }, [])

/-- What happens in the program. -/
inductive HubLocalEv (ο : Type)
  /-- A request of the API, with the hub as it is then. -/
  | request (data : List Char) (hub : HubState) (env : LineEnv)
  /-- A line of the menu. -/
  | menuLine (text : CStr) (env : LineEnv)
  /-- An LED task of another part of the program. -/
  | ledCall (c : LedCall)
  | workerSection
  | sequenceDone
  /-- The rest of the program opens or closes a file. -/
  | otherOpen (file : ο)
  | otherClose (fd : ℕ)

/-- One step. The requests that are not about the door of the program are answered elsewhere. -/
def execHubLocal (h : HubLocal ο) : HubLocalEv ο → HubLocal ο × List HubLocalOut
  | .request data hub env =>
    match handleClient h.api data hub with
    | .operate kind =>
      let (h, door, outs) := h.perform kind env ⟨.UNKNOWN, 0⟩
      (h, outs ++ [.operated kind (operatedBody door)])
    | .localStatus mod =>
      let (h, door, outs) := h.perform .status env ⟨.UNKNOWN, 0⟩
      (h, outs ++ [.localStatus mod (localStatusBody mod door)])
    | _ => (h, [])
  | .menuLine text env => if h.inMenu then h.menuLine text env else (h, [])
  | .ledCall c => h.ledSteps [.call c]
  | .workerSection => h.ledSteps [.workerSection]
  | .sequenceDone => h.ledSteps [.sequenceDone]
  | .otherOpen file => ({ h with door := (execLines h.door (.otherOpen file)).1 }, [])
  | .otherClose fd => ({ h with door := (execLines h.door (.otherClose fd)).1 }, [])

/-! ### An operation without lines -/

/-- The door of a program that has configured no line. -/
structure NoLines (d : DoorOnLines ο) : Prop where
  unused : ∀ p, (d.lines.gpio.gpioFds p).inUse = false
  position : d.lines.currentStepPosition = 0

theorem NoLines.measure {d : DoorOnLines ο} (h : NoLines d) (m : Measurement) :
    d.measure m = (d, -1) := by
  have h_write : ∀ value ok, writePinValue 1 33 value ok d.lines.gpio = (d.lines.gpio, false) := by
    intro value ok
    unfold writePinValue
    rw [pinOf_trig]
    dsimp only
    rw [if_pos (by simp [h.unused])]
  have h_pulse : pulseLines m.trigger (List.finRange 3) d.lines.gpio = (d.lines.gpio, false) := by
    show pulseLines m.trigger (0 :: [1, 2]) d.lines.gpio = _
    unfold pulseLines
    rw [h_write]
    rfl
  unfold DoorOnLines.measure getDistanceLines
  rw [h_pulse]
  rfl

theorem NoLines.sampleLoop {d : DoorOnLines ο} (h : NoLines d) (ms : List Measurement)
    (totalDistance : ℤ) (sampleCount : ℕ) :
    d.sampleLoop ms totalDistance sampleCount = (d, totalDistance, sampleCount) := by
  induction ms with
  | nil => rfl
  | cons m ms ih =>
    unfold DoorOnLines.sampleLoop
    rw [h.measure m]
    dsimp only
    rw [if_neg (by simp), ih]

/-- The motor is where it was at the start of the program. -/
theorem NoLines.getPosition {d : DoorOnLines ο} (h : NoLines d) :
    d.module.motor.getPosition = 0 := by
  have h_position : d.module.motor.currentStepPosition = 0 := h.position
  unfold StepperMotor.getPosition
  rw [h_position, Nat.zero_mul, Nat.zero_div]

/-- The door object after an operation that finds nothing. -/
def notFound : OpKind → DoorT → DoorT
  | .lock, door => { door with state := .UNKNOWN }
  | .unlock, door | .status, door => door

/-- **An operation** finds nothing and does nothing. -/
theorem NoLines.call {d : DoorOnLines ο} (h : NoLines d) (kind : OpKind) (env : LineEnv)
    (door : DoorT) : callLines kind env door d = (d, notFound kind door, []) := by
  have h_position := h.getPosition
  have h_report : ∀ door', reportDoorStateLines door' env.report env.now d = (d, []) := by
    -- without a distance there is nothing to report
    intro door'
    unfold reportDoorStateLines
    rw [h.measure]
    exact if_pos rfl
  have h_act : opActLines kind env door d = (d, notFound kind door) := by
    cases kind with
    | lock =>
      -- no sample, and the motor stands at 0
      show lockDoorLines env door d = _
      unfold lockDoorLines DoorOnLines.avgDistanceSample
      rw [h.sampleLoop]
      dsimp only
      rw [show d.lines.motor = d.module.motor from rfl, h_position]
      rfl
    | unlock =>
      -- the motor stands at 0 already, so nothing is turned
      show unlockDoorLines env door d = _
      unfold unlockDoorLines
      exact if_pos h_position
    | status =>
      show getDoorStatusLines env door d = _
      unfold getDoorStatusLines
      rw [h.measure]
      dsimp only
      rw [show d.lines.motor = d.module.motor from rfl, h_position]
      rfl
  unfold callLines
  rw [h_act]
  dsimp only
  rw [h_report]

/-! ### LED tasks without a worker -/

/-- A step that neither starts nor stops the worker. -/
def IsLedUse : LedEv → Prop
  | .call _ | .workerSection | .sequenceDone => True
  | _ => False

/-- A task waits or makes room for another. -/
def LedWaits : LedOut → Prop
  | .enqueued _ | .dropped _ => True
  | _ => False

/-- **Step.** Without a worker no task is carried out. -/
theorem execLed_noWorker {s : LedWorker LedQueue} (h : s.worker = .absent) {e : LedEv}
    (h_e : IsLedUse e) :
    (execLed ringOps s e).1.worker = .absent ∧ ∀ o ∈ (execLed ringOps s e).2, LedWaits o := by
  cases e with
  | call c =>
    -- a task waits in the queue, or the full queue drops its oldest
    refine ⟨h, fun o h_o => ?_⟩
    have h_call : (execLed ringOps s (.call c)).2 = (listCall c s.queue.contents).2 :=
      (Prod.ext_iff.mp (enqueue_spec c s.queue)).2
    rw [h_call] at h_o
    unfold listCall at h_o
    dsimp only at h_o
    split_ifs at h_o
    · rw [List.mem_singleton.mp h_o]
      trivial
    · rcases List.mem_append.mp h_o with h_old | h_new
      · obtain ⟨t, -, rfl⟩ := List.mem_map.mp h_old
        trivial
      · rw [List.mem_singleton.mp h_new]
        trivial
  | workerSection =>
    -- nobody is there to take it
    have h_same : execLed ringOps s .workerSection = (s, []) := if_neg (by simp [h])
    rw [h_same]
    exact ⟨h, fun o h_o => absurd h_o List.not_mem_nil⟩
  | sequenceDone =>
    have h_same : execLed ringOps s .sequenceDone = (s, []) := by
      unfold execLed
      dsimp only
      rw [h]
    rw [h_same]
    exact ⟨h, fun o h_o => absurd h_o List.not_mem_nil⟩
  | workerInit created => exact h_e.elim
  | workerShutdown => exact h_e.elim
  | joined => exact h_e.elim

/-! ### Runs -/

/-- What the program shows is what it shows of a door that is not there. -/
def HubLocalOut.Inert : HubLocalOut → Prop
  | .operated _ body => body = template (operateMembers .UNKNOWN)
  | .localStatus mod body => body = template (localMembers mod .UNKNOWN)
  | .datagram _ => False
  | .led o => LedWaits o

/-- An answer of the API. -/
def HubLocalOut.isAnswer : HubLocalOut → Bool
  | .operated _ _ | .localStatus _ _ => true
  | .datagram _ | .led _ => false

/-- An LED task that is not carried out. -/
def HubLocalOut.Waits (o : HubLocalOut) : Prop := ∃ l, o = .led l ∧ LedWaits l

theorem HubLocalOut.Waits.inert {o : HubLocalOut} (h : o.Waits) : o.Inert := by
  obtain ⟨l, rfl, h_l⟩ := h
  exact h_l

theorem HubLocalOut.Waits.not_isAnswer {o : HubLocalOut} (h : o.Waits) : o.isAnswer = false := by
  obtain ⟨l, rfl, -⟩ := h
  rfl

theorem filter_isAnswer_of_waits {outs : List HubLocalOut} (h : ∀ o ∈ outs, o.Waits) :
    outs.filter HubLocalOut.isAnswer = [] := by
  refine List.filter_eq_nil_iff.mpr (fun o h_o => ?_)
  rw [(h o h_o).not_isAnswer]
  exact Bool.false_ne_true

/-- **Steps on the queue** leave everything else alone. -/
theorem ledSteps_spec {h : HubLocal ο} (h_worker : h.leds.worker = .absent) {es : List LedEv}
    (h_es : ∀ e ∈ es, IsLedUse e) :
    ∃ leds outs, h.ledSteps es = ({ h with leds := leds }, outs) ∧ leds.worker = .absent ∧
      ∀ o ∈ outs, o.Waits := by
  -- one step of the queue with its log
  have h_step : ∀ (sl : LedWorker LedQueue × List LedOut) e, IsLedUse e →
      (sl.1.worker = .absent ∧ ∀ o ∈ sl.2, LedWaits o) →
      (logged (execLed ringOps) sl e).1.worker = .absent ∧
        ∀ o ∈ (logged (execLed ringOps) sl e).2, LedWaits o := by
    rintro ⟨s, log⟩ e h_e ⟨h_s, h_log⟩
    obtain ⟨h_s', h_new⟩ := execLed_noWorker h_s h_e
    refine ⟨h_s', fun o h_o => ?_⟩
    rcases List.mem_append.mp h_o with h_old | h_o
    · exact h_log o h_old
    · exact h_new o h_o
  obtain ⟨h_leds, h_outs⟩ :
      (run (logged (execLed ringOps)) (h.leds, []) es).1.worker = .absent ∧
        ∀ o ∈ (run (logged (execLed ringOps)) (h.leds, []) es).2, LedWaits o :=
    run_invariant_of_forall
      (fun sl : LedWorker LedQueue × List LedOut =>
        sl.1.worker = .absent ∧ ∀ o ∈ sl.2, LedWaits o) h_step
      ⟨h_worker, fun o h_o => absurd h_o List.not_mem_nil⟩ h_es
  refine ⟨_, _, rfl, h_leds, fun o h_o => ?_⟩
  obtain ⟨out, h_out, rfl⟩ := List.mem_map.mp h_o
  exact ⟨out, rfl, h_outs out h_out⟩

/-- **A call of an operation** leaves LED tasks and nothing else. -/
theorem perform_spec {h : HubLocal ο} (h_lines : NoLines h.door)
    (h_worker : h.leds.worker = .absent) (kind : OpKind) (env : LineEnv) (door : DoorT) :
    ∃ leds outs, h.perform kind env door = ({ h with leds := leds }, notFound kind door, outs) ∧
      leds.worker = .absent ∧ ∀ o ∈ outs, o.Waits := by
  have h_uses : ∀ e ∈ (opLeds kind (env.onLines h.door.lines.gpio) h.door.module).map LedEv.call,
      IsLedUse e := by
    intro e h_e
    obtain ⟨c, -, rfl⟩ := List.mem_map.mp h_e
    trivial
  obtain ⟨leds, outs, h_steps, h_leds, h_outs⟩ := ledSteps_spec h_worker h_uses
  refine ⟨leds, outs, ?_, h_leds, h_outs⟩
  unfold HubLocal.perform
  rw [h_lines.call]
  dsimp only
  rw [h_steps]
  rfl

/-- The program at its start, with whatever `control_number` holds. -/
def HubLocal.boot (api : HttpApi) (files : Descriptors ο) (levels : Pin → Bool)
    (controlNumber : ℤ) : HubLocal ο where
  api := api
  door :=
    { lines := MotorOnLines.atZero (GpioState.boot files levels)
      lastKnownDoor := ⟨.UNKNOWN, 0⟩
      udp := DoorUdp.initial
      inCall := none }
  leds := LedWorker.initial emptyQueue
  door1 := ⟨.UNKNOWN, 0⟩
  controlNumber := controlNumber
  inMenu := true

/-- The answer to a request that comes to this. -/
def answerOf : ClientAct → Option HubLocalOut
  | .operate kind => some (.operated kind (template (operateMembers .UNKNOWN)))
  | .localStatus mod => some (.localStatus mod (template (localMembers mod .UNKNOWN)))
  | _ => none

/-- The answer to a request for the door of the program. -/
def answerTo (api : HttpApi) : HubLocalEv ο → Option HubLocalOut
  | .request data hub _ => answerOf (handleClient api data hub)
  | _ => none

/-- The door that is not there: no line is configured, the module and the levels on the lines are
those of the start, `door1` is UNKNOWN, and so is what the program shows. Each request for the door
has its answer. -/
structure HubDoorInert (api : HttpApi) (levels : Pin → Bool) (es : List (HubLocalEv ο))
    (r : HubLocal ο × List HubLocalOut) : Prop where
  api_eq : r.1.api = api
  lines : NoLines r.1.door
  module : r.1.door.module
    = DoorModule.initial (fun i => levels (motorPin i)) DoorUdp.initial
  levels : r.1.door.lines.gpio.levels = levels
  door1 : r.1.door1.state = .UNKNOWN
  noWorker : r.1.leds.worker = .absent
  outs : ∀ o ∈ r.2, o.Inert
  answers : r.2.filter HubLocalOut.isAnswer = es.filterMap (answerTo api)

section Step

variable {api : HttpApi} {levels : Pin → Bool} {es : List (HubLocalEv ο)} {h h' : HubLocal ο}
  {log outs : List HubLocalOut} {e : HubLocalEv ο}

theorem answers_concat {answer : Option HubLocalOut}
    (h_log : log.filter HubLocalOut.isAnswer = es.filterMap (answerTo api))
    (h_outs : outs.filter HubLocalOut.isAnswer = answer.toList) (h_e : answerTo api e = answer) :
    (log ++ outs).filter HubLocalOut.isAnswer = (es ++ [e]).filterMap (answerTo api) := by
  rw [List.filter_append, List.filterMap_append, h_log, h_outs, ← h_e]
  cases h_answer : answerTo api e <;> simp [h_answer]

/-- What a step may add. -/
theorem HubDoorInert.concat (h_inert : HubDoorInert api levels es (h, log)) (h_api : h'.api = h.api)
    (h_door : h'.door = h.door) (h_door1 : h'.door1.state = .UNKNOWN)
    (h_worker : h'.leds.worker = .absent) (h_outs : ∀ o ∈ outs, o.Inert)
    (h_answers : outs.filter HubLocalOut.isAnswer = (answerTo api e).toList) :
    HubDoorInert api levels (es ++ [e]) (h', log ++ outs) where
  api_eq := h_api.trans h_inert.api_eq
  lines := by
    rw [h_door]
    exact h_inert.lines
  module := by
    rw [h_door]
    exact h_inert.module
  levels := by
    rw [h_door]
    exact h_inert.levels
  door1 := h_door1
  noWorker := h_worker
  outs o h_o := (List.mem_append.mp h_o).elim (h_inert.outs o) (h_outs o)
  answers := answers_concat h_inert.answers h_answers rfl

/-- A step that answers nothing. -/
theorem HubDoorInert.concat_waits (h_inert : HubDoorInert api levels es (h, log))
    (h_api : h'.api = h.api) (h_door : h'.door = h.door) (h_door1 : h'.door1.state = .UNKNOWN)
    (h_worker : h'.leds.worker = .absent) (h_outs : ∀ o ∈ outs, o.Waits)
    (h_none : answerTo api e = none) :
    HubDoorInert api levels (es ++ [e]) (h', log ++ outs) :=
  h_inert.concat h_api h_door h_door1 h_worker (fun o h_o => (h_outs o h_o).inert)
    (by rw [h_none, filter_isAnswer_of_waits h_outs, Option.toList_none])

/-- A step that answers a request. -/
theorem HubDoorInert.concat_answer (h_inert : HubDoorInert api levels es (h, log))
    {leds : LedWorker LedQueue} (h_worker : leds.worker = .absent) (h_outs : ∀ o ∈ outs, o.Waits)
    {answer : HubLocalOut} (h_e : answerTo api e = some answer) (h_inert_answer : answer.Inert)
    (h_answer : answer.isAnswer = true) :
    HubDoorInert api levels (es ++ [e]) ({ h with leds := leds }, log ++ (outs ++ [answer])) := by
  refine h_inert.concat rfl rfl h_inert.door1 h_worker (fun o h_o => ?_) ?_
  · rcases List.mem_append.mp h_o with h_led | h_last
    · exact (h_outs o h_led).inert
    · rw [List.mem_singleton.mp h_last]
      exact h_inert_answer
  · rw [h_e, List.filter_append, filter_isAnswer_of_waits h_outs, List.nil_append,
      List.filter_cons_of_pos h_answer]
    rfl

/-- A file that is opened or closed does not concern the door. -/
theorem HubDoorInert.file (h_inert : HubDoorInert api levels es (h, log)) (op : GpioOp ο)
    (h_fds : (stepGpio h.door.lines.gpio op).gpioFds = h.door.lines.gpio.gpioFds)
    (h_levels : (stepGpio h.door.lines.gpio op).levels = h.door.lines.gpio.levels)
    (h_none : answerTo api e = none) :
    HubDoorInert api levels (es ++ [e])
      ({ h with door := { h.door with
          -- the file was opened by someone else: no line of the door is in use
          lines := { h.door.lines with gpio := stepGpio h.door.lines.gpio op } } }, log ++ []) where
  api_eq := h_inert.api_eq
  lines :=
    { unused := fun p => (congrArg GpioFd.inUse (congrFun h_fds p)).trans (h_inert.lines.unused p)
      position := h_inert.lines.position }
  module := by
    have h_module := h_inert.module
    unfold DoorOnLines.module MotorOnLines.motor coilsOf at h_module ⊢
    dsimp only at h_module ⊢
    rw [h_levels]
    exact h_module
  levels := h_levels.trans h_inert.levels
  door1 := h_inert.door1
  noWorker := h_inert.noWorker
  outs := by
    rw [List.append_nil]
    exact h_inert.outs
  answers := answers_concat h_inert.answers rfl h_none

end Step

theorem notFound_state (kind : OpKind) {door : DoorT} (h : door.state = .UNKNOWN) :
    (notFound kind door).state = .UNKNOWN := by
  cases kind
  · rfl
  · exact h
  · exact h

/-- **Step.** -/
theorem HubDoorInert.step {api : HttpApi} {levels : Pin → Bool} {es : List (HubLocalEv ο)}
    {r : HubLocal ο × List HubLocalOut} (h_inert : HubDoorInert api levels es r)
    (e : HubLocalEv ο) : HubDoorInert api levels (es ++ [e]) (logged execHubLocal r e) := by
  obtain ⟨h, log⟩ := r
  have h_api : h.api = api := h_inert.api_eq
  have h_nil : ∀ o ∈ ([] : List HubLocalOut), o.Waits := fun o h_o => absurd h_o List.not_mem_nil
  have h_leds : ∀ l, IsLedUse l → answerTo api e = none →
      HubDoorInert api levels (es ++ [e]) ((h.ledSteps [l]).1, log ++ (h.ledSteps [l]).2) := by
    intro l h_l h_none
    obtain ⟨leds, outs, h_steps, h_worker, h_outs⟩ :=
      ledSteps_spec h_inert.noWorker (List.forall_mem_singleton.mpr h_l)
    rw [h_steps]
    exact h_inert.concat_waits rfl rfl h_inert.door1 h_worker h_outs h_none
  unfold logged
  cases e with
  | request data hub env =>
    -- a request that nothing answers here leaves everything as it is
    have h_other : answerTo api (.request data hub env) = none →
        HubDoorInert api levels (es ++ [.request data hub env]) (h, log ++ []) :=
      h_inert.concat_waits rfl rfl h_inert.door1 h_inert.noWorker h_nil
    unfold execHubLocal
    dsimp only
    rw [h_api]
    cases h_client : handleClient api data hub with
    | operate kind =>
      obtain ⟨leds, outs, h_perform, h_worker, h_outs⟩ :=
        perform_spec h_inert.lines h_inert.noWorker kind env ⟨.UNKNOWN, 0⟩
      have h_body : operatedBody (notFound kind ⟨.UNKNOWN, 0⟩)
          = template (operateMembers .UNKNOWN) := by
        rw [operatedBody_eq, notFound_state kind rfl]
      dsimp only
      rw [h_perform]
      dsimp only
      rw [h_body]
      exact h_inert.concat_answer h_worker h_outs (congrArg answerOf h_client) rfl rfl
    | localStatus mod =>
      obtain ⟨leds, outs, h_perform, h_worker, h_outs⟩ :=
        perform_spec h_inert.lines h_inert.noWorker .status env ⟨.UNKNOWN, 0⟩
      have h_mod : mod.length < 32 := by
        rw [mod_of_localStatus h_client]
        exact api.gModuleId.fits
      dsimp only
      rw [h_perform]
      dsimp only
      rw [localStatusBody_eq mod h_mod]
      exact h_inert.concat_answer h_worker h_outs (congrArg answerOf h_client) rfl rfl
    | closed => exact h_other (congrArg answerOf h_client)
    | reply _ _ => exact h_other (congrArg answerOf h_client)
    | hubStatus _ => exact h_other (congrArg answerOf h_client)
    | send _ => exact h_other (congrArg answerOf h_client)
  | menuLine text env =>
    unfold execHubLocal HubLocal.menuLine
    dsimp only
    by_cases h_in : h.inMenu = true
    · rw [if_pos h_in]
      cases menuWord text with
      | invalid => exact h_inert.concat_waits rfl rfl h_inert.door1 h_inert.noWorker h_nil rfl
      | number n =>
        dsimp only
        cases menuOp n with
        | none => exact h_inert.concat_waits rfl rfl h_inert.door1 h_inert.noWorker h_nil rfl
        | some kind =>
          obtain ⟨leds, outs, h_perform, h_worker, h_outs⟩ :=
            perform_spec h_inert.lines h_inert.noWorker kind env h.door1
          dsimp only
          rw [h_perform]
          exact h_inert.concat_waits rfl rfl (notFound_state kind h_inert.door1) h_worker h_outs rfl
    · -- the menu has ended
      rw [if_neg h_in]
      exact h_inert.concat_waits rfl rfl h_inert.door1 h_inert.noWorker h_nil rfl
  | ledCall c => exact h_leds (.call c) trivial rfl
  | workerSection => exact h_leds .workerSection trivial rfl
  | sequenceDone => exact h_leds .sequenceDone trivial rfl
  | otherOpen file => exact h_inert.file (.otherOpen file) rfl rfl rfl
  | otherClose fd =>
    refine h_inert.file (.otherClose fd) ?_ ?_ rfl
    · unfold stepGpio execGpio
      dsimp only
      split <;> rfl
    · unfold stepGpio execGpio
      dsimp only
      split <;> rfl

end System

end DoorSystem
