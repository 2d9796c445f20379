import DoorSystem.Door.DoorMod
import DoorSystem.Lib.Run

/-!
# Two paths to `door_udp_update`

The reports at the end of the operations and the iterations of `heartbeat_worker` run in different
threads. Both turn a reading into the door bit of `door_udp_update`, but only the first checks that
the measurement succeeded. `updatesMeasured_iff`: a run reports no failed measurement exactly when
no iteration of the heartbeat thread has one.
-/

namespace DoorSystem

open CLib

namespace Door

/-! ### The two threads -/

/-- The operation of a call. -/
inductive OpKind
  | lock
  | unlock
  | status
deriving DecidableEq

/-- The acting part of a call. -/
def opAct : OpKind → CallEnv → DoorT → DoorModule → OpResult
  | .lock => lockDoorAct
  | .unlock => unlockDoorAct
  | .status => getDoorStatusAct

/-- The whole call. -/
def opCall : OpKind → CallEnv → DoorT → DoorModule → OpResult
  | .lock => lockDoor
  | .unlock => unlockDoor
  | .status => getDoorStatus

/-- What happens on a door module. -/
inductive DoorEv
  /-- A call acts, on the door object `door`. -/
  | act (kind : OpKind) (door : DoorT) (env : CallEnv)
  /-- The call that has acted reports. -/
  | report (distance : Reading) (now : ℤ)
  /-- The other thread runs one iteration of `heartbeat_worker`. -/
  | heartbeat (distance : Reading) (now : ℤ)

/-- The module, and the door object of a call that has acted and not yet reported. -/
structure DoorRun where
  module : DoorModule
  inCall : Option DoorT

/-- One event: the state afterwards and the effects. -/
def execEv (s : DoorRun) : DoorEv → DoorRun × List DoorEffect
  | .act kind door env =>
    match s.inCall with
    | none =>
      let r := opAct kind env door s.module
      (⟨r.state, some r.door⟩, r.effects)
    | some _ => (s, [])
  | .report distance now =>
    match s.inCall with
    | some door =>
      let (module, effects) := reportDoorStateUdp door distance now s.module
      (⟨module, none⟩, effects)
    | none => (s, [])
  | .heartbeat distance now =>
    let (module, effects) := heartbeatWorker distance now s.module
    ({ s with module := module }, effects)

/-- The effects of a run. -/
def effectsOf : DoorRun → List DoorEv → List DoorEffect
  | _, [] => []
  | s, e :: es => (execEv s e).2 ++ effectsOf (execEv s e).1 es

/-- A call whose report follows at once is the call itself. -/
theorem opCall_eq (kind : OpKind) (door : DoorT) (env : CallEnv) (s : DoorModule) :
    run (fun s e => (execEv s e).1) ⟨s, none⟩ [.act kind door env, .report env.report env.now]
        = ⟨(opCall kind env door s).state, none⟩ ∧
      effectsOf ⟨s, none⟩ [.act kind door env, .report env.report env.now]
        = (opCall kind env door s).effects := by
  cases kind with
  | lock => exact ⟨rfl, congrArg _ (List.append_nil _)⟩
  | unlock => exact ⟨rfl, congrArg _ (List.append_nil _)⟩
  | status => exact ⟨rfl, congrArg _ (List.append_nil _)⟩

/-! ### Failed measurements -/

/-- Every `door_udp_update` among the effects passes the door bit of a measurement that
succeeded. -/
def UpdatesMeasured (effects : List DoorEffect) : Prop :=
  ∀ reading report, .update reading report ∈ effects →
    reading.cm ≠ -1 ∧ report.d0Open = decide (DOOR_CLOSED_THRESHOLD_CM ≤ reading.cm)

theorem updatesMeasured_append {xs ys : List DoorEffect} :
    UpdatesMeasured (xs ++ ys) ↔ UpdatesMeasured xs ∧ UpdatesMeasured ys := by
  unfold UpdatesMeasured
  constructor
  · intro h
    exact ⟨fun r p h_mem => h r p (List.mem_append_left _ h_mem),
      fun r p h_mem => h r p (List.mem_append_right _ h_mem)⟩
  · rintro ⟨h_xs, h_ys⟩ r p h_mem
    rcases List.mem_append.mp h_mem with h | h
    · exact h_xs r p h
    · exact h_ys r p h

theorem updatesMeasured_nil : UpdatesMeasured [] := fun _ _ h => absurd h List.not_mem_nil

theorem updatesMeasured_steps (ps : List ℕ) : UpdatesMeasured (ps.map .step) := by
  intro r p h
  simp at h

/-- One update is measured if its reading is. -/
theorem updatesMeasured_updateFrom (distance : Reading) (now : ℤ) (s : DoorModule) :
    UpdatesMeasured (updateFrom distance now s).2 ↔ distance.cm ≠ -1 := by
  unfold updateFrom
  dsimp only
  constructor
  · intro h
    exact (h distance _ List.mem_cons_self).1
  · intro h_cm r p h_mem
    -- the update itself comes first, what follows is sent
    rcases List.mem_cons.mp h_mem with h_eq | h_mem
    · obtain ⟨rfl, rfl⟩ := DoorEffect.update.inj h_eq
      exact ⟨h_cm, rfl⟩
    · simp at h_mem

/-- Acting calls nothing but the motor. -/
theorem updatesMeasured_act (kind : OpKind) (env : CallEnv) (door : DoorT) (s : DoorModule) :
    UpdatesMeasured (opAct kind env door s).effects := by
  cases kind with
  | lock =>
    -- operations report through the helper, not by themselves
    show UpdatesMeasured (lockDoorAct env door s).effects
    unfold lockDoorAct
    dsimp only
    split_ifs
    · exact updatesMeasured_nil
    · exact updatesMeasured_nil
    · exact updatesMeasured_nil
    · exact updatesMeasured_steps _
  | unlock =>
    show UpdatesMeasured (unlockDoorAct env door s).effects
    unfold unlockDoorAct
    dsimp only
    split_ifs
    · exact updatesMeasured_nil
    · exact updatesMeasured_steps _
    all_goals exact updatesMeasured_nil
  | status =>
    show UpdatesMeasured (getDoorStatusAct env door s).effects
    unfold getDoorStatusAct
    dsimp only
    split_ifs <;> exact updatesMeasured_nil

/-- `report_door_state_udp` reports measurements only. -/
theorem updatesMeasured_report (door : DoorT) (distance : Reading) (now : ℤ) (s : DoorModule) :
    UpdatesMeasured (reportDoorStateUdp door distance now s).2 := by
  unfold reportDoorStateUdp
  split_ifs with h_error
  · exact updatesMeasured_nil
  · exact (updatesMeasured_updateFrom distance now s).mpr h_error

/-- The event is not an iteration of the heartbeat thread with a failed measurement. -/
def DoorEv.BeatMeasured (e : DoorEv) : Prop :=
  ∀ distance now, e = .heartbeat distance now → distance.cm ≠ -1

/-- **Step.** -/
theorem updatesMeasured_step (s : DoorRun) (e : DoorEv) :
    UpdatesMeasured (execEv s e).2 ↔ e.BeatMeasured := by
  obtain ⟨module, inCall⟩ := s
  cases e with
  | act kind door env =>
    -- a call acts only when none is under way
    refine iff_of_true ?_ (fun _ _ h => absurd h (by simp))
    cases inCall with
    | none => exact updatesMeasured_act kind env door module
    | some door' => exact updatesMeasured_nil
  | report distance now =>
    refine iff_of_true ?_ (fun _ _ h => absurd h (by simp))
    cases inCall with
    | none => exact updatesMeasured_nil
    | some door => exact updatesMeasured_report door distance now module
  | heartbeat distance now =>
    -- the reading goes into the update without a check
    refine (updatesMeasured_updateFrom distance now module).trans ⟨?_, fun h => h _ _ rfl⟩
    intro h_cm distance' now' h_eq
    rw [← (DoorEv.heartbeat.inj h_eq).1]
    exact h_cm

/-- **When a failed measurement is reported.** In every run of the door module, every
`door_udp_update` passes the door bit of a successful measurement if and only if every iteration
of `heartbeat_worker` measures successfully. -/
theorem updatesMeasured_iff (s : DoorRun) (es : List DoorEv) :
    UpdatesMeasured (effectsOf s es) ↔ ∀ e ∈ es, e.BeatMeasured := by
  -- each event is judged by itself, whatever the state it meets
  induction es generalizing s with
  | nil => exact iff_of_true updatesMeasured_nil (fun _ h => absurd h List.not_mem_nil)
  | cons e es ih =>
    show UpdatesMeasured ((execEv s e).2 ++ effectsOf (execEv s e).1 es) ↔ _
    rw [updatesMeasured_append, updatesMeasured_step, ih, List.forall_mem_cons]

/-- One iteration of the heartbeat thread whose measurement times out. -/
theorem not_updatesMeasured :
    ¬ UpdatesMeasured (effectsOf ⟨DoorModule.initial zeroPattern DoorUdp.initial, none⟩
      [.heartbeat Reading.error 1000]) := by
  intro h
  exact (h Reading.error _ List.mem_cons_self).1 rfl

end Door

end DoorSystem
