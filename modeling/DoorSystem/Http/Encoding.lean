import DoorSystem.Http.Api
import DoorSystem.Door.Handler

/-!
# From a form to a COMMAND line and back

A POST is decoded from a form, encoded as one line with blanks between its fields, and decoded at
the door by `strtok_r`, which knows no empty fields and cuts at every blank. The form parser lets
everything through: a target may be absent, and target and action may be empty or hold blanks.

`roundTrips_iff`: the door's handler is called with the values of the form exactly when target and
action are words and the line has room in its buffer.
-/

namespace DoorSystem

open CLib

namespace Http

open Hub Door

/-- A POST that `handle_client` hands to `hub_udp_send_command`. -/
structure AcceptedCommand where
  api : HttpApi
  url : CharBuf 512
  data : List Char
  form : CommandForm
  /-- What happens to the hub before the request. -/
  past : List HubEv
  /-- What happens until the call looks at the table. -/
  meanwhile : List HubEv
  accepted : handleClient api data (reached url past) = .send form

namespace AcceptedCommand

variable (A : AcceptedCommand)

/-- The hub when `hub_udp_send_command` looks at its table. -/
def hubAtCall : HubState := reached A.url (A.past ++ A.meanwhile)

/-- The number that the call takes. -/
def cmdid : ℤ := A.hubAtCall.gNextCmdid

/-- The line that the call sends. -/
def line : CStr := sendLine A.form.call A.cmdid

/-- The values that the client asked for: an absent target is an empty one. -/
def asked : CmdWords := ⟨A.form.mod, A.cmdid, A.form.target.getD [], A.form.action⟩

/-- The line is sent and the door reads the client's values from it. -/
structure RoundTrips : Prop where
  sent : ∃ d dest, (beginSend A.form.call A.hubAtCall).2 = .sending ⟨d, dest, A.cmdid⟩ 0
  decoded : commandOf (lineTokens (datagramLine A.line)) = some A.asked
  /-- A door with the module's id calls its handler with them. -/
  handled : ∀ env s, s.udp.gModuleId.str = A.form.mod → s.udp.gCmdHandler = true →
    doorCmdDatagram A.line env s
      = appCommandHandler A.form.mod A.cmdid (A.form.target.getD []) A.form.action env s

/-- What the line protocol can carry. -/
structure Encodable : Prop where
  target : IsWord (A.form.target.getD [])
  action : IsWord A.form.action
  /-- Everything but the newline fits. -/
  room : (commandLine A.form.mod A.cmdid (A.form.target.getD []) A.form.action).length ≤ 256

theorem exists_route : ∃ d, Route A.form.mod (reached A.url A.past) d :=
  (commandAct_eq_send_iff.mp (request_of_send A.accepted).2).2

/-- The call finds the route that the request was accepted for. -/
theorem exists_beginSend :
    ∃ d dest, (beginSend A.form.call A.hubAtCall).2 = .sending ⟨d, dest, A.cmdid⟩ 0 := by
  obtain ⟨d, h_route⟩ := A.exists_route
  -- a route is never lost
  have h_later := h_route.run (slotsPacked_reached A.url A.past) A.meanwhile
  have h_hub : A.hubAtCall = run step (reached A.url A.past) A.meanwhile := run_append _ _ _ _
  have h_call : Route A.form.call.moduleId A.hubAtCall d := h_hub ▸ h_later
  refine ⟨d, (A.hubAtCall.gDoors d).lastAddr, ?_⟩
  rw [beginSend_route h_call]
  rfl

/-- The module of an accepted command is the id of a slot. -/
theorem isText_mod : IsText A.form.mod ∧ A.form.mod.length ≤ 15 := by
  obtain ⟨d, h_find, -⟩ := A.exists_route
  obtain ⟨h_text, h_fits⟩ := isText_of_holds (holds_of_findDoor h_find)
  exact ⟨h_text, Nat.le_of_lt_succ h_fits⟩

/-- **When the door is told what the client asked for.** -/
theorem roundTrips_iff : RoundTrips A ↔ Encodable A := by
  obtain ⟨h_text, h_fits⟩ := A.isText_mod
  obtain ⟨h_target, h_action⟩ := noNul_of_command (request_of_send A.accepted).1
  have h_target_nul : Char.ofNat 0 ∉ A.form.target.getD [] := by
    cases h_t : A.form.target with
    | none => exact List.not_mem_nil
    | some v => exact h_target v h_t
  have h_id : InInt A.cmdid := inInt_gNextCmdid A.url (A.past ++ A.meanwhile)
  -- the line is read back exactly when its words can be sent
  have h_sent := commandOf_sent_iff h_text h_fits h_id h_target_nul h_action
  constructor
  · rintro ⟨-, h_decoded, -⟩
    obtain ⟨h_t, h_a, h_room⟩ := h_sent.mp h_decoded
    exact ⟨h_t, h_a, h_room⟩
  · rintro ⟨h_t, h_a, h_room⟩
    have h_decoded : commandOf (lineTokens (datagramLine A.line)) = some A.asked :=
      h_sent.mpr ⟨h_t, h_a, h_room⟩
    refine ⟨A.exists_beginSend, h_decoded, fun env s h_mod h_handler => ?_⟩
    -- the handler is called for a line of the own module
    have h_own : A.asked.mod = s.udp.gModuleId.str := h_mod.symm
    unfold doorCmdDatagram
    rw [h_decoded]
    dsimp only
    rw [if_pos h_own, if_pos h_handler]
    rfl

end AcceptedCommand

/-- A POST for a door that has said HELLO. -/
def targeted : AcceptedCommand where
  api := .started none none
  url := CharBuf.zero _
  data := "POST /api/command HTTP/1.1\r\n\r\nmodule=D1&target=D0&action=LOCK".toList
  form := ⟨"D1".toList, some "D0".toList, "LOCK".toList⟩
  past := [bareDatagram "D1 HELLO\n".toList]
  meanwhile := []
  accepted := by decide +kernel

theorem roundTrips_targeted : targeted.RoundTrips :=
  targeted.roundTrips_iff.mpr ⟨by decide, by decide, by decide +kernel⟩

/-- A POST without a target, for a door that has said HELLO. -/
def untargeted : AcceptedCommand where
  api := .started none none
  url := CharBuf.zero _
  data := "POST /api/command HTTP/1.1\r\n\r\nmodule=D1&action=LOCK".toList
  form := ⟨"D1".toList, none, "LOCK".toList⟩
  past := [bareDatagram "D1 HELLO\n".toList]
  meanwhile := []
  accepted := by decide +kernel

/-- Its line has one word too few for a COMMAND. -/
theorem not_roundTrips : ¬ untargeted.RoundTrips := by
  intro h_trip
  have h_lost : commandOf (lineTokens (datagramLine untargeted.line)) = none := by decide +kernel
  rw [h_trip.decoded] at h_lost
  exact absurd h_lost (by simp)

end Http

end DoorSystem
