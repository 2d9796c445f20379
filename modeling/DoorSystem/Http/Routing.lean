import DoorSystem.Http.Api

/-!
# One id, two doors

A GET looks for a module in the hub's table before it looks at the local id, and a POST looks the
other way round. So a module that the hub knows and that has the id of the hub process itself is
read over the network and operated at the hub.

`delivered_iff`: after a GET that the hub's table answered for a module with a return address, a
POST for the module reaches it exactly when the id is not the one that `http_api_start` was given.
-/

namespace DoorSystem

open CLib

namespace Http

open Hub Door

/-- A GET that the hub's table answers for the module `mod`, which has a return address, and a later
POST for the same module. -/
structure GetThenPost where
  localModuleId : Option CStr
  expectedToken : Option CStr
  url : CharBuf 512
  mod : CStr
  /-- The slot that answers the GET. -/
  st : HubDoorStatus
  getData : List Char
  postData : List Char
  form : CommandForm
  /-- What happens to the hub before the GET. -/
  past : List HubEv
  /-- What happens until the POST looks at the table. -/
  later : List HubEv
  /-- What happens until the call that the POST makes looks at the table. -/
  meanwhile : List HubEv
  get_mod : clientRequest expectedToken getData = .status mod
  post_mod : clientRequest expectedToken postData = .command form
  same : form.mod = mod
  answered : handleClient (.started localModuleId expectedToken) getData (reached url past)
    = .hubStatus st
  hasAddr : st.hasLastAddr = true

namespace GetThenPost

variable (R : GetThenPost)

/-- The API of the process. -/
def api : HttpApi := .started R.localModuleId R.expectedToken

/-- The hub when the POST looks at its table. -/
def hubAtPost : HubState := run step (reached R.url R.past) R.later

/-- The hub when `hub_udp_send_command` looks at its table. -/
def hubAtCall : HubState := run step R.hubAtPost R.meanwhile

/-- The POST goes to the remote module and not to the motor of the hub process. -/
structure Delivered : Prop where
  handed : handleClient R.api R.postData R.hubAtPost = .send R.form
  notOperated : ∀ kind, handleClient R.api R.postData R.hubAtPost ≠ .operate kind
  /-- The command is sent to the address of the module's slot. -/
  sent : ∃ d, findDoor R.mod R.hubAtCall.gDoors = some d ∧
    (beginSend R.form.call R.hubAtCall).2
      = .sending ⟨d, (R.hubAtCall.gDoors d).lastAddr, R.hubAtCall.gNextCmdid⟩ 0

/-- The module of the GET has a route. -/
theorem exists_route : ∃ d, Route R.mod (reached R.url R.past) d := by
  have h_answered := R.answered
  unfold handleClient at h_answered
  have h_token : (HttpApi.started R.localModuleId R.expectedToken).expectedToken
      = R.expectedToken := rfl
  rw [h_token, R.get_mod] at h_answered
  dsimp only at h_answered
  rw [statusAct_eq_hubStatus_iff, hubUdpGetStatus_eq_some_iff] at h_answered
  obtain ⟨d, h_find, h_st⟩ := h_answered
  refine ⟨d, h_find, ?_⟩
  rw [h_st]
  exact R.hasAddr

/-- It keeps the route through everything that happens to the hub. -/
theorem exists_route_later :
    ∃ d, Route R.mod R.hubAtPost d ∧ Route R.mod R.hubAtCall d := by
  obtain ⟨d, h_route⟩ := R.exists_route
  have h_pack := slotsPacked_reached R.url R.past
  have h_post : Route R.mod R.hubAtPost d := h_route.run h_pack R.later
  have h_pack_post : SlotsPacked R.hubAtPost.gDoors := by
    unfold hubAtPost
    exact run_invariant (fun h : HubState => SlotsPacked h.gDoors)
      (fun _ e h_pack => h_pack.step e) h_pack R.later
  exact ⟨d, h_post, h_post.run h_pack_post R.meanwhile⟩

/-- The id of a module with a slot is the local one only if it is what the API was started with. -/
theorem mod_eq_gModuleId_iff : R.mod = R.api.gModuleId.str ↔ R.localModuleId = some R.mod := by
  obtain ⟨d, h_find, -⟩ := R.exists_route
  -- an id in the table is a word of at most 15 characters
  obtain ⟨h_text, h_fits⟩ := isText_of_holds (holds_of_findDoor h_find)
  have h_word : R.mod ≠ [] := h_text.1.1
  have h_len : R.mod.length < 16 := h_fits
  unfold api HttpApi.started httpApiStart
  cases R.localModuleId with
  | none =>
    dsimp only
    rw [CharBuf.zero_str]
    exact iff_of_false h_word (by simp)
  | some id =>
    dsimp only
    rw [snprintf_str, Option.some.injEq]
    constructor
    · intro h_cut
      -- the local id is not cut, or it would be longer than an id of the table
      have h_cut_len := congrArg List.length h_cut
      rw [List.length_take] at h_cut_len
      rw [h_cut, List.take_of_length_le (by omega)]
    · rintro rfl
      exact (List.take_of_length_le (by omega)).symm

theorem handleClient_post (h : HubState) :
    handleClient R.api R.postData h = commandAct R.api R.form h := by
  have h_token : R.api.expectedToken = R.expectedToken := rfl
  unfold handleClient
  rw [h_token, R.post_mod]

/-- **Where a POST goes.** A POST for a module that a GET finds in the hub's table is delivered to
it if and only if the API was not started with the module's id. -/
theorem delivered_iff : Delivered R ↔ R.localModuleId ≠ some R.mod := by
  rw [Ne, ← R.mod_eq_gModuleId_iff]
  -- the route is there at the POST and at the call, so only the local id decides
  obtain ⟨d, h_post, h_call⟩ := R.exists_route_later
  constructor
  · rintro ⟨h_handed, -, -⟩
    rw [R.handleClient_post, commandAct_eq_send_iff, R.same] at h_handed
    exact h_handed.1
  · intro h_remote
    have h_handed : handleClient R.api R.postData R.hubAtPost = .send R.form := by
      rw [R.handleClient_post, commandAct_eq_send_iff, R.same]
      exact ⟨h_remote, d, h_post⟩
    refine ⟨h_handed, fun kind => ?_, d, h_call.1, ?_⟩
    · rw [h_handed]
      simp
    · have h_route : Route R.form.call.moduleId R.hubAtCall d := by
        show Route R.form.mod R.hubAtCall d
        rw [R.same]
        exact h_call
      rw [beginSend_route h_route]
      rfl

end GetThenPost

/-- A hub process with an id of its own, and a door module D1 that has said HELLO: a GET for D1 is
answered from the table, and a POST for D1 comes in. -/
def namedHub : GetThenPost where
  localModuleId := some "HUB".toList
  expectedToken := none
  url := CharBuf.zero _
  mod := "D1".toList
  st := (reached (CharBuf.zero _) [bareDatagram "D1 HELLO\n".toList]).gDoors 0
  getData := "GET /api/status?module=D1 HTTP/1.1\r\n\r\n".toList
  postData := "POST /api/command HTTP/1.1\r\n\r\nmodule=D1&target=D0&action=LOCK".toList
  form := ⟨"D1".toList, some "D0".toList, "LOCK".toList⟩
  past := [bareDatagram "D1 HELLO\n".toList]
  later := []
  meanwhile := []
  get_mod := by decide +kernel
  post_mod := by decide +kernel
  same := rfl
  answered := by decide +kernel
  hasAddr := by decide +kernel

theorem delivered_namedHub : namedHub.Delivered := namedHub.delivered_iff.mpr (by decide)

/-- The same, but the hub process is started without arguments and takes the id D1. -/
def defaultHub : GetThenPost :=
  { namedHub with
    localModuleId := some "D1".toList
    answered := by decide +kernel }

/-- The POST locks the door of the hub process. -/
theorem not_delivered : ¬ defaultHub.Delivered := by
  intro h_delivered
  refine h_delivered.notOperated .lock ?_
  decide +kernel

end Http

end DoorSystem
