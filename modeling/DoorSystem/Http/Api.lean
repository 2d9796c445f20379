import DoorSystem.Http.Request
import DoorSystem.Door.Reporting
import DoorSystem.Hub.Fields
import DoorSystem.Hub.SendCommand

/-!
# The HTTP API of the hub process

`handle_client` behind its parsers. A client asks for a door by the id of its module, and two things
can answer to an id: a slot of the hub's door table, or the local id that `http_api_start` was given
and that stands for the door hardware of the hub process itself.

`handleClient` says who answers. Where that is another component (a door operation, or
`hub_udp_send_command`), the answer to the client is composed afterwards, by `localStatusEnd`,
`operateEnd` and `sendEnd`.
-/

namespace DoorSystem

open CLib

namespace Http

open Hub Door

/-- What the API is started with: `g_module_id`, and `HTTP_API_TOKEN` if it is set. -/
structure HttpApi where
  gModuleId : CharBuf 32
  expectedToken : Option CStr

/-- `http_api_start` on `g_module_id`. -/
def httpApiStart (localModuleId : Option CStr) (gModuleId : CharBuf 32) : CharBuf 32 :=
  match localModuleId with
  | some id => snprintf 32 id
  | none => gModuleId

/-- The API after its first start. -/
def HttpApi.started (localModuleId expectedToken : Option CStr) : HttpApi where
  gModuleId := httpApiStart localModuleId (CharBuf.zero 32)
  expectedToken := expectedToken

/-! ### Who answers -/

/-- What a request comes to. -/
inductive ClientAct
  /-- The connection is closed without an answer. -/
  | closed
  /-- The request is answered at once. -/
  | reply (statusCode : ℕ) (body : CStr)
  /-- The status in a slot of the hub is the answer. -/
  | hubStatus (st : HubDoorStatus)
  /-- `get_door_status` is called for a GET. -/
  | localStatus (mod : CStr)
  /-- A POST operates the door of the process itself. -/
  | operate (kind : OpKind)
  /-- `hub_udp_send_command` is called. -/
  | send (form : CommandForm)
deriving DecidableEq

/-- `GET /api/status`: the hub's table first, then the local id. -/
def statusAct (api : HttpApi) (mod : CStr) (h : HubState) : ClientAct :=
  match hubUdpGetStatus mod h with
  | some st => .hubStatus st
  | none =>
    if mod = api.gModuleId.str then .localStatus mod else .reply 200 (errorBody "no status")

/-- The operation that an action stands for. -/
def operateAct (action : CStr) : ClientAct :=
  if action = "LOCK".toList then .operate .lock
  else if action = "UNLOCK".toList then .operate .unlock
  else if action = "STATUS".toList then .operate .status
  else .reply 200 (errorBody "unknown action")

/-- The answer to a command that is not carried out. -/
def failedBody (reason : String) : CStr :=
  jsonObject [jsonField "result" (jsonString "failed".toList),
    jsonField "reason" (jsonString reason.toList)]

/-- `POST /api/command`: the local id first, then the hub's table. -/
def commandAct (api : HttpApi) (form : CommandForm) (h : HubState) : ClientAct :=
  if form.mod = api.gModuleId.str then operateAct form.action
  else
    match hubUdpGetStatus form.mod h with
    | some st =>
      if !st.hasLastAddr then .reply 200 (failedBody "no_route") else .send form
    | none => .reply 200 (failedBody "unknown_module")

/-- `handle_client` up to its answer, or up to its call of a door operation or of
`hub_udp_send_command`. -/
def handleClient (api : HttpApi) (data : List Char) (h : HubState) : ClientAct :=
  match clientRequest api.expectedToken data with
  | .closed => .closed
  | .reply statusCode body => .reply statusCode body
  | .status mod => statusAct api mod h
  | .command form => commandAct api form h

/-- The arguments of `hub_udp_send_command`: an absent target is passed as an empty string. -/
def CommandForm.call (form : CommandForm) : SendCall :=
  ⟨form.mod, form.target.getD [], form.action⟩

/-! ### Answers -/

/-- `"true"` or `"false"`. -/
def jsonBool (b : Bool) : CStr := if b then "true".toList else "false".toList

/-- The number of a `DoorState_t`. -/
def stateNumber : DoorState → ℤ
  | .LOCKED => 0
  | .UNLOCKED => 1
  | .OPEN => 2
  | .UNKNOWN => 3

/-- The answer from a slot of the hub. -/
def hubStatusBody (st : HubDoorStatus) : CStr :=
  (snprintf 512 (jsonObject [jsonField "module" (jsonString st.moduleId.str),
    jsonField "d0_open" (jsonBool st.d0Open),
    jsonField "d0_locked" (jsonBool st.d0Locked),
    jsonField "d1_open" (jsonBool st.d1Open),
    jsonField "d1_locked" (jsonBool st.d1Locked),
    jsonField "front_door_open" (jsonBool st.d0Open),
    jsonField "front_lock_locked" (jsonBool st.d1Locked),
    jsonField "lastHB" (fmtInt st.lastHeartbeatMs),
    jsonField "lastHBLine" (jsonString st.lastHeartbeatLine.str)])).str

/-- The answer to a GET from the door of the process. -/
def localStatusBody (mod : CStr) (door : DoorT) : CStr :=
  (snprintf 256 (jsonObject [jsonField "module" (jsonString mod),
    jsonField "state" (fmtInt (stateNumber door.state)),
    jsonField "front_door_open" (jsonBool (decide (door.state = .OPEN))),
    jsonField "front_lock_locked" (jsonBool (decide (door.state = .LOCKED)))])).str

/-- `get_door_status` for a GET, and the answer. -/
def localStatusEnd (mod : CStr) (env : CallEnv) (s : DoorModule) : OpResult × CStr :=
  let r := opCall .status env ⟨.UNKNOWN, 0⟩ s
  (r, localStatusBody mod r.door)

/-- The answer to a POST that operates the door of the process. -/
def operatedBody (door : DoorT) : CStr :=
  (snprintf 256 (jsonObject [jsonField "result" (jsonString "ok".toList),
    jsonField "state" (fmtInt (stateNumber door.state))])).str

/-- The operation of a POST, and the answer. -/
def operateEnd (kind : OpKind) (env : CallEnv) (s : DoorModule) : OpResult × CStr :=
  let r := opCall kind env ⟨.UNKNOWN, 0⟩ s
  (r, operatedBody r.door)

/-- The answer after `hub_udp_send_command` has returned. -/
def sendEnd (form : CommandForm) (sent : Bool) (h : HubState) : CStr :=
  if sent then
    match hubUdpGetStatus form.mod h with
    | none =>
      jsonObject [jsonField "result" (jsonString "ok".toList), jsonField "ack" (jsonBool true)]
    | some st =>
      (snprintf 512 (jsonObject [jsonField "result" (jsonString "ok".toList),
        jsonField "ack" (jsonBool true),
        jsonField "last_feedback_target" (jsonString st.lastFeedbackTarget.str),
        jsonField "last_feedback_action" (jsonString st.lastFeedbackAction.str),
        jsonField "last_feedback_ms" (fmtInt st.lastFeedbackMs)])).str
  else failedBody "no_ack"

/-- `send_response_status`. -/
def sendResponseStatus (statusCode : ℕ) (body : CStr) : CStr :=
  let statusText : String :=
    if statusCode = 401 then "Unauthorized"
    else if statusCode = 400 then "Bad Request"
    else if statusCode = 404 then "Not Found"
    else "OK"
  (snprintf 256 ("HTTP/1.1 ".toList ++ fmtInt statusCode ++ ' ' :: statusText.toList ++
    "\r\nContent-Type: application/json\r\nContent-Length: ".toList ++ fmtInt body.length ++
    "\r\n\r\n".toList)).str ++ body

/-! ### The two lookups -/

theorem hubUdpGetStatus_eq_some_iff {m : CStr} {h : HubState} {st : HubDoorStatus} :
    hubUdpGetStatus m h = some st ↔ ∃ d, findDoor m h.gDoors = some d ∧ h.gDoors d = st :=
  Option.map_eq_some_iff

/-- **GET.** The hub's table answers exactly for the modules it has. -/
theorem statusAct_eq_hubStatus_iff {api : HttpApi} {m : CStr} {h : HubState}
    {st : HubDoorStatus} : statusAct api m h = .hubStatus st ↔ hubUdpGetStatus m h = some st := by
  unfold statusAct
  cases hubUdpGetStatus m h with
  | some st' => exact ⟨fun h_eq => by rw [ClientAct.hubStatus.inj h_eq],
      fun h_eq => by rw [Option.some.inj h_eq]⟩
  | none =>
    dsimp only
    refine iff_of_false ?_ (by simp)
    split_ifs <;> simp

theorem operateAct_ne_send (action : CStr) (form : CommandForm) :
    operateAct action ≠ .send form := by
  unfold operateAct
  split_ifs <;> simp

/-- **POST.** A command is handed to the hub exactly when its module is not the local one and has a
route. -/
theorem commandAct_eq_send_iff {api : HttpApi} {form : CommandForm} {h : HubState} :
    commandAct api form h = .send form ↔
      form.mod ≠ api.gModuleId.str ∧ ∃ d, Route form.mod h d := by
  unfold commandAct
  split_ifs with h_local
  · -- commands for the local module are carried out here
    exact iff_of_false (operateAct_ne_send _ _) (fun h_both => h_both.1 h_local)
  · refine Iff.trans ?_ (and_iff_right h_local).symm
    unfold hubUdpGetStatus Route
    cases h_find : findDoor form.mod h.gDoors with
    | none =>
      -- the hub does not know the module
      refine iff_of_false (by simp) ?_
      rintro ⟨d, h_d, -⟩
      exact absurd h_d (by simp)
    | some d =>
      dsimp only [Option.map_some]
      cases h_addr : (h.gDoors d).hasLastAddr with
      -- the module has an address
      | true => exact iff_of_true rfl ⟨d, rfl, h_addr⟩
      | false =>
        refine iff_of_false (by simp) ?_
        rintro ⟨d', h_d, h_true⟩
        obtain rfl := Option.some.inj h_d
        rw [h_addr] at h_true
        exact absurd h_true (by simp)

/-- A request that is handed to the hub is a POST. -/
theorem request_of_send {api : HttpApi} {data : List Char} {h : HubState} {form : CommandForm}
    (h_send : handleClient api data h = .send form) :
    clientRequest api.expectedToken data = .command form ∧
      commandAct api form h = .send form := by
  unfold handleClient at h_send
  split at h_send
  · exact absurd h_send (by simp)
  · exact absurd h_send (by simp)
  · next mod _ =>
    -- a GET is answered from the table or by a measurement
    unfold statusAct at h_send
    split at h_send
    · exact absurd h_send (by simp)
    · split_ifs at h_send
  · next form' h_request =>
    -- the form that is handed on is the one that was parsed
    have h_form : form' = form := by
      unfold commandAct at h_send
      split_ifs at h_send
      · exact absurd h_send (operateAct_ne_send _ _)
      · split at h_send
        · split_ifs at h_send
          exact ClientAct.send.inj h_send
        · exact absurd h_send (by simp)
    rw [h_form] at h_request h_send
    exact ⟨h_request, h_send⟩

end Http

end DoorSystem
