import DoorSystem.Http.Gate
import DoorSystem.Hub.Isolation
import DoorSystem.Hub.Membership
import DoorSystem.Hub.Relay

/-!
# Requests that come in pieces

`handle_client` calls `recv` once and parses what it got; there is no loop that waits for the rest
of a request. So a request that TCP delivers in several segments is answered from its first segment,
and the Content-Length is not looked at.

`segmentsSettled` says when nobody can tell: the first segment must ask for the same as the whole
request (`AsksSame`). A GET asks for the same as soon as the first segment holds its head.
-/

namespace DoorSystem

open CLib

namespace Http

open Hub Door

/-! ### Segments -/

/-- A request of at most 8191 bytes, and the segments in which it arrives. -/
structure SplitRequest where
  api : HttpApi
  data : List Char
  fits : data.length ≤ 8191
  segments : List (List Char)
  joined : segments.flatten = data
  nonempty : ∀ s ∈ segments, s ≠ []

/-- What the one call of `recv` returns; nothing if the client has sent nothing. -/
def SplitRequest.received (S : SplitRequest) : List Char := S.segments.headD []

/-- `handle_client` on a connection that delivers the segments: `rc <= 0` closes it. -/
def clientAct (api : HttpApi) (segments : List (List Char)) (h : HubState) : ClientAct :=
  match segments with
  | [] => .closed
  | s :: _ => handleClient api s h

/-- `handle_client` on a connection, with its answer. -/
def serveConnection (api : HttpApi) (segments : List (List Char)) (env : CallEnv)
    (during : List SendEv) (b : Backend) : Backend × Option CStr :=
  match segments with
  | [] => (b, none)
  | s :: _ => serveClient api s env during b

/-- The action as it is seen from outside: `hub_udp_send_command` does not see whether its empty
target was in the form. -/
def ClientAct.seen : ClientAct → ClientAct
  | .send form => .send ⟨form.mod, some (form.target.getD []), form.action⟩
  | act => act

/-- **Segmentation does not matter**: in every state that the hub can be in, the action is the one
for the whole request in one segment, and so is the answer. -/
def SegmentsDoNotMatter (S : SplitRequest) : Prop :=
  ∀ url past,
    (clientAct S.api S.segments (reached url past)).seen
        = (clientAct S.api [S.data] (reached url past)).seen ∧
      ∀ env during door,
        serveConnection S.api S.segments env during ⟨reached url past, door⟩
          = serveConnection S.api [S.data] env during ⟨reached url past, door⟩

/-- The hub can have a slot for the id. -/
def Nameable (m : CStr) : Prop := IsText m ∧ m.length ≤ 15

/-- Two requests that get the same treatment from the API. -/
inductive AsksSame (api : HttpApi) : ClientRequest → ClientRequest → Prop
  | same (r : ClientRequest) : AsksSame api r r
  /-- Both operate the door of the process itself, in the same way. -/
  | operation {f f' : CommandForm} (h : f.mod = api.gModuleId.str)
      (h' : f'.mod = api.gModuleId.str) (h_act : operateAct f.action = operateAct f'.action) :
      AsksSame api (.command f) (.command f')
  /-- Both make the same call of `hub_udp_send_command`, if they make any. -/
  | call {f f' : CommandForm} (h : f.mod ≠ api.gModuleId.str) (h_call : f.call = f'.call) :
      AsksSame api (.command f) (.command f')
  /-- Both are for modules that the hub never knows. -/
  | unknownModule {f f' : CommandForm} (h : f.mod ≠ api.gModuleId.str)
      (h' : f'.mod ≠ api.gModuleId.str) (h_m : ¬ Nameable f.mod) (h_m' : ¬ Nameable f'.mod) :
      AsksSame api (.command f) (.command f')
  | noStatus {m m' : CStr} (h : m ≠ api.gModuleId.str) (h' : m' ≠ api.gModuleId.str)
      (h_m : ¬ Nameable m) (h_m' : ¬ Nameable m') : AsksSame api (.status m) (.status m')

/-! ### What a request comes to -/

/-- The action for a request that is parsed. -/
def requestAct (api : HttpApi) (r : ClientRequest) (h : HubState) : ClientAct :=
  match r with
  | .closed => .closed
  | .reply statusCode body => .reply statusCode body
  | .status mod => statusAct api mod h
  | .command form => commandAct api form h

theorem handleClient_eq (api : HttpApi) (data : List Char) (h : HubState) :
    handleClient api data h = requestAct api (clientRequest api.expectedToken data) h := rfl

theorem SplitRequest.clientAct_segments (S : SplitRequest) (h : HubState) :
    clientAct S.api S.segments h = handleClient S.api S.received h := by
  unfold clientAct SplitRequest.received
  cases S.segments with
  | nil => rfl
  | cons s segments => rfl

theorem SplitRequest.serveConnection_segments (S : SplitRequest) (env : CallEnv)
    (during : List SendEv) (b : Backend) :
    serveConnection S.api S.segments env during b
      = answerAct (clientAct S.api S.segments b.hub) env during b := by
  unfold serveConnection clientAct
  cases S.segments with
  | nil => rfl
  | cons s segments => rfl

/-- A GET for a module that the hub does not know. -/
theorem statusAct_of_unknown {api : HttpApi} {m : CStr} {h : HubState}
    (h_m : hubUdpGetStatus m h = none) : statusAct api m h =
      if m = api.gModuleId.str then .localStatus m else .reply 200 (errorBody "no status") := by
  unfold statusAct
  rw [h_m]

/-- A POST for the door of the process itself. -/
theorem commandAct_of_local {api : HttpApi} {f : CommandForm} (h_f : f.mod = api.gModuleId.str)
    (h : HubState) : commandAct api f h = operateAct f.action := if_pos h_f

/-- A POST for a module that the hub does not know. -/
theorem commandAct_of_unknown {api : HttpApi} {f : CommandForm} {h : HubState}
    (h_f : f.mod ≠ api.gModuleId.str) (h_m : hubUdpGetStatus f.mod h = none) :
    commandAct api f h = .reply 200 (failedBody "unknown_module") := by
  unfold commandAct
  rw [if_neg h_f, h_m]

/-- A POST for a module with a route. -/
theorem commandAct_of_route {api : HttpApi} {f : CommandForm} {h : HubState} {st : HubDoorStatus}
    (h_f : f.mod ≠ api.gModuleId.str) (h_m : hubUdpGetStatus f.mod h = some st)
    (h_addr : st.hasLastAddr = true) : commandAct api f h = .send f := by
  unfold commandAct
  rw [if_neg h_f, h_m]
  exact if_neg (by simp [h_addr])

/-- The call is what is seen of a command for a module. -/
theorem call_eq_of_seen {f f' : CommandForm}
    (h : (ClientAct.send f).seen = (ClientAct.send f').seen) : f.call = f'.call := by
  have h_form := ClientAct.send.inj h
  rw [CommandForm.mk.injEq, Option.some.injEq] at h_form
  unfold CommandForm.call
  rw [h_form.1, h_form.2.1, h_form.2.2]

/-- The answer depends on what is seen of the action. -/
theorem answerAct_congr {act act' : ClientAct} (h : act.seen = act'.seen) :
    answerAct act = answerAct act' := by
  cases act with
  | send form =>
    -- what can be seen of a call is its arguments, and the answer looks up the same module
    cases act' with
    | send form' =>
      have h_call := call_eq_of_seen h
      have h_end : sendEnd form = sendEnd form' := by
        have h_mod : form.mod = form'.mod := (SendCall.mk.inj h_call).1
        unfold sendEnd
        rw [h_mod]
      funext env during b
      unfold answerAct
      dsimp only
      rw [h_call, h_end]
    | _ => exact absurd h (by simp [ClientAct.seen])
  | closed => cases act' <;> first | rfl | exact absurd h (by simp [ClientAct.seen])
  | reply statusCode body =>
    cases act' <;> first | exact congrArg answerAct h | exact absurd h (by simp [ClientAct.seen])
  | hubStatus st =>
    cases act' <;> first | exact congrArg answerAct h | exact absurd h (by simp [ClientAct.seen])
  | localStatus mod =>
    cases act' <;> first | exact congrArg answerAct h | exact absurd h (by simp [ClientAct.seen])
  | operate kind =>
    cases act' <;> first | exact congrArg answerAct h | exact absurd h (by simp [ClientAct.seen])

/-- So only the actions count. -/
theorem segmentsDoNotMatter_iff_acts (S : SplitRequest) :
    SegmentsDoNotMatter S ↔ ∀ url past,
      (requestAct S.api (clientRequest S.api.expectedToken S.received) (reached url past)).seen
        = (requestAct S.api (clientRequest S.api.expectedToken S.data)
            (reached url past)).seen := by
  unfold SegmentsDoNotMatter
  simp only [S.serveConnection_segments, S.clientAct_segments, handleClient_eq]
  constructor
  · intro h url past
    exact (h url past).1
  · intro h url past
    refine ⟨h url past, fun env during door => ?_⟩
    show _ = answerAct (handleClient S.api S.data (reached url past)) env during _
    rw [handleClient_eq, answerAct_congr (h url past)]

/-! ### The hubs that tell requests apart -/

/-- The hub never knows an id that is no word of at most 15 characters. -/
theorem hubUdpGetStatus_of_not_nameable {m : CStr} (h_m : ¬ Nameable m) (url : CharBuf 512)
    (past : List HubEv) : hubUdpGetStatus m (reached url past) = none := by
  by_contra h_known
  exact h_m (isText_of_known h_known)

/-- A HELLO of the module `m`. -/
def helloOf (m : CStr) : HubEv :=
  .datagram (snprintf 256 (spaced [m, "HELLO".toList] ++ ['\n'])).str SockAddr.zero 0 0

theorem hubUdpGetStatus_initial (m : CStr) (url : CharBuf 512) :
    hubUdpGetStatus m (reached url []) = none := by
  unfold hubUdpGetStatus
  rw [findDoor_eq_none_iff.mpr, Option.map_none]
  intro i h_i
  exact absurd h_i.1 Bool.false_ne_true

theorem words_helloOf {m : CStr} (h_m : Nameable m) : (helloOf m).words = [m, "HELLO".toList] := by
  refine lineTokens_sent ?_ ?_
  · simp only [List.forall_mem_cons]
    exact ⟨h_m.1, by decide, by simp⟩
  · have h_fits := h_m.2
    have h_five : "HELLO".toList.length = 5 := rfl
    rw [spaced_cons_cons, spaced_singleton, List.length_append, List.length_append,
      List.length_cons, List.length_singleton]
    omega

/-- After its HELLO a module has a return address. -/
theorem hubUdpGetStatus_helloOf {m : CStr} (h_m : Nameable m) (url : CharBuf 512) :
    ∃ st, hubUdpGetStatus m (reached url [helloOf m]) = some st ∧ st.hasLastAddr = true := by
  obtain ⟨t, h_st⟩ := hubUdpGetStatus_step_self (words_helloOf h_m) (Nat.lt_succ_of_le h_m.2)
    (hasSlot_initial url m)
  exact ⟨_, h_st, (dispatchStatus_route _ _ _ _ _).1⟩

/-- And the hub knows no other one. -/
theorem hubUdpGetStatus_helloOf_of_ne {m m' : CStr} (h_m : Nameable m) (h_ne : m' ≠ m)
    (url : CharBuf 512) : hubUdpGetStatus m' (reached url [helloOf m]) = none :=
  (hubUdpGetStatus_step_of_ne (words_helloOf h_m) (Nat.lt_succ_of_le h_m.2) h_ne _).trans
    (hubUdpGetStatus_initial m' url)

/-! ### Requests that ask for the same -/

/-- The bodies with which the parser answers. -/
def parserBodies : List CStr :=
  ["unauthorized", "missing module", "unknown endpoint", "missing fields", "no body"].map errorBody

theorem mem_parserBodies {expectedToken : Option CStr} {data : List Char} {statusCode : ℕ}
    {body : CStr} (h : clientRequest expectedToken data = .reply statusCode body) :
    body ∈ parserBodies := by
  -- branch by branch, as the parser runs
  unfold clientRequest at h
  dsimp only at h
  split at h
  · split_ifs at h
    · exact (ClientRequest.reply.inj h).2 ▸ by simp [parserBodies]
    · split at h
      · exact absurd h (by simp)
      · exact (ClientRequest.reply.inj h).2 ▸ by simp [parserBodies]
    · unfold commandRequest at h
      split at h
      · split at h
        · exact absurd h (by simp)
        · exact (ClientRequest.reply.inj h).2 ▸ by simp [parserBodies]
      · exact (ClientRequest.reply.inj h).2 ▸ by simp [parserBodies]
    · exact (ClientRequest.reply.inj h).2 ▸ by simp [parserBodies]
  · exact absurd h (by simp)

/-- **Requests that ask for the same get the same action**, in every state that the hub can be
in. -/
theorem AsksSame.seen_eq {api : HttpApi} {r r' : ClientRequest} (h : AsksSame api r r')
    (url : CharBuf 512) (past : List HubEv) :
    (requestAct api r (reached url past)).seen = (requestAct api r' (reached url past)).seen := by
  cases h with
  | same r => rfl
  | operation h_f h_f' h_act =>
    -- two commands for the local module
    show (commandAct api _ _).seen = (commandAct api _ _).seen
    rw [commandAct_of_local h_f, commandAct_of_local h_f', h_act]
  | call h_f h_call =>
    -- two commands for another module: the same route, or none
    obtain ⟨h_mod, h_target, h_action⟩ := SendCall.mk.inj h_call
    unfold requestAct commandAct
    dsimp only
    rw [if_neg h_f, if_neg (h_mod ▸ h_f), ← h_mod]
    split
    · split_ifs
      · rfl
      · unfold ClientAct.seen
        dsimp only
        rw [h_mod, h_target, h_action]
    · rfl
  | unknownModule h_f h_f' h_m h_m' =>
    -- two commands for ids that no slot can have
    show (commandAct api _ _).seen = (commandAct api _ _).seen
    rw [commandAct_of_unknown h_f (hubUdpGetStatus_of_not_nameable h_m url past),
      commandAct_of_unknown h_f' (hubUdpGetStatus_of_not_nameable h_m' url past)]
  | noStatus h_l h_l' h_m h_m' =>
    -- two status queries for such ids
    show (statusAct api _ _).seen = (statusAct api _ _).seen
    rw [statusAct_of_unknown (hubUdpGetStatus_of_not_nameable h_m url past), if_neg h_l,
      statusAct_of_unknown (hubUdpGetStatus_of_not_nameable h_m' url past), if_neg h_l']

/-- What a client can have asked for. -/
inductive RequestKind
  | nothing
  | refused
  | status
  | command
deriving DecidableEq

/-- The kind of a request. -/
def ClientRequest.kind : ClientRequest → RequestKind
  | .closed => .nothing
  | .reply _ _ => .refused
  | .status _ => .status
  | .command _ => .command

/-- The kind of a request, read off the action of an API whose hub knows nobody. -/
def ClientAct.kind : ClientAct → RequestKind
  | .closed => .nothing
  | .reply _ body =>
    if parserBodies.contains body then .refused
    else if body = errorBody "no status" then .status
    else .command
  | .localStatus _ => .status
  | _ => .command

theorem kind_operateAct (action : CStr) : (operateAct action).seen.kind = .command := by
  unfold operateAct
  split_ifs
  · rfl
  · rfl
  · rfl
  · decide +kernel

/-- A hub that knows nobody shows what kind of request it was. -/
theorem kind_requestAct {api : HttpApi} {r : ClientRequest}
    (h_r : ∀ statusCode body, r = .reply statusCode body → body ∈ parserBodies)
    (url : CharBuf 512) : (requestAct api r (reached url [])).seen.kind = r.kind := by
  cases r with
  | closed => rfl
  | reply statusCode body => exact if_pos (List.contains_iff_mem.mpr (h_r statusCode body rfl))
  | status m =>
    show (statusAct api m (reached url [])).seen.kind = .status
    -- a new hub knows no module
    rw [statusAct_of_unknown (hubUdpGetStatus_initial m url)]
    split_ifs
    · rfl
    · show ClientAct.kind (.reply 200 (errorBody "no status")) = .status
      decide +kernel
  | command f =>
    show (commandAct api f (reached url [])).seen.kind = .command
    by_cases h_f : f.mod = api.gModuleId.str
    · rw [commandAct_of_local h_f]
      exact kind_operateAct f.action
    · rw [commandAct_of_unknown h_f (hubUdpGetStatus_initial f.mod url)]
      show ClientAct.kind (.reply 200 (failedBody "unknown_module")) = .command
      decide +kernel

section Distinguish

variable {api : HttpApi}

/-- A hub with one module tells its status from every other one. -/
theorem eq_or_of_status_seen {m m' : CStr}
    (h : ∀ url past, (statusAct api m (reached url past)).seen
      = (statusAct api m' (reached url past)).seen) :
    m = m' ∨ m ≠ api.gModuleId.str ∧ ¬ Nameable m := by
  by_contra h_not
  rw [not_or, not_and_or, not_not, not_not] at h_not
  obtain ⟨h_ne, h_local | h_name⟩ := h_not
  · -- the local one is measured under its own id
    have h_empty := h (CharBuf.zero _) []
    rw [statusAct_of_unknown (hubUdpGetStatus_initial m _), if_pos h_local,
      statusAct_of_unknown (hubUdpGetStatus_initial m' _),
      if_neg (fun h_local' => h_ne (h_local.trans h_local'.symm))] at h_empty
    exact absurd h_empty (by simp [ClientAct.seen])
  · obtain ⟨st, h_st, -⟩ := hubUdpGetStatus_helloOf h_name (CharBuf.zero _)
    have h_known := h (CharBuf.zero _) [helloOf m]
    rw [statusAct_eq_hubStatus_iff.mpr h_st,
      statusAct_of_unknown (hubUdpGetStatus_helloOf_of_ne h_name (Ne.symm h_ne) _)] at h_known
    split_ifs at h_known <;> exact absurd h_known (by simp [ClientAct.seen])

/-- A hub with one module tells a command for it from every other one. -/
theorem call_eq_or_of_command_seen {f f' : CommandForm} (h_f : f.mod ≠ api.gModuleId.str)
    (h_f' : f'.mod ≠ api.gModuleId.str)
    (h : ∀ url past, (commandAct api f (reached url past)).seen
      = (commandAct api f' (reached url past)).seen) :
    f.call = f'.call ∨ ¬ Nameable f.mod := by
  by_cases h_name : Nameable f.mod
  · refine Or.inl ?_
    -- a hub that has heard of the module tells the two calls apart
    obtain ⟨st, h_st, h_addr⟩ := hubUdpGetStatus_helloOf h_name (CharBuf.zero _)
    have h_known := h (CharBuf.zero _) [helloOf f.mod]
    rw [commandAct_of_route h_f h_st h_addr] at h_known
    by_cases h_mod : f'.mod = f.mod
    · have h_st' : hubUdpGetStatus f'.mod (reached (CharBuf.zero _) [helloOf f.mod]) = some st := by
        rw [h_mod]
        exact h_st
      rw [commandAct_of_route h_f' h_st' h_addr] at h_known
      exact call_eq_of_seen h_known
    · rw [commandAct_of_unknown h_f' (hubUdpGetStatus_helloOf_of_ne h_name h_mod _)] at h_known
      exact absurd h_known (by simp [ClientAct.seen])
  · exact Or.inr h_name

theorem seen_operateAct (action : CStr) : (operateAct action).seen = operateAct action := by
  unfold operateAct
  split_ifs <;> rfl

/-- A hub that knows nobody tells a command for the local door from other ones. -/
theorem operateAct_eq_of_command_seen {f f' : CommandForm} (h_f : f.mod = api.gModuleId.str)
    (h : ∀ url past, (commandAct api f (reached url past)).seen
      = (commandAct api f' (reached url past)).seen) :
    f'.mod = api.gModuleId.str ∧ operateAct f.action = operateAct f'.action := by
  have h_empty := h (CharBuf.zero _) []
  rw [commandAct_of_local h_f, seen_operateAct] at h_empty
  by_cases h_f' : f'.mod = api.gModuleId.str
  · rw [commandAct_of_local h_f', seen_operateAct] at h_empty
    exact ⟨h_f', h_empty⟩
  · -- no operation is answered with `unknown_module`
    rw [commandAct_of_unknown h_f' (hubUdpGetStatus_initial f'.mod _)] at h_empty
    unfold operateAct at h_empty
    split_ifs at h_empty
    · exact absurd h_empty (by simp [ClientAct.seen])
    · exact absurd h_empty (by simp [ClientAct.seen])
    · exact absurd h_empty (by simp [ClientAct.seen])
    · exact absurd h_empty (by decide +kernel)

/-- **Requests that always get the same action ask for the same.** -/
theorem asksSame_of_seen {r r' : ClientRequest}
    (h_r : ∀ statusCode body, r = .reply statusCode body → body ∈ parserBodies)
    (h_r' : ∀ statusCode body, r' = .reply statusCode body → body ∈ parserBodies)
    (h : ∀ url past,
      (requestAct api r (reached url past)).seen = (requestAct api r' (reached url past)).seen) :
    AsksSame api r r' := by
  have h_kind : r.kind = r'.kind := by
    -- the kinds can be told apart in a new hub
    have h_seen := h (CharBuf.zero _) []
    calc r.kind
        = (requestAct api r (reached (CharBuf.zero _) [])).seen.kind :=
          (kind_requestAct h_r _).symm
      _ = (requestAct api r' (reached (CharBuf.zero _) [])).seen.kind := by rw [h_seen]
      _ = r'.kind := kind_requestAct h_r' _
  have h_symm := fun url past => (h url past).symm
  match r, r' with
  | .closed, .closed => exact .same _
  | .reply statusCode body, .reply statusCode' body' =>
    obtain ⟨rfl, rfl⟩ := ClientAct.reply.inj (h (CharBuf.zero _) [])
    exact .same _
  | .status m, .status m' =>
    rcases eq_or_of_status_seen h with rfl | ⟨h_m, h_name⟩
    · -- the same module, or two that the hub never knows
      exact .same _
    · rcases eq_or_of_status_seen h_symm with rfl | ⟨h_m', h_name'⟩
      · exact .same _
      · exact .noStatus h_m h_m' h_name h_name'
  | .command f, .command f' =>
    by_cases h_f : f.mod = api.gModuleId.str
    · obtain ⟨h_f', h_act⟩ := operateAct_eq_of_command_seen h_f h
      exact .operation h_f h_f' h_act
    · have h_f' : f'.mod ≠ api.gModuleId.str :=
        fun h_f' => h_f (operateAct_eq_of_command_seen h_f' h_symm).1
      -- in a hub that knows the one module or the other
      rcases call_eq_or_of_command_seen h_f h_f' h with h_call | h_name
      · exact .call h_f h_call
      · rcases call_eq_or_of_command_seen h_f' h_f h_symm with h_call | h_name'
        · exact .call h_f h_call.symm
        · exact .unknownModule h_f h_f' h_name h_name'

end Distinguish

/-! ### Heads -/

/-- The head of a request that is no command: a request line of three words, the headers and the
empty line. -/
structure RequestHead where
  method : CStr
  path : CStr
  version : CStr
  headers : List CStr
  methodWord : IsToken isSpace method
  pathWord : IsToken isSpace path
  lines : ∀ l ∈ (method ++ ' ' :: (path ++ ' ' :: version)) :: headers,
    NoCrlf l ∧ Char.ofNat 0 ∉ l
  nonempty : ∀ l ∈ headers, l ≠ []
  noCommand : ¬ (method = "POST".toList ∧ path = "/api/command".toList)

/-- The bytes of a head. -/
def RequestHead.text (H : RequestHead) : CStr :=
  joinLines ((H.method ++ ' ' :: (H.path ++ ' ' :: H.version)) :: (H.headers ++ [[]]))

/-- What `sscanf` makes of the first two words. The rest of a method that is too long is read as the
path. -/
def RequestHead.scanned (H : RequestHead) : CStr × CStr :=
  (H.method.take 7, (if H.method.drop 7 = [] then H.path else H.method.drop 7).take 1023)

/-- A word is read up to the width, and what is left of it comes next. -/
theorem scanWord_token {w : CStr} (h_w : IsToken isSpace w) {n : ℕ} (h_n : 0 < n) (rest : CStr) :
    scanWord n (w ++ ' ' :: rest) = some (w.take n, w.drop n ++ ' ' :: rest) := by
  have h_drop : (w ++ ' ' :: rest).dropWhile isSpace = w ++ ' ' :: rest := by
    obtain ⟨c, w', rfl⟩ := List.exists_cons_of_ne_nil h_w.1
    exact List.dropWhile_cons_of_neg (by simp [h_w.2 c List.mem_cons_self])
  have h_take : (w ++ ' ' :: rest).takeWhile (fun c => !isSpace c) = w := by
    rw [List.takeWhile_append_of_pos (fun c h_c => by simp [h_w.2 c h_c]),
      List.takeWhile_cons_of_neg (by decide), List.append_nil]
  have h_ne : w.take n ≠ [] := by
    rw [Ne, List.take_eq_nil_iff]
    exact not_or.mpr ⟨h_n.ne', h_w.1⟩
  have h_left : (w ++ ' ' :: rest).drop (w.take n).length = w.drop n ++ ' ' :: rest := by
    -- what does not fit stays in front of the next word
    rcases Nat.le_total n w.length with h_le | h_le
    · rw [List.length_take_of_le h_le, List.drop_append_of_le_length h_le]
    · rw [List.take_of_length_le h_le, List.drop_left, List.drop_of_length_le h_le,
        List.nil_append]
  unfold scanWord
  dsimp only
  rw [h_drop, h_take, if_neg h_ne, h_left]

theorem scanWord_blank (n : ℕ) (s : CStr) : scanWord n (' ' :: s) = scanWord n s := by
  unfold scanWord
  rw [List.dropWhile_cons_of_pos (by decide)]

theorem RequestHead.noNul_text (H : RequestHead) : Char.ofNat 0 ∉ H.text := by
  intro h_mem
  obtain ⟨l, h_l, h_nul⟩ := List.mem_flatMap.mp h_mem
  rcases List.mem_append.mp h_nul with h_nul | h_nul
  · rw [← List.cons_append] at h_l
    rcases List.mem_append.mp h_l with h_l | h_l
    · exact (H.lines l h_l).2 h_nul
    · rw [List.mem_singleton.mp h_l] at h_nul
      exact absurd h_nul List.not_mem_nil
  · exact absurd h_nul (by decide)

/-- A word that is cut does not become a shorter one. -/
theorem eq_of_take_eq {w v : CStr} {n : ℕ} (h : w.take n = v) (h_v : v.length < n) : w = v := by
  have h_length := congrArg List.length h
  rw [List.length_take] at h_length
  rw [← h, List.take_of_length_le (by omega)]

/-- A head that is no command does not read as one either. -/
theorem RequestHead.scanned_noCommand (H : RequestHead) :
    ¬ (H.scanned.1 = "POST".toList ∧ H.scanned.2 = "/api/command".toList) := by
  rintro ⟨h_method, h_path⟩
  have h_post : H.method = "POST".toList := eq_of_take_eq h_method (by decide)
  unfold scanned at h_path
  rw [h_post, if_pos (by decide)] at h_path
  exact H.noCommand ⟨h_post, eq_of_take_eq h_path (by decide)⟩

section Head

variable {H : RequestHead} {data : List Char} (h_head : H.text <+: data)
  (h_fits : data.length ≤ 8191)

include h_head h_fits

/-- The head is received whole. -/
theorem exists_requestText : ∃ rest, requestText data = H.text ++ rest := by
  obtain ⟨tail, rfl⟩ := h_head
  refine ⟨cstr tail, ?_⟩
  unfold requestText cstr
  rw [List.take_of_length_le h_fits]
  refine List.takeWhile_append_of_pos (fun c h_c => decide_eq_true ?_)
  rintro rfl
  exact H.noNul_text h_c

/-- The request line is read from the head. -/
theorem requestLine_of_head : requestLine (requestText data) = some H.scanned := by
  obtain ⟨rest, h_text⟩ := exists_requestText h_head h_fits
  have h_split : ∃ more, H.text ++ rest
      = H.method ++ ' ' :: (H.path ++ ' ' :: more) := by
    unfold RequestHead.text
    rw [joinLines_cons]
    refine ⟨H.version ++ crlf ++ joinLines (H.headers ++ [[]]) ++ rest, ?_⟩
    simp
  obtain ⟨more, h_more⟩ := h_split
  unfold requestLine RequestHead.scanned
  rw [h_text, h_more, scanWord_token H.methodWord (by decide)]
  dsimp only
  by_cases h_whole : H.method.drop 7 = []
  · rw [if_pos h_whole, h_whole, List.nil_append, scanWord_blank,
      scanWord_token H.pathWord (by decide)]
    rfl
  · -- the method goes on
    have h_left : IsToken isSpace (H.method.drop 7) :=
      ⟨h_whole, fun c h_c => H.methodWord.2 c (List.mem_of_mem_drop h_c)⟩
    rw [if_neg h_whole, scanWord_token h_left (by decide)]
    rfl

/-- The headers are those of the head. -/
theorem getHeaderValueFromRequest_of_head (key : CStr) :
    getHeaderValueFromRequest (requestText data) key
      = H.headers.findSome? (headerValue key) := by
  obtain ⟨rest, h_text⟩ := exists_requestText h_head h_fits
  have h_lines : ∀ l ∈ (H.method ++ ' ' :: (H.path ++ ' ' :: H.version)) :: (H.headers ++ [[]]),
      NoCrlf l := by
    intro l h_l
    rw [← List.cons_append] at h_l
    rcases List.mem_append.mp h_l with h_l | h_l
    · exact (H.lines l h_l).1
    · rw [List.mem_singleton.mp h_l]
      exact fun h_in => absurd (List.infix_nil.mp h_in) (by simp [crlf])
  unfold getHeaderValueFromRequest
  rw [h_text]
  unfold RequestHead.text
  rw [crlfLines_joinLines h_lines]
  -- the empty line ends the search
  show ((H.headers ++ [[]] ++ crlfLines rest []).takeWhile _).findSome? _ = _
  rw [List.append_assoc, List.takeWhile_append_of_pos
    (fun l h_l => decide_eq_true (H.nonempty l h_l))]
  show List.findSome? _ (H.headers ++ (List.takeWhile _ ([] :: crlfLines rest []))) = _
  rw [List.takeWhile_cons_of_neg (by simp), List.append_nil]

end Head

/-- **Heads.** A request that is no command is decided by its head. -/
theorem clientRequest_of_head {H : RequestHead} {data data' : List Char} (h : H.text <+: data)
    (h' : H.text <+: data') (h_fits : data.length ≤ 8191) (h_fits' : data'.length ≤ 8191)
    (expectedToken : Option CStr) :
    clientRequest expectedToken data = clientRequest expectedToken data' := by
  have h_auth : authorized expectedToken (requestText data)
      = authorized expectedToken (requestText data') := by
    unfold authorized
    rw [getHeaderValueFromRequest_of_head h h_fits, getHeaderValueFromRequest_of_head h' h_fits']
  unfold clientRequest
  dsimp only
  rw [requestLine_of_head h h_fits, requestLine_of_head h' h_fits', h_auth]
  dsimp only
  rw [if_neg H.scanned_noCommand, if_neg H.scanned_noCommand]

/-! ### Splits -/

theorem SplitRequest.length_received_le (S : SplitRequest) : S.received.length ≤ 8191 := by
  refine le_trans ?_ S.fits
  rw [← S.joined]
  unfold SplitRequest.received
  cases S.segments with
  | nil => exact Nat.zero_le _
  | cons s segments =>
    rw [List.headD_cons, List.flatten_cons, List.length_append]
    exact Nat.le_add_right _ _

/-- The first segment is the start of the request. -/
theorem SplitRequest.received_prefix (S : SplitRequest) : S.received <+: S.data := by
  rw [← S.joined]
  unfold SplitRequest.received
  cases S.segments with
  | nil => exact List.nil_prefix
  | cons s segments => exact List.prefix_append s segments.flatten

/-- **When segmentation does not matter**: exactly when the first segment asks for the same as the
whole request, so in particular when it holds the head of a request that is no command. -/
structure SegmentsSettled (S : SplitRequest) : Prop where
  exactly : SegmentsDoNotMatter S ↔ AsksSame S.api
    (clientRequest S.api.expectedToken S.received) (clientRequest S.api.expectedToken S.data)
  head : ∀ H : RequestHead, H.text <+: S.received → SegmentsDoNotMatter S

/-- **Segments.** -/
theorem segmentsSettled (S : SplitRequest) : SegmentsSettled S where
  exactly := by
    rw [segmentsDoNotMatter_iff_acts]
    constructor
    · exact asksSame_of_seen (fun _ _ => mem_parserBodies) (fun _ _ => mem_parserBodies)
    · intro h_same url past
      exact h_same.seen_eq url past
  head H h_head := by
    rw [segmentsDoNotMatter_iff_acts,
      clientRequest_of_head h_head (h_head.trans S.received_prefix) S.length_received_le S.fits]
    exact fun _ _ => rfl

/-- The head of a request for the status of `D1`. -/
def statusHead : RequestHead where
  method := "GET".toList
  path := "/api/status?module=D1".toList
  version := "HTTP/1.1".toList
  headers := ["Host: hub".toList]
  methodWord := by decide
  pathWord := by decide
  lines := by
    unfold NoCrlf
    decide
  nonempty := by decide
  noCommand := by decide

/-- A request of which the first segment holds the head. -/
def statusSplit : SplitRequest where
  api := .started (some "D1".toList) none
  data := statusHead.text ++ "unused".toList
  fits := by decide
  segments := [statusHead.text ++ "un".toList, "used".toList]
  joined := by decide
  nonempty := by decide

theorem segmentsSettled_statusSplit : SegmentsDoNotMatter statusSplit :=
  (segmentsSettled statusSplit).head statusHead (List.prefix_append _ _)

/-! ### A value that is cut -/

/-- The body comes in two segments, the first of which ends inside the name of the module. -/
def cutName : SplitRequest where
  api := .started (some "D1".toList) none
  data :=
    "POST /api/command HTTP/1.1\r\nContent-Length: 24\r\n\r\naction=UNLOCK&module=D12".toList
  fits := by decide
  segments :=
    ["POST /api/command HTTP/1.1\r\nContent-Length: 24\r\n\r\naction=UNLOCK&module=D1".toList,
      "2".toList]
  joined := by decide
  nonempty := by decide

/-- **Segmentation matters**: the door of the hub process is unlocked by a command for another
module. -/
theorem not_segmentsDoNotMatter : ¬ SegmentsDoNotMatter cutName := by
  intro h
  have h_act := (h (CharBuf.zero _) []).1
  revert h_act
  decide +kernel

end Http

end DoorSystem
