import DoorSystem.Http.Api
import DoorSystem.Lib.Crlf

/-!
# The token gate

`handle_client` reads the token before it looks at anything else. `headerLoop` is the scan of
`get_header_value_from_request`, pointer by pointer, and `getHeaderValueFromRequest_eq` says that it
computes what the list of lines gives.

`gateExact` is the gate as the client sees it: with the right header (`PresentsToken`) a request is
served as if there were no gate, and without it the answer is the same whatever the hub and the door
are like, and neither of them changes.
-/

namespace DoorSystem

open CLib

namespace Http

open Hub Door

/-! ### The scan -/

/-- The loop of `get_header_value_from_request`, from the position `p` on. -/
def headerLoop (key p : CStr) : Option CStr :=
  if p = [] ∨ crlf.isPrefixOf p then none
  else
    match _h_end : lineEnd p with
    | none => none
    | some (line, rest) =>
      match headerValue key line with
      | some value => some value
      | none => headerLoop key rest
termination_by p.length
decreasing_by exact length_lt_of_lineEnd _h_end

/-- A line is read up to its end. -/
theorem crlfLines_eq (s line : CStr) :
    crlfLines s line = match lineEnd s with
      | some (l, rest) => (line ++ l) :: crlfLines rest []
      | none => [] := by
  induction s using lineEnd.induct generalizing line with
  | case1 s =>
    show line :: crlfLines s [] = (line ++ []) :: crlfLines s []
    rw [List.append_nil]
  | case2 c s h_no ih =>
    rw [crlfLines.eq_2 line c s h_no, lineEnd.eq_2 c s h_no, ih]
    cases lineEnd s with
    | none => rfl
    | some p =>
      show (line ++ [c] ++ p.1) :: _ = (line ++ c :: p.1) :: _
      rw [List.append_assoc]
      rfl
  | case3 => rfl

/-- **Scan.** The loop searches the lines before the first empty one. -/
theorem headerLoop_eq (key p : CStr) :
    headerLoop key p
      = ((crlfLines p []).takeWhile (fun line => line ≠ [])).findSome? (headerValue key) := by
  induction p using lineInduction with
  | h_end p h_none =>
    unfold headerLoop
    rw [crlfLines_eq, h_none]
    split_ifs
    · rfl
    · rfl
  | h_line p l rest h_some ih =>
    rw [crlfLines_eq, h_some]
    unfold headerLoop
    by_cases h_l : l = []
    · -- the empty line ends the loop
      subst h_l
      have h_p : crlf.isPrefixOf p = true := by
        rw [(lineEnd_eq_some_iff.mp h_some).1]
        exact List.isPrefixOf_iff_prefix.mpr ⟨rest, rfl⟩
      rw [if_pos (Or.inr h_p)]
      rfl
    · have h_go : ¬ (p = [] ∨ crlf.isPrefixOf p = true) := by
        rintro (rfl | h_p)
        · exact absurd h_some (by simp [lineEnd])
        · obtain ⟨t, rfl⟩ := List.isPrefixOf_iff_prefix.mp h_p
          exact h_l (Prod.mk.inj (Option.some.inj h_some)).1.symm
      rw [if_neg h_go]
      split
      · next h_none =>
        rw [h_some] at h_none
        exact absurd h_none (by simp)
      · next l' rest' h_some' =>
        rw [h_some] at h_some'
        obtain ⟨rfl, rfl⟩ := Prod.mk.inj (Option.some.inj h_some')
        show _ = ((l :: crlfLines rest []).takeWhile _).findSome? _
        rw [List.takeWhile_cons_of_pos (by simpa using h_l), List.findSome?_cons, ih]
        cases headerValue key l <;> rfl

/-- **Scan.** The loop starts behind the request line. -/
theorem getHeaderValueFromRequest_eq (req key : CStr) :
    getHeaderValueFromRequest req key = match strstr crlf req with
      | some p => headerLoop key p
      | none => none := by
  unfold getHeaderValueFromRequest
  rw [crlfLines_eq, strstr_crlf]
  cases lineEnd req with
  | none => rfl
  | some p => exact (headerLoop_eq key p.2).symm

/-- The lines of a request in front, and what follows them. -/
theorem crlfLines_joinLines {ls : List CStr} (h_ls : ∀ l ∈ ls, NoCrlf l) (rest : CStr) :
    crlfLines (joinLines ls ++ rest) [] = ls ++ crlfLines rest [] := by
  induction ls with
  | nil => rfl
  | cons l ls ih =>
    have h_l : lineEnd (joinLines (l :: ls) ++ rest) = some (l, joinLines ls ++ rest) := by
      refine lineEnd_eq_some_iff.mpr ⟨?_, h_ls l List.mem_cons_self⟩
      rw [joinLines_cons, List.append_assoc]
    rw [crlfLines_eq, h_l]
    exact congrArg (List.cons l) (ih (fun l' h_l' => h_ls l' (List.mem_cons_of_mem _ h_l')))

/-- A text is its lines and a rest. -/
theorem exists_joinLines (s : CStr) :
    ∃ rest, s = joinLines (crlfLines s []) ++ rest ∧ ∀ l ∈ crlfLines s [], NoCrlf l := by
  induction s using lineInduction with
  | h_end s h_none =>
    -- no line end: all of it is the rest
    rw [crlfLines_eq, h_none]
    exact ⟨s, rfl, by simp⟩
  | h_line s l rest h_some ih =>
    obtain ⟨tail, h_rest, h_lines⟩ := ih
    obtain ⟨h_s, h_l⟩ := lineEnd_eq_some_iff.mp h_some
    rw [crlfLines_eq, h_some]
    refine ⟨tail, ?_, ?_⟩
    · show s = joinLines (l :: crlfLines rest []) ++ tail
      rw [joinLines_cons, List.append_assoc, ← h_rest]
      exact h_s
    · intro l' h_l'
      rcases List.mem_cons.mp h_l' with rfl | h_l'
      · exact h_l
      · exact h_lines l' h_l'

/-! ### Headers -/

/-- The line is a header with the name `key`, in upper or lower case, and the value `v`. Blanks
before the colon belong to neither, nor do blanks behind it. -/
def IsHeader (key v line : CStr) : Prop :=
  ∃ name value, line = name ++ ':' :: value ∧ ':' ∉ name ∧
    (name.rdropWhile (fun c => c = ' ')).map Char.toLower = key.map Char.toLower ∧
    value.dropWhile (fun c => c = ' ') = v

/-- **Presented.** Before the first empty line, the first header with the name X-API-TOKEN has the
token for its value. -/
def PresentsToken (token req : CStr) : Prop :=
  ∃ first before line rest, req = joinLines (first :: (before ++ [line])) ++ rest ∧
    (∀ l ∈ first :: (before ++ [line]), NoCrlf l) ∧
    (∀ l ∈ before, l ≠ [] ∧ ∀ v, ¬ IsHeader "X-API-TOKEN".toList v l) ∧
    IsHeader "X-API-TOKEN".toList token line

theorem headerValue_eq_some_iff {key v line : CStr} :
    headerValue key line = some v ↔ IsHeader key v line := by
  unfold headerValue IsHeader
  constructor
  · intro h
    split at h
    · next name value h_cut =>
      split_ifs at h with h_name
      obtain ⟨h_line, h_colon⟩ := strchr_eq_some_iff.mp h_cut
      exact ⟨name, value, h_line, h_colon, h_name, Option.some.inj h⟩
    · exact absurd h (by simp)
  · rintro ⟨name, value, h_line, h_colon, h_name, rfl⟩
    rw [strchr_eq_some_iff.mpr ⟨h_line, h_colon⟩]
    exact if_pos h_name

theorem headerValue_eq_none_iff {key line : CStr} :
    headerValue key line = none ↔ ∀ v, ¬ IsHeader key v line := by
  rw [Option.eq_none_iff_forall_ne_some]
  exact forall_congr' (fun v => not_congr headerValue_eq_some_iff)

theorem IsHeader.ne_nil {key v line : CStr} (h : IsHeader key v line) : line ≠ [] := by
  obtain ⟨name, value, rfl, -⟩ := h
  simp

/-- **The scan finds the token exactly when it is presented.** -/
theorem getHeaderValueFromRequest_token_iff {token req : CStr} :
    getHeaderValueFromRequest req "X-API-TOKEN".toList = some token ↔ PresentsToken token req := by
  unfold getHeaderValueFromRequest PresentsToken
  rw [findSome_takeWhile_iff]
  constructor
  · rintro ⟨before, line, behind, h_lines, h_before, -, h_line⟩
    obtain ⟨rest, h_req, h_all⟩ := exists_joinLines req
    obtain ⟨first, h_first⟩ : ∃ first,
        crlfLines req [] = first :: (before ++ [line]) ++ behind := by
      cases h_ls : crlfLines req [] with
      | nil =>
        rw [h_ls] at h_lines
        exact absurd h_lines (by simp)
      | cons first ls =>
        refine ⟨first, ?_⟩
        rw [h_ls, List.tail_cons] at h_lines
        rw [h_lines]
        simp
    -- what comes behind the header is left to the rest
    have h_join : joinLines (first :: (before ++ [line]) ++ behind)
        = joinLines (first :: (before ++ [line])) ++ joinLines behind := List.flatMap_append
    rw [h_first] at h_all
    rw [h_first, h_join, List.append_assoc] at h_req
    refine ⟨first, before, line, joinLines behind ++ rest, h_req,
      fun l h_l => h_all l (List.mem_append_left _ h_l), fun l h_l => ?_,
      headerValue_eq_some_iff.mp h_line⟩
    obtain ⟨h_ne, h_none⟩ := h_before l h_l
    exact ⟨of_decide_eq_true h_ne, headerValue_eq_none_iff.mp h_none⟩
  · rintro ⟨first, before, line, rest, rfl, h_lines, h_before, h_line⟩
    rw [crlfLines_joinLines h_lines]
    refine ⟨before, line, crlfLines rest [], ?_, fun l h_l => ?_, decide_eq_true h_line.ne_nil,
      headerValue_eq_some_iff.mpr h_line⟩
    · rw [List.cons_append, List.tail_cons, List.append_assoc]
      rfl
    · obtain ⟨h_ne, h_none⟩ := h_before l h_l
      exact ⟨decide_eq_true h_ne, headerValue_eq_none_iff.mpr h_none⟩

/-! ### The answer to a client -/

/-- What stands behind the API. -/
structure Backend where
  hub : HubState
  door : DoorModule

/-- What comes of an action, and the answer to the client, where `during` is what happens to the hub
while `hub_udp_send_command` waits. A client whose command is still under way has no answer yet. -/
def answerAct (act : ClientAct) (env : CallEnv) (during : List SendEv) (b : Backend) :
    Backend × Option CStr :=
  match act with
  | .closed => (b, none)
  | .reply statusCode body => (b, some (sendResponseStatus statusCode body))
  | .hubStatus st => (b, some (sendResponseStatus 200 (hubStatusBody st)))
  | .localStatus mod =>
    let (r, body) := localStatusEnd mod env b.door
    ({ b with door := r.state }, some (sendResponseStatus 200 body))
  | .operate kind =>
    let (r, body) := operateEnd kind env b.door
    ({ b with door := r.state }, some (sendResponseStatus 200 body))
  | .send form =>
    let (hub, phase) := runSend form.call b.hub during
    match phase with
    | .returned sent =>
      ({ b with hub := hub }, some (sendResponseStatus 200 (sendEnd form sent hub)))
    | _ => ({ b with hub := hub }, none)

/-- `handle_client` with its answer. -/
def serveClient (api : HttpApi) (data : List Char) (env : CallEnv) (during : List SendEv)
    (b : Backend) : Backend × Option CStr :=
  answerAct (handleClient api data b.hub) env during b

/-! ### The gate -/

/-- A request of at most 8191 bytes with a request line, and the token of the environment. -/
structure GuardedRequest where
  data : List Char
  fits : data.length ≤ 8191
  noNul : Char.ofNat 0 ∉ data
  token : CStr
  parsed : requestLine data ≠ none

/-- **The gate is exact.** A request that presents the token is served like one without a gate, and
it is not answered with 401. Every other request is answered with 401, and nothing else happens. -/
structure GateExact (G : GuardedRequest) : Prop where
  passes : PresentsToken G.token G.data → ∀ gModuleId env during b,
    serveClient ⟨gModuleId, some G.token⟩ G.data env during b
      = serveClient ⟨gModuleId, none⟩ G.data env during b
  past : PresentsToken G.token G.data → ∀ gModuleId h body,
    handleClient ⟨gModuleId, some G.token⟩ G.data h ≠ .reply 401 body
  refused : ¬ PresentsToken G.token G.data → ∀ gModuleId env during b,
    serveClient ⟨gModuleId, some G.token⟩ G.data env during b
      = (b, some (sendResponseStatus 401 (errorBody "unauthorized")))

/-- The text of a request that fits is the request. -/
theorem requestText_of_fits {data : List Char} (h_fits : data.length ≤ 8191)
    (h_nul : Char.ofNat 0 ∉ data) : requestText data = data := by
  unfold requestText
  rw [List.take_of_length_le h_fits, cstr_of_noNul h_nul]

/-- The token test passes exactly when the token is presented. -/
theorem GuardedRequest.authorized_iff (G : GuardedRequest) :
    authorized (some G.token) (requestText G.data) = true ↔ PresentsToken G.token G.data := by
  unfold authorized
  rw [beq_iff_eq, requestText_of_fits G.fits G.noNul]
  exact getHeaderValueFromRequest_token_iff

/-- Behind the gate no answer is 401. -/
theorem clientRequest_none_ne (data : List Char) (body : CStr) :
    clientRequest none data ≠ .reply 401 body := by
  unfold clientRequest authorized
  dsimp only
  split
  · rw [if_neg (by simp)]
    split_ifs
    · split <;> simp
    · unfold commandRequest
      split
      · split <;> simp
      · simp
    · simp
  · simp

/-- The lookups behind the gate do not answer 401 either. -/
theorem handleClient_none_ne (gModuleId : CharBuf 32) (data : List Char) (h : HubState)
    (body : CStr) : handleClient ⟨gModuleId, none⟩ data h ≠ .reply 401 body := by
  unfold handleClient
  split
  · simp
  · -- the 401 of the gate is the only one, and there is no gate
    next statusCode body' h_request =>
    intro h_eq
    obtain ⟨rfl, rfl⟩ := ClientAct.reply.inj h_eq
    exact clientRequest_none_ne data body' h_request
  · unfold statusAct
    split
    · simp
    · split_ifs <;> simp
  · unfold commandAct operateAct
    split_ifs
    · simp
    · simp
    · simp
    · simp
    · split
      · split_ifs <;> simp
      · simp

/-- **Gate.** With the token the request is handled like one without a gate. -/
theorem GuardedRequest.handleClient_open (G : GuardedRequest)
    (h_token : PresentsToken G.token G.data) (gModuleId : CharBuf 32) (h : HubState) :
    handleClient ⟨gModuleId, some G.token⟩ G.data h
      = handleClient ⟨gModuleId, none⟩ G.data h := by
  have h_open : clientRequest (some G.token) G.data = clientRequest none G.data := by
    unfold clientRequest
    dsimp only
    rw [G.authorized_iff.mpr h_token]
    rfl
  unfold handleClient
  rw [h_open]
  rfl

/-- **Gate.** Without it the answer is given before anything is looked up. -/
theorem GuardedRequest.handleClient_shut (G : GuardedRequest)
    (h_token : ¬ PresentsToken G.token G.data) (gModuleId : CharBuf 32) (h : HubState) :
    handleClient ⟨gModuleId, some G.token⟩ G.data h = .reply 401 (errorBody "unauthorized") := by
  obtain ⟨p, h_p⟩ := Option.ne_none_iff_exists'.mp G.parsed
  have h_line : requestLine (requestText G.data) = some p := by
    rw [requestText_of_fits G.fits G.noNul]
    exact h_p
  have h_refused : (!authorized (some G.token) (requestText G.data)) = true := by
    rw [Bool.not_eq_true', Bool.eq_false_iff]
    exact mt G.authorized_iff.mp h_token
  have h_shut : clientRequest (some G.token) G.data = .reply 401 (errorBody "unauthorized") := by
    unfold clientRequest
    dsimp only
    rw [h_line]
    exact if_pos h_refused
  unfold handleClient
  rw [h_shut]

/-- **Gate.** -/
theorem gateExact (G : GuardedRequest) : GateExact G where
  passes h_token gModuleId env during b := by
    unfold serveClient
    rw [G.handleClient_open h_token]
  past h_token gModuleId h body := by
    rw [G.handleClient_open h_token]
    exact handleClient_none_ne gModuleId G.data h body
  refused h_token gModuleId env during b := by
    unfold serveClient
    rw [G.handleClient_shut h_token]
    rfl

/-- A request with the token, under a name in small letters. -/
def statusWithToken : GuardedRequest where
  data := "GET /api/status HTTP/1.1\r\nx-api-token : secret\r\n\r\n".toList
  fits := by decide
  noNul := by decide
  token := "secret".toList
  parsed := by decide +kernel

theorem gateExact_statusWithToken :
    handleClient ⟨CharBuf.zero 32, some statusWithToken.token⟩ statusWithToken.data
      (HubState.initial (CharBuf.zero 512)) ≠ .reply 401 (errorBody "unauthorized") :=
  (gateExact statusWithToken).past (statusWithToken.authorized_iff.mp (by decide +kernel)) _ _ _

end Http

end DoorSystem
