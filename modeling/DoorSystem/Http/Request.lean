import DoorSystem.Wire
import DoorSystem.Lib.Run
import Mathlib.Data.List.DropRight

/-!
# HTTP requests

The parsers of `http_api.c`: the request line, a header of the request, the query string of a GET
and the form in the body of a POST. `clientRequest` is `handle_client` up to the point where it
knows what the client asks for.

The values of a form are pieces of the request text (`Form.Within`), so they are C strings.
-/

namespace DoorSystem

open CLib

namespace Http

/-- The text of a request: one `recv` into a buffer of 8192 bytes. -/
def requestText (data : List Char) : CStr := cstr (data.take 8191)

/-- `sscanf(buf, "%7s %1023s", method, path)`. -/
def requestLine (buf : CStr) : Option (CStr × CStr) :=
  match scanWord 7 buf with
  | some (method, rest) => (scanWord 1023 rest).map (fun p => (method, p.1))
  | none => none

/-! ### Headers -/

/-- The lines of a text that end in CR LF. `line` is what has been read of the current one. -/
def crlfLines : CStr → CStr → List CStr
  | '\r' :: '\n' :: s, line => line :: crlfLines s []
  | c :: s, line => crlfLines s (line ++ [c])
  | [], _ => []

/-- The value of a header line with the name `key`, in upper or lower case. -/
def headerValue (key line : CStr) : Option CStr :=
  match strchr ':' line with
  | some (name, value) =>
    if (name.rdropWhile (fun c => c = ' ')).map Char.toLower = key.map Char.toLower then
      some (value.dropWhile (fun c => c = ' '))
    else none
  | none => none

/-- `get_header_value_from_request`: the search ends at the empty line. -/
def getHeaderValueFromRequest (req key : CStr) : Option CStr :=
  ((crlfLines req []).tail.takeWhile (fun line => line ≠ [])).findSome? (headerValue key)

/-! ### Fields -/

/-- The delimiter of the fields. -/
def isAmp (c : Char) : Bool := c = '&'

/-- `get_query_value`: the first field behind the question mark that has the key. -/
def getQueryValue (path key : CStr) : Option CStr :=
  match strchr '?' path with
  | some (_, q) => (tokens isAmp q).findSome? (fun tok =>
      match strchr '=' tok with
      | some (k, v) => if k = key then some v else none
      | none => none)
  | none => none

/-- The variables `mod`, `target` and `action`, NULL until their fields are met. -/
structure Form where
  mod : Option CStr
  target : Option CStr
  action : Option CStr

/-- One round of the loop over the fields: a later field of the same key wins. -/
def formField (f : Form) (tok : CStr) : Form :=
  match strchr '=' tok with
  | some (k, v) =>
    if k = "module".toList then { f with mod := some v }
    else if k = "target".toList then { f with target := some v }
    else if k = "action".toList then { f with action := some v }
    else f
  | none => f

/-- The form of a body. -/
def parseForm (body : CStr) : Form := run formField ⟨none, none, none⟩ (tokens isAmp body)

/-! ### What is asked for -/

/-- A POST with a module and an action. -/
structure CommandForm where
  mod : CStr
  target : Option CStr
  action : CStr
deriving DecidableEq

/-- What `handle_client` has found out after parsing. -/
inductive ClientRequest
  /-- The connection is closed without an answer. -/
  | closed
  /-- The request is answered at once. -/
  | reply (statusCode : ℕ) (body : CStr)
  /-- `GET /api/status`. -/
  | status (mod : CStr)
  /-- `POST /api/command`. -/
  | command (form : CommandForm)
deriving DecidableEq

/-- `"key":value`. -/
def jsonField (key : String) (value : CStr) : CStr :=
  "\"".toList ++ key.toList ++ "\":".toList ++ value

/-- `"s"`. -/
def jsonString (s : CStr) : CStr := "\"".toList ++ s ++ "\"".toList

/-- The fields in braces. -/
def jsonObject (fields : List CStr) : CStr :=
  "\x7b".toList ++ [','].intercalate fields ++ "\x7d".toList

/-- An answer with an error text. -/
def errorBody (text : String) : CStr := jsonObject [jsonField "error" (jsonString text.toList)]

/-- The token test: without a token in the environment every request passes. -/
def authorized (expectedToken : Option CStr) (buf : CStr) : Bool :=
  match expectedToken with
  | some token => getHeaderValueFromRequest buf "X-API-TOKEN".toList == some token
  | none => true

/-- The body of a POST, as a command. -/
def commandRequest (buf : CStr) : ClientRequest :=
  match strstr "\r\n\r\n".toList buf with
  | some body =>
    match parseForm body with
    | ⟨some mod, target, some action⟩ => .command ⟨mod, target, action⟩
    | _ => .reply 200 (errorBody "missing fields")
  | none => .reply 200 (errorBody "no body")

/-- `handle_client` up to its first look at a table. -/
def clientRequest (expectedToken : Option CStr) (data : List Char) : ClientRequest :=
  let buf := requestText data
  match requestLine buf with
  | some (method, path) =>
    if !authorized expectedToken buf then .reply 401 (errorBody "unauthorized")
    else if method = "GET".toList ∧ strncmpEq 11 path "/api/status".toList = true then
      match getQueryValue path "module".toList with
      | some mod => .status mod
      | none => .reply 200 (errorBody "missing module")
    else if method = "POST".toList ∧ path = "/api/command".toList then commandRequest buf
    else .reply 200 (errorBody "unknown endpoint")
  | none => .closed

/-! ### The values of a form -/

/-- Every value of the form is made of characters of `s`. -/
structure Form.Within (s : CStr) (f : Form) : Prop where
  mod : ∀ v, f.mod = some v → v ⊆ s
  target : ∀ v, f.target = some v → v ⊆ s
  action : ∀ v, f.action = some v → v ⊆ s

/-- **Step.** -/
theorem Form.Within.field {s : CStr} {f : Form} (inv : f.Within s) {tok : CStr} (h_tok : tok ⊆ s) :
    (formField f tok).Within s := by
  unfold formField
  split
  · next k v h_cut =>
    -- the value is the end of the token
    have h_v : v ⊆ s := by
      intro c h_c
      refine h_tok ?_
      rw [(strchr_eq_some_iff.mp h_cut).1]
      exact List.mem_append_right _ (List.mem_cons_of_mem _ h_c)
    have h_new : ∀ w, some v = some w → w ⊆ s := by
      rintro w h_w
      obtain rfl := Option.some.inj h_w
      exact h_v
    split_ifs
    · exact ⟨h_new, inv.target, inv.action⟩
    · exact ⟨inv.mod, h_new, inv.action⟩
    · exact ⟨inv.mod, inv.target, h_new⟩
    · exact inv
  · exact inv

/-- **Run.** -/
theorem within_parseForm (body : CStr) : (parseForm body).Within body := by
  refine run_invariant_of_forall (C := fun tok => tok ⊆ body) (Form.Within body)
    (fun f tok h_tok inv => inv.field h_tok) ?_ ?_
  · exact ⟨by simp, by simp, by simp⟩
  · intro tok h_mem c h_c
    exact mem_of_mem_tokens h_mem h_c

/-- A value of a command is a C string. -/
theorem noNul_of_command {expectedToken : Option CStr} {data : List Char} {form : CommandForm}
    (h_form : clientRequest expectedToken data = .command form) :
    (∀ v, form.target = some v → Char.ofNat 0 ∉ v) ∧ Char.ofNat 0 ∉ form.action := by
  -- the text of the request ends before the first NUL
  have h_nul : Char.ofNat 0 ∉ requestText data := noNul_cstr _
  have h_command : commandRequest (requestText data) = .command form := by
    unfold clientRequest at h_form
    dsimp only at h_form
    split at h_form
    · split_ifs at h_form
      · split at h_form
        · exact absurd h_form (by simp)
        · exact absurd h_form (by simp)
      · exact h_form
    · exact absurd h_form (by simp)
  unfold commandRequest at h_command
  split at h_command
  · next body h_body =>
    -- a value is a piece of the body, and the body is the end of the text
    have h_sub : body ⊆ requestText data := (suffix_of_strstr h_body).subset
    obtain ⟨-, h_target, h_action⟩ := within_parseForm body
    split at h_command
    · next mod target action h_parsed =>
      obtain rfl := ClientRequest.command.inj h_command
      rw [h_parsed] at h_target h_action
      exact ⟨fun v h_v h_mem => h_nul (h_sub (h_target v h_v h_mem)),
        fun h_mem => h_nul (h_sub (h_action action rfl h_mem))⟩
    · exact absurd h_command (by simp)
  · exact absurd h_command (by simp)

example : clientRequest none
    "POST /api/command HTTP/1.1\r\n\r\nmodule=D1&target=D0&action=LOCK".toList
      = .command ⟨"D1".toList, some "D0".toList, "LOCK".toList⟩ := by decide +kernel

end Http

end DoorSystem
