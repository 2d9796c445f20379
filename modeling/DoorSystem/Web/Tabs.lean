import DoorSystem.Node.Timers
import DoorSystem.Web.Channels

/-!
# Pages that show the same

What a page hears of one step of the server: the events emitted to its own socket and those that
are broadcast, in this order. A FEEDBACK is heard as `door-feedback` and `command-feedback`, and by
the page of the request once more before. Since both events are assignment programs, the extra one
is absorbed, and pages with equal caches keep them equal, whoever sent the commands.
-/

namespace DoorSystem

open CLib CLib.Js

namespace Web

variable (U : UpperCase)

/-! ### The cache after an event -/

/-- The entry of the module is written, if there is one. -/
def DoorStates.applyAt (module : CStr) (f : DoorState → DoorState) (states : DoorStates) :
    DoorStates :=
  match ModuleId.lookup module with
  | none => states
  | some m => Function.update states m (f (states m))

/-- The cache after an event of the server. -/
def DoorStates.receive (states : DoorStates) : Node.Emit → DoorStates
  | .commandFeedback module _ _ action _ => states.applyAt module (applyCommandFeedback U action)
  | .doorFeedback module _ action => states.applyAt module (applyDoorFeedback U action)
  | .hubEvent module _ event _ =>
    states.applyAt module (applyParts (listWords (U.toUpperCase event)))
  | .commandError _ _ _ => states
  | .hubHeartbeat _ _ => states
  | .hubHello _ _ => states
  | .hubRaw _ => states

namespace Page

theorem onCommandFeedback_fst (module action : CStr) (p : Page) :
    (p.onCommandFeedback U module action).1.doorStates =
        p.doorStates.applyAt module (applyCommandFeedback U action) ∧
      (p.onCommandFeedback U module action).1.ready = p.ready := by
  unfold onCommandFeedback DoorStates.applyAt
  rcases ModuleId.lookup module with _ | m
  · exact ⟨rfl, rfl⟩
  · exact ⟨rfl, rfl⟩

theorem onDoorFeedback_fst (module action : CStr) (p : Page) :
    (p.onDoorFeedback U module action).1.doorStates =
        p.doorStates.applyAt module (applyDoorFeedback U action) ∧
      (p.onDoorFeedback U module action).1.ready = p.ready := by
  unfold onDoorFeedback DoorStates.applyAt
  rcases ModuleId.lookup module with _ | m
  · exact ⟨rfl, rfl⟩
  · dsimp only
    split
    · exact ⟨rfl, rfl⟩
    · split
      · exact ⟨rfl, rfl⟩
      · split
        · exact ⟨rfl, rfl⟩
        · exact ⟨rfl, rfl⟩

theorem onHubEvent_fst (module event : CStr) (p : Page) :
    (p.onHubEvent U module event).1.doorStates =
        p.doorStates.applyAt module (applyParts (listWords (U.toUpperCase event))) ∧
      (p.onHubEvent U module event).1.ready = p.ready := by
  unfold onHubEvent DoorStates.applyAt
  rcases ModuleId.lookup module with _ | m
  · exact ⟨rfl, rfl⟩
  · dsimp only
    split
    · exact ⟨rfl, rfl⟩
    · exact ⟨rfl, rfl⟩

theorem onCommandError_fst (module error : CStr) (p : Page) :
    (p.onCommandError module error).1.doorStates = p.doorStates ∧
      (p.onCommandError module error).1.ready = p.ready := by
  unfold onCommandError
  split
  · exact ⟨rfl, rfl⟩
  · exact ⟨rfl, rfl⟩

/-- The handlers write the cache as `DoorStates.receive` says, and stay set up. -/
theorem receive_fst (e : Node.Emit) (p : Page) :
    (p.receive U e).1.doorStates = p.doorStates.receive U e ∧
      (p.receive U e).1.ready = p.ready := by
  cases e with
  | commandFeedback module cmdid target action raw => exact p.onCommandFeedback_fst U module action
  | doorFeedback module target action => exact p.onDoorFeedback_fst U module action
  | hubEvent module target event raw => exact p.onHubEvent_fst U module event
  | commandError module cmdid error => exact p.onCommandError_fst module error
  | hubHeartbeat module raw => exact ⟨rfl, rfl⟩
  | hubHello module raw => exact ⟨rfl, rfl⟩
  | hubRaw raw => exact ⟨rfl, rfl⟩

/-- The page after it has heard the events `es`. -/
def hears (p : Page) (es : List Node.Emit) : Page :=
  run (fun p e => p.step U (.receive e)) p es

theorem hears_fst {p : Page} (h_ready : p.ready = true) (es : List Node.Emit) :
    (p.hears U es).doorStates = run (DoorStates.receive U) p.doorStates es ∧
      (p.hears U es).ready = true := by
  induction es generalizing p with
  | nil => exact ⟨rfl, h_ready⟩
  | cons e es ih =>
    have h_step : p.step U (.receive e) = (p.receive U e).1 := by
      unfold step exec
      dsimp only
      rw [if_pos h_ready]
    obtain ⟨h_states, h_ready'⟩ := receive_fst U e p
    obtain ⟨h_rest, h_rest'⟩ := ih (p := p.step U (.receive e)) (by rw [h_step, h_ready', h_ready])
    refine ⟨?_, h_rest'⟩
    rw [run_cons, ← h_states, ← h_step]
    exact h_rest

end Page

/-! ### What a page hears -/

/-- The event that reaches the socket `ws`. -/
def heard (ws : ℕ) : Node.ServerOut → Option Node.Emit
  | .emit ws' e => if ws' = ws then some e else none
  | .broadcast e => some e
  | .send _ => none
  | .callback _ _ => none

/-- The server and a page, after one event of the server. -/
def viewStep (ws : ℕ) (v : Node.Server × Page) (e : Node.ServerEv) : Node.Server × Page :=
  (v.1.step U e, v.2.hears U ((v.1.exec U e).2.filterMap (heard ws)))

/-- The server `s` and the page `p` on the socket `ws`, after the events `es` of the server. -/
def viewed (ws : ℕ) (s : Node.Server) (p : Page) (es : List Node.ServerEv) : Node.Server × Page :=
  run (viewStep U ws) (s, p) es

/-- A socket is told about an error or about nothing, if the client is. -/
theorem heard_commandError (k : Node.Client) (moduleId error : CStr) (cmdid ws : ℕ) :
    (k.emit (.commandError moduleId cmdid error)).filterMap (heard ws) = [] ∨
      (k.emit (.commandError moduleId cmdid error)).filterMap (heard ws) =
        [.commandError moduleId cmdid error] := by
  cases k with
  | browser ws' =>
    by_cases h_ws : ws' = ws
    · exact Or.inr (by simp [Node.Client.emit, heard, h_ws])
    · exact Or.inl (by simp [Node.Client.emit, heard, h_ws])
  | lockDoor request moduleId' => exact Or.inl rfl
  | unlockDoor request moduleId' => exact Or.inl rfl

/-- The answer to a request reaches at most one socket, as it is. -/
theorem heard_emitFeedback (s : Node.Server) (socket : Node.EntrySocket) (module : CStr)
    (cmdid : Option ℤ) (target action raw : CStr) (ws : ℕ) :
    (s.emitFeedback U socket module cmdid target action raw).2.filterMap (heard ws) = [] ∨
      (s.emitFeedback U socket module cmdid target action raw).2.filterMap (heard ws) =
        [.commandFeedback module cmdid target action raw] := by
  cases socket with
  | client k =>
    cases k with
    | browser ws' =>
      by_cases h_ws : ws' = ws
      · exact Or.inr (by simp [Node.Server.emitFeedback, Node.Client.emit, heard, h_ws])
      · exact Or.inl (by simp [Node.Server.emitFeedback, Node.Client.emit, heard, h_ws])
    | lockDoor request moduleId => exact Or.inl rfl
    | unlockDoor request moduleId => exact Or.inl rfl
  | doorInfo request timer => exact Or.inl rfl

/-- What a step of the server lets its pages hear: at most errors on single sockets; one event on
all of them; or a FEEDBACK, which may be heard by a socket once more before. -/
inductive Hearing : (ℕ → List Node.Emit) → Prop
  | errors {f : ℕ → List Node.Emit}
      (h_f : ∀ ws, f ws = [] ∨ ∃ module cmdid error, f ws = [.commandError module cmdid error]) :
      Hearing f
  | same (es : List Node.Emit) : Hearing (fun _ => es)
  | feedback {f : ℕ → List Node.Emit} (module : CStr) (cmdid : Option ℤ) (target raw : CStr)
      (a : ActionText)
      (h_f : ∀ ws, ∃ direct, (direct = [] ∨
          direct = [.commandFeedback module cmdid target a.text raw]) ∧
        f ws = direct ++
          [.doorFeedback module target (Node.Server.formattedAction U a.text),
            .commandFeedback module cmdid target a.text raw]) : Hearing f

/-- A datagram. -/
theorem hearing_message (s : Node.Server) (text : CStr) :
    Hearing U (fun ws => (s.message U text).2.filterMap (heard ws)) := by
  rcases s.message_cases U text with
    ⟨module, cmdidS, target, action, h_ne, h_words, h_eq⟩ | ⟨e, h_eq⟩
  · -- a FEEDBACK: one tab may hear it twice, once as its own answer
    let a : ActionText := ⟨action, h_ne, fun w h_w => isToken_of_mem_words (s := trim text) (by
      rw [h_words]
      exact List.mem_cons_of_mem _ (List.mem_cons_of_mem _ (List.mem_cons_of_mem _
        (List.mem_cons_of_mem _ h_w))))⟩
    refine .feedback module (Node.parseInt cmdidS) target (trim text) a (fun ws => ?_)
    rw [h_eq]
    unfold Node.Server.feedback
    dsimp only
    rcases s.pendingGet (Node.parseInt cmdidS) with _ | ⟨key, p⟩
    · exact ⟨[], Or.inl rfl, rfl⟩
    · refine ⟨_, heard_emitFeedback U s p.socket module (Node.parseInt cmdidS) target
        (spaced action) (trim text) ws, ?_⟩
      dsimp only
      rw [List.filterMap_append]
      rfl
  · -- anything else is broadcast alone
    have h_same : (fun ws => (s.message U text).2.filterMap (heard ws)) = fun _ => [e] := by
      funext ws
      rw [h_eq]
      rfl
    rw [h_same]
    exact .same [e]

/-- The callback of a send. -/
theorem hearing_sendDone (s : Node.Server) (cmdid : ℕ) (err : Option CStr) :
    Hearing U (fun ws => (s.sendDone cmdid err).2.filterMap (heard ws)) := by
  refine .errors (fun ws => ?_)
  unfold Node.Server.sendDone
  rcases s.sending cmdid with _ | out
  · exact Or.inl rfl
  · cases out with
    | command moduleId socket =>
      cases err with
      | none => exact Or.inl rfl
      | some error =>
        rcases heard_commandError socket moduleId error cmdid ws with h_none | h_error
        · exact Or.inl h_none
        · exact Or.inr ⟨_, _, _, h_error⟩
    | doorInfo timer =>
      cases err with
      | none => exact Or.inl rfl
      | some error => exact Or.inl rfl

/-- A timer of the server. -/
theorem hearing_timeout (s : Node.Server) (timer : ℕ) :
    Hearing U (fun ws => (s.timeout timer).2.filterMap (heard ws)) := by
  refine .errors (fun ws => ?_)
  unfold Node.Server.timeout
  rcases s.timers timer with _ | t
  · exact Or.inl rfl
  · cases t with
    | command cmdid moduleId socket =>
      rcases heard_commandError socket moduleId "No FEEDBACK from hub".toList cmdid ws with
        h_none | h_error
      · exact Or.inl h_none
      · exact Or.inr ⟨_, _, _, h_error⟩
    | doorInfo cmdid => exact Or.inl rfl

/-- Any event of the server. -/
theorem hearing_exec (s : Node.Server) (e : Node.ServerEv) :
    Hearing U (fun ws => (s.exec U e).2.filterMap (heard ws)) := by
  cases e with
  | sendCommand ws' module target action => exact .same []
  | lockDoor moduleId => exact .same []
  | unlockDoor moduleId => exact .same []
  | getDoorInfo moduleId => exact .same []
  | sent cmdid err => exact hearing_sendDone U s cmdid err
  | message text => exact hearing_message U s text
  | timeout timer => exact hearing_timeout U s timer

/-! ### Equal caches -/

/-- **Absorption.** A `command-feedback` in front of the two events of the same FEEDBACK is not seen
after them. -/
theorem DoorStates.absorb (states : DoorStates) (module : CStr) (cmdid : Option ℤ)
    (target action action' raw : CStr) :
    run (DoorStates.receive U) states [.commandFeedback module cmdid target action raw,
        .doorFeedback module target action', .commandFeedback module cmdid target action raw] =
      run (DoorStates.receive U) states [.doorFeedback module target action',
        .commandFeedback module cmdid target action raw] := by
  simp only [run_cons, run_nil, DoorStates.receive, DoorStates.applyAt]
  rcases ModuleId.lookup module with _ | m
  · rfl
  · simp only [Function.update_self, Function.update_idem]
    rw [(isAssign_applyCommandFeedback U action).absorb DoorState.get_injective
      (isAssign_applyDoorFeedback U action')]

/-- All sockets hear what leads to the same cache. -/
theorem Hearing.run_eq {f : ℕ → List Node.Emit} (h_f : Hearing U f) (states : DoorStates)
    (ws ws' : ℕ) :
    run (DoorStates.receive U) states (f ws) = run (DoorStates.receive U) states (f ws') := by
  cases h_f with
  | errors h_f =>
    have h_errors (ws : ℕ) : run (DoorStates.receive U) states (f ws) = states := by
      -- an error leaves the states alone
      rcases h_f ws with h_eq | ⟨module, cmdid, error, h_eq⟩
      · rw [h_eq]
        rfl
      · rw [h_eq]
        rfl
    rw [h_errors, h_errors]
  | same es => rfl
  | feedback module cmdid target raw a h_f =>
    -- the extra answer of the asking tab is absorbed by the broadcast
    have h_two (ws : ℕ) : run (DoorStates.receive U) states (f ws) =
        run (DoorStates.receive U) states
          [.doorFeedback module target (Node.Server.formattedAction U a.text),
            .commandFeedback module cmdid target a.text raw] := by
      obtain ⟨direct, rfl | rfl, h_eq⟩ := h_f ws
      · rw [h_eq]
        rfl
      · rw [h_eq]
        exact states.absorb U module cmdid target a.text _ raw
    rw [h_two, h_two]

/-- From equal caches, two pages whose handlers are set up have equal caches after all events of
the server, whatever the server has pending and for whom. -/
def TabsConverge : Prop :=
  ∀ (s : Node.Server) (ws ws' : ℕ) (p p' : Page), p.ready = true → p'.ready = true →
    p.doorStates = p'.doorStates → ∀ es,
      (viewed U ws s p es).2.doorStates = (viewed U ws' s p' es).2.doorStates

/-- **Tabs.** All pages converge. -/
theorem tabsConverge : TabsConverge U := by
  intro s ws ws' p p' h_ready h_ready' h_eq es
  induction es generalizing s p p' with
  | nil => exact h_eq
  | cons e es ih =>
    obtain ⟨h_states, h_still⟩ := Page.hears_fst U h_ready ((s.exec U e).2.filterMap (heard ws))
    obtain ⟨h_states', h_still'⟩ := Page.hears_fst U h_ready' ((s.exec U e).2.filterMap (heard ws'))
    refine ih (s.step U e) _ _ h_still h_still' ?_
    rw [h_states, h_states', ← h_eq]
    exact (hearing_exec U s e).run_eq U p.doorStates ws ws'

end Web

end DoorSystem
