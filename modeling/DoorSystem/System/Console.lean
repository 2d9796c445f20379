import DoorSystem.Hub.Log
import DoorSystem.Hub.Membership
import DoorSystem.Led.Queue
import DoorSystem.Lib.Stdio
import DoorSystem.System.Views

/-!
# The command loop of the hub

The loop `hub> ` in `main` of `door_system.c`: `q` ends it, `s <id>` asks for a module and `h` for
the history, each answered on the screen, with an LED task and with a webhook message. The commands
are what `fgets` reads into `cmd[64]`, so a longer line is more than one command. Meanwhile the hub
goes on.

`console_contract` says that neither disturbs the other: the hub is that of its own events, and the
commands are those of the input, whatever the hub does. Every module the hub knows can be asked for
with `s <id>`; the word `status` is not a command, its tail is taken for the id. The history is
answered with the oldest entries that are stored, never more than 20.
-/

namespace DoorSystem

open CLib

namespace System

open Hub Led

/-! ### The loop -/

/-- What a command does. -/
inductive ConsoleOut
  | print (text : CStr)
  | led (call : LedCall)
  | webhook (text : CStr)

/-- `sscanf(cmd, "s %15s", id)`. -/
def scanId : CStr → Option CStr
  | 's' :: rest => (scanWord 15 rest).map Prod.fst
  | _ => none

/-- The branch for `s`. -/
def statusCommand (cmd : CStr) (h : HubState) : List ConsoleOut :=
  match scanId cmd with
  | none => []
  | some id =>
    match hubUdpGetStatus id h with
    | some st =>
      [.print (statusLine st), .led .hubCommandSuccess, .webhook (statusMessage st)]
    | none =>
      [.led .hubCommandFailure, .print ("No status for ".toList ++ id ++ " yet.\n".toList),
        .webhook "Hub: status request failed (no status available)".toList]

/-- `"[%lld] %s: %s\n"`, a line of the history. -/
def entryText (e : ℤ × CStr × CStr) : CStr :=
  '[' :: (fmtInt e.1 ++ "] ".toList ++ e.2.1 ++ ": ".toList ++ e.2.2 ++ ['\n'])

/-- The branch for `h`. -/
def historyCommand (h : HubState) : List ConsoleOut :=
  let (n, events) := hubUdpGetHistory 20 h.gHistory
  events.map (fun e => .print (entryText e.shown)) ++
    if 0 < n then [.led .hubCommandSuccess, .webhook "Hub: history retrieved".toList]
    else [.led .hubCommandFailure, .webhook "Hub: history empty".toList]

/-- The rest of a turn, on what was read. -/
def runCommand (line : List Char) (h : HubState) : List ConsoleOut :=
  let cmd := cstr line
  (if cmd.head? = some 's' then statusCommand cmd h else []) ++
    if cmd.head? = some 'h' then historyCommand h else []

/-- `cmd[0] == 'q'`. -/
def isQuit (line : List Char) : Bool := line.head? = some 'q'

/-- The loop, and the hub beside it. -/
structure Console where
  hub : HubState
  /-- What is still to be read. -/
  input : List Char
  inLoop : Bool

/-- A command that was read, with the hub at that time. -/
structure Turn where
  line : List Char
  hub : HubState
  outs : List ConsoleOut

/-- What happens. -/
inductive ConsoleEv
  /-- Something else in the program: a datagram, a check, a command that is sent. -/
  | hub (e : HubEv)
  | turn

/-- One step. -/
def execConsole (s : Console) : ConsoleEv → Console × List Turn
  | .hub e => ({ s with hub := step s.hub e }, [])
  | .turn =>
    if s.inLoop then
      match fgets 64 s.input with
      | none => ({ s with inLoop := false }, [])
      | some (line, rest) =>
        -- no other branch looks at a line that starts with `q`
        if isQuit line then
          ({ s with input := rest, inLoop := false }, [⟨line, s.hub, []⟩])
        else ({ s with input := rest }, [⟨line, s.hub, runCommand line s.hub⟩])
    else (s, [])

/-- The loop at its start. -/
def Console.initial (url : CharBuf 512) (input : List Char) : Console :=
  ⟨HubState.initial url, input, true⟩

def consoleRun (url : CharBuf 512) (input : List Char) (es : List ConsoleEv) :
    Console × List Turn :=
  run (logged execConsole) (Console.initial url input, []) es

/-! ### The parts of a run -/

def ConsoleEv.hub? : ConsoleEv → Option HubEv
  | .hub e => some e
  | .turn => none

/-- What happens to the hub. -/
def hubPart (es : List ConsoleEv) : List HubEv := es.filterMap ConsoleEv.hub?

def ConsoleEv.isTurn : ConsoleEv → Bool
  | .hub _ => false
  | .turn => true

def ConsoleOut.led? : ConsoleOut → Option LedCall
  | .led c => some c
  | _ => none

def ConsoleOut.webhook? : ConsoleOut → Option CStr
  | .webhook m => some m
  | _ => none

def ConsoleOut.print? : ConsoleOut → Option CStr
  | .print t => some t
  | _ => none

/-- The entries that `h` shows of a log: of those that are stored, the oldest. -/
def shownOf (log : List LogEntry) : List LogEntry :=
  (log.drop (log.length - HUB_MAX_HISTORY)).take 20

/-! ### A turn -/

theorem cstr_cons {c : Char} (h_c : c ≠ Char.ofNat 0) (s : List Char) :
    cstr (c :: s) = c :: cstr s := by
  unfold cstr
  rw [List.takeWhile_cons_of_pos (by simpa using h_c)]

theorem runCommand_quit {line : List Char} (h_line : isQuit line = true) (h : HubState) :
    runCommand line h = [] := by
  obtain ⟨rest, rfl⟩ : ∃ rest, line = 'q' :: rest := by
    unfold isQuit at h_line
    exact List.head?_eq_some_iff.mp (of_decide_eq_true h_line)
  unfold runCommand
  rw [cstr_cons (by decide)]
  rfl

theorem runCommand_status (rest : List Char) (h : HubState) :
    runCommand ('s' :: rest) h = statusCommand ('s' :: cstr rest) h := by
  unfold runCommand
  rw [cstr_cons (by decide)]
  exact List.append_nil _

theorem runCommand_history (rest : List Char) (h : HubState) :
    runCommand ('h' :: rest) h = historyCommand h := by
  unfold runCommand
  rw [cstr_cons (by decide)]
  rfl

theorem scanId_cons (rest : CStr) : scanId ('s' :: rest) = (scanWord 15 rest).map Prod.fst := rfl

/-- The branches of a turn. -/
theorem runCommand_cases (line : List Char) (h : HubState) :
    runCommand line h = [] ∨ (∃ cmd, runCommand line h = statusCommand cmd h) ∨
      runCommand line h = historyCommand h := by
  by_cases h_s : line.head? = some 's'
  · obtain ⟨rest, rfl⟩ := List.head?_eq_some_iff.mp h_s
    exact .inr (.inl ⟨_, runCommand_status rest h⟩)
  · by_cases h_h : line.head? = some 'h'
    · obtain ⟨rest, rfl⟩ := List.head?_eq_some_iff.mp h_h
      exact .inr (.inr (runCommand_history rest h))
    · left
      have h_head : ∀ c, (cstr line).head? = some c → line.head? = some c := by
        -- the line as a C string begins as the line does
        intro c h_c
        obtain ⟨rest, h_rest⟩ := List.head?_eq_some_iff.mp h_c
        have h_prefix : cstr line <+: line := List.takeWhile_prefix _
        rw [h_rest] at h_prefix
        obtain ⟨tail, rfl⟩ := h_prefix
        rfl
      unfold runCommand
      dsimp only
      rw [if_neg (fun h_c => h_s (h_head 's' h_c)), if_neg (fun h_c => h_h (h_head 'h' h_c))]
      rfl

/-- An answer lights one LED task and sends one message. -/
def Paired (outs : List ConsoleOut) : Prop :=
  ∃ call m, (call = .hubCommandSuccess ∨ call = .hubCommandFailure) ∧
    outs.filterMap ConsoleOut.led? = [call] ∧ outs.filterMap ConsoleOut.webhook? = [m]

theorem paired_statusCommand (cmd : CStr) (h : HubState) :
    statusCommand cmd h = [] ∨ Paired (statusCommand cmd h) := by
  unfold statusCommand
  cases scanId cmd with
  | none => exact .inl rfl
  | some id =>
    right
    dsimp only
    cases hubUdpGetStatus id h with
    | some st => exact ⟨_, _, .inl rfl, rfl, rfl⟩
    | none => exact ⟨_, _, .inr rfl, rfl, rfl⟩

/-- The lines of the history are neither tasks nor messages. -/
theorem filterMap_prints {β : Type} (f : ConsoleOut → Option β)
    (h_f : ∀ t, f (.print t) = none) (events : List HubEvent) (outs : List ConsoleOut) :
    (events.map (fun e => ConsoleOut.print (entryText e.shown)) ++ outs).filterMap f =
      outs.filterMap f := by
  rw [List.filterMap_append, List.filterMap_map, List.filterMap_eq_nil_iff.mpr, List.nil_append]
  exact fun e _ => h_f _

theorem paired_historyCommand (h : HubState) : Paired (historyCommand h) := by
  unfold historyCommand Paired
  dsimp only
  rw [filterMap_prints _ (fun _ => rfl), filterMap_prints _ (fun _ => rfl)]
  split
  · exact ⟨_, _, .inl rfl, rfl, rfl⟩
  · exact ⟨_, _, .inr rfl, rfl, rfl⟩

theorem paired_runCommand (line : List Char) (h : HubState) :
    runCommand line h = [] ∨ Paired (runCommand line h) := by
  rcases runCommand_cases line h with h_nil | ⟨cmd, h_cmd⟩ | h_hist
  · exact .inl h_nil
  · rw [h_cmd]
    exact paired_statusCommand cmd h
  · rw [h_hist]
    exact .inr (paired_historyCommand h)

/-- **A module can be asked for** with its id behind the letter. -/
theorem runCommand_known {url : CharBuf 512} {es : List HubEv} {m : CStr}
    (h_known : Known m (reached url es)) (h_m : ∀ c ∈ m, isSpace c = false) :
    ∃ st, hubUdpGetStatus m (reached url es) = some st ∧
      runCommand ("s ".toList ++ m ++ ['\n']) (reached url es) =
        [.print (statusLine st), .led .hubCommandSuccess, .webhook (statusMessage st)] := by
  obtain ⟨h_text, h_length⟩ := isText_of_known h_known
  obtain ⟨st, h_st⟩ := Option.ne_none_iff_exists'.mp h_known
  have h_noNul : Char.ofNat 0 ∉ ' ' :: (m ++ ['\n']) := by
    -- the whole line is read, and the id fits the 15 characters that sscanf takes
    rw [List.mem_cons, List.mem_append, List.mem_singleton]
    rintro (h_blank | h_mem | h_newline)
    · exact absurd h_blank (by decide)
    · exact h_text.2 h_mem
    · exact absurd h_newline (by decide)
  have h_id : scanId ('s' :: cstr (' ' :: (m ++ ['\n']))) = some m := by
    rw [cstr_of_noNul h_noNul, scanId_cons, scanWord_white 15 (by decide),
      scanWord_space ⟨h_text.1.1, h_m⟩ h_length (by decide)]
    rfl
  refine ⟨st, h_st, ?_⟩
  rw [show "s ".toList ++ m ++ ['\n'] = 's' :: ' ' :: (m ++ ['\n']) from rfl, runCommand_status]
  unfold statusCommand
  rw [h_id]
  dsimp only
  rw [h_st]

/-- The word `status` asks for a module `tatus`. -/
theorem runCommand_word (rest : List Char) (h : HubState) :
    runCommand ("status ".toList ++ rest) h = runCommand "s tatus\n".toList h := by
  have h_id : scanId ('s' :: cstr ("tatus ".toList ++ rest)) = some "tatus".toList := by
    have h_cstr : cstr ("tatus ".toList ++ rest) = "tatus".toList ++ ' ' :: cstr rest := by
      simp [cstr]
    have h_word : IsToken isSpace "tatus".toList := by decide
    rw [h_cstr, scanId_cons, scanWord_space h_word (by decide) (by decide)]
    rfl
  have h_id' : scanId ('s' :: cstr " tatus\n".toList) = some "tatus".toList := by decide
  rw [show "status ".toList ++ rest = 's' :: ("tatus ".toList ++ rest) from rfl,
    show "s tatus\n".toList = 's' :: " tatus\n".toList from rfl, runCommand_status,
    runCommand_status]
  unfold statusCommand
  rw [h_id, h_id']

example : scanId "status D1\n".toList = some "tatus".toList := by decide

/-- **The history shows the oldest entries.** -/
theorem print_historyCommand (url : CharBuf 512) (es : List HubEv) :
    (historyCommand (reached url es)).filterMap ConsoleOut.print? =
      (shownOf (runLog (HubState.initial url) es)).map (fun l => entryText l.shown) := by
  have h_rep := represents_journal url es
  have h_shown := journal_shown (HubState.initial url) es
  -- from here on only the two lists and what they show matter
  generalize (journal (HubState.initial url) es).map HistoryCall.event = xs at h_rep h_shown
  generalize runLog (HubState.initial url) es = log at h_shown ⊢
  have h_length : xs.length = log.length := by
    have h_lengths := congrArg List.length h_shown
    rwa [List.length_map, List.length_map] at h_lengths
  unfold historyCommand
  rw [hubUdpGetHistory_eq h_rep]
  dsimp only
  have h_prints : ∀ events : List HubEvent, (events.map
      (fun e => ConsoleOut.print (entryText e.shown))).filterMap ConsoleOut.print? =
        (events.map HubEvent.shown).map entryText := by
    intro events
    rw [List.filterMap_map, List.map_map]
    show events.filterMap (some ∘ (entryText ∘ HubEvent.shown)) = _
    rw [List.filterMap_eq_map]
  have h_rest : ∀ n : ℕ, (if 0 < n then
      [ConsoleOut.led .hubCommandSuccess, .webhook "Hub: history retrieved".toList]
      else [.led .hubCommandFailure, .webhook "Hub: history empty".toList]).filterMap
        ConsoleOut.print? = [] := by
    intro n
    split <;> rfl
  rw [List.filterMap_append, h_prints, h_rest, List.append_nil]
  unfold Ring.stored shownOf
  rw [List.map_take, List.map_drop, h_shown, h_length]
  simp only [List.map_take, List.map_drop, List.map_map]
  rfl

/-! ### Runs -/

theorem consoleRun_concat (url : CharBuf 512) (input : List Char) (es : List ConsoleEv)
    (e : ConsoleEv) :
    consoleRun url input (es ++ [e]) = logged execConsole (consoleRun url input es) e :=
  run_append _ _ _ _

/-- **Step on the hub**: the loop only reads it. -/
theorem execConsole_hub (s : Console) (e : ConsoleEv) :
    (execConsole s e).1.hub = run step s.hub (hubPart [e]) := by
  cases e with
  | hub e => rfl
  | turn =>
    unfold execConsole
    dsimp only
    split
    · cases fgets 64 s.input with
      | none => rfl
      | some r =>
        dsimp only
        split <;> rfl
    · rfl

theorem consoleRun_hub (url : CharBuf 512) (input : List Char) (es : List ConsoleEv) :
    (consoleRun url input es).1.hub = reached url (hubPart es) := by
  induction es using List.reverseRecOn with
  | nil => rfl
  | append_singleton es e ih =>
    rw [consoleRun_concat]
    unfold logged reached hubPart
    rw [List.filterMap_append, run_append, execConsole_hub, ih]
    rfl

/-- **Step on the turns**: at most one, with what its command does on the hub as it is. -/
theorem execConsole_turns (s : Console) (e : ConsoleEv) :
    ∀ t ∈ (execConsole s e).2, t.hub = s.hub ∧ t.outs = runCommand t.line t.hub := by
  cases e with
  | hub e => exact fun t h_t => absurd h_t List.not_mem_nil
  | turn =>
    unfold execConsole
    dsimp only
    split
    · cases fgets 64 s.input with
      | none => exact fun t h_t => absurd h_t List.not_mem_nil
      | some r =>
        dsimp only
        -- the quit line ends the loop, and says nothing
        by_cases h_quit : isQuit r.1 = true
        · rw [if_pos h_quit]
          intro t h_t
          rw [List.mem_singleton.mp h_t]
          exact ⟨rfl, (runCommand_quit h_quit s.hub).symm⟩
        · rw [if_neg h_quit]
          intro t h_t
          rw [List.mem_singleton.mp h_t]
          exact ⟨rfl, rfl⟩
    · exact fun t h_t => absurd h_t List.not_mem_nil

/-- Every turn is taken on the hub of some moment of the run. -/
theorem consoleRun_turns (url : CharBuf 512) (input : List Char) (es : List ConsoleEv) :
    ∀ t ∈ (consoleRun url input es).2, ∃ pre, pre <+: es ∧
      t.hub = reached url (hubPart pre) ∧ t.outs = runCommand t.line t.hub := by
  induction es using List.reverseRecOn with
  | nil => exact fun t h_t => absurd h_t List.not_mem_nil
  | append_singleton es e ih =>
    intro t h_t
    rw [consoleRun_concat] at h_t
    rcases List.mem_append.mp h_t with h_old | h_new
    · obtain ⟨pre, h_pre, h_turn⟩ := ih t h_old
      exact ⟨pre, h_pre.trans (List.prefix_append es [e]), h_turn⟩
    · obtain ⟨h_hub, h_outs⟩ := execConsole_turns _ e t h_new
      rw [consoleRun_hub] at h_hub
      exact ⟨es, List.prefix_append es [e], h_hub, h_outs⟩

/-- **What is read** does not depend on the hub. -/
theorem run_lines (s : Console) (log : List Turn) (es : List ConsoleEv) :
    (run (logged execConsole) (s, log) es).2.map Turn.line = log.map Turn.line ++
      if s.inLoop then readAll 64 isQuit (es.countP ConsoleEv.isTurn) s.input else [] := by
  induction es generalizing s log with
  | nil =>
    rw [run_nil, List.countP_nil]
    unfold readAll
    rw [ite_self, List.append_nil]
  | cons e es ih =>
    rw [run_cons]
    unfold logged at ih ⊢
    rw [ih]
    cases e with
    | hub e =>
      -- the loop does not see what happens to the hub
      rw [List.countP_cons_of_neg (by simp [ConsoleEv.isTurn])]
      unfold execConsole
      rw [List.append_nil]
    | turn =>
      rw [List.countP_cons_of_pos rfl, readAll_succ]
      unfold execConsole
      dsimp only
      by_cases h_in : s.inLoop = true
      · rw [if_pos h_in]
        cases fgets 64 s.input with
        | none => simp [h_in]
        | some r =>
          dsimp only
          by_cases h_quit : isQuit r.1 = true
          · simp [h_in, h_quit]
          · simp [h_in, h_quit]
      · simp [h_in]

/-- **Step on the input**: a turn that goes on has read something. -/
theorem execConsole_input {s : Console} {e : ConsoleEv}
    (h_in : (execConsole s e).1.inLoop = true) : s.inLoop = true ∧
      (execConsole s e).1.input.length + [e].countP ConsoleEv.isTurn ≤ s.input.length := by
  cases e with
  | hub e => exact ⟨h_in, le_rfl⟩
  | turn =>
    unfold execConsole at h_in ⊢
    dsimp only at h_in ⊢
    by_cases h_s : s.inLoop = true
    · rw [if_pos h_s] at h_in ⊢
      refine ⟨h_s, ?_⟩
      -- a turn that stays in the loop has taken at least one character
      cases h_read : fgets 64 s.input with
      | none =>
        rw [h_read] at h_in
        exact absurd h_in (by simp)
      | some r =>
        rw [h_read] at h_in
        obtain ⟨h_append, h_piece⟩ := fgets_spec (by decide) h_read
        have h_pos := List.length_pos_of_ne_nil h_piece.ne_nil
        have h_length := congrArg List.length h_append
        rw [List.length_append] at h_length
        have h_one : [ConsoleEv.turn].countP ConsoleEv.isTurn = 1 := rfl
        dsimp only at h_in ⊢
        split at h_in
        · exact absurd h_in (by simp)
        · next h_quit =>
          rw [if_neg h_quit, h_one]
          dsimp only
          omega
    · rw [if_neg h_s] at h_in
      exact absurd h_in h_s

theorem consoleRun_input (url : CharBuf 512) (input : List Char) (es : List ConsoleEv)
    (h_in : (consoleRun url input es).1.inLoop = true) :
    (consoleRun url input es).1.input.length + es.countP ConsoleEv.isTurn ≤ input.length := by
  induction es using List.reverseRecOn with
  | nil => exact le_rfl
  | append_singleton es e ih =>
    rw [consoleRun_concat] at h_in ⊢
    obtain ⟨h_before, h_step⟩ := execConsole_input h_in
    have h_es := ih h_before
    rw [List.countP_append]
    unfold logged
    dsimp only
    omega

/-- **The loop ends** with the input. -/
theorem consoleRun_ended (url : CharBuf 512) (input : List Char) (es : List ConsoleEv)
    (h_turns : input.length < es.countP ConsoleEv.isTurn) :
    (consoleRun url input es).1.inLoop = false := by
  by_contra h_not
  have h_le := consoleRun_input url input es (Bool.eq_true_of_not_eq_false h_not)
  omega

/-! ### The contract -/

/-- A turn, on the hub after `pre`. -/
structure TurnSound (url : CharBuf 512) (pre : List ConsoleEv) (t : Turn) : Prop where
  hub : t.hub = reached url (hubPart pre)
  piece : IsPiece 64 t.line
  paired : t.outs = [] ∨ Paired t.outs
  /-- Every module that the hub knows is answered for by its status. -/
  known : ∀ m, Known m t.hub → (∀ c ∈ m, isSpace c = false) →
    t.line = "s ".toList ++ m ++ ['\n'] →
      ∃ st, hubUdpGetStatus m t.hub = some st ∧
        t.outs = [.print (statusLine st), .led .hubCommandSuccess, .webhook (statusMessage st)]
  /-- Whatever stands behind `status`, the module that is asked for is `tatus`. -/
  word : ∀ rest, t.line = "status ".toList ++ rest →
    t.outs = runCommand "s tatus\n".toList t.hub
  /-- The history starts with the oldest entry that is stored. -/
  history : t.line.head? = some 'h' → t.outs.filterMap ConsoleOut.print? =
    (shownOf (runLog (HubState.initial url) (hubPart pre))).map (fun l => entryText l.shown)

/-- What holds of the loop and the hub beside it, after any steps of both. -/
structure ConsoleContract (url : CharBuf 512) (input : List Char) (es : List ConsoleEv) : Prop where
  /-- The hub is that of its own events. -/
  hub : (consoleRun url input es).1.hub = reached url (hubPart es)
  /-- The commands are those of the input. -/
  commands : (consoleRun url input es).2.map Turn.line =
    readAll 64 isQuit (es.countP ConsoleEv.isTurn) input
  /-- Nothing is lost of what is typed before the loop ends. -/
  text : ((consoleRun url input es).2.map Turn.line).flatten <+: input ∧
    (input.length ≤ es.countP ConsoleEv.isTurn →
      (∀ t ∈ (consoleRun url input es).2, isQuit t.line = false) →
      ((consoleRun url input es).2.map Turn.line).flatten = input)
  /-- Lines of at most 62 characters are commands. -/
  lines : ∀ ls : List (List Char), (∀ l ∈ ls, '\n' ∉ l ∧ l.length ≤ 62) →
    input = ls.flatMap (fun l => l ++ ['\n']) →
    (consoleRun url input es).2.map Turn.line =
      (upTo isQuit (ls.map (fun l => l ++ ['\n']))).take (es.countP ConsoleEv.isTurn)
  ended : input.length < es.countP ConsoleEv.isTurn → (consoleRun url input es).1.inLoop = false
  turns : ∀ t ∈ (consoleRun url input es).2, ∃ pre, pre <+: es ∧ TurnSound url pre t

theorem turnSound {url : CharBuf 512} {pre : List ConsoleEv} {t : Turn}
    (h_hub : t.hub = reached url (hubPart pre)) (h_outs : t.outs = runCommand t.line t.hub)
    (h_piece : IsPiece 64 t.line) : TurnSound url pre t where
  hub := h_hub
  piece := h_piece
  paired := by
    rw [h_outs]
    exact paired_runCommand t.line t.hub
  known := by
    intro m h_known h_m h_line
    rw [h_outs, h_line]
    rw [h_hub] at h_known ⊢
    exact runCommand_known h_known h_m
  word := by
    intro rest h_line
    rw [h_outs, h_line]
    exact runCommand_word rest t.hub
  history := by
    intro h_head
    obtain ⟨rest, h_line⟩ := List.head?_eq_some_iff.mp h_head
    rw [h_outs, h_line, runCommand_history, h_hub]
    exact print_historyCommand url (hubPart pre)

/-- **The command loop and the hub** leave each other alone, whatever is typed and whatever the hub
receives, in any order. -/
theorem console_contract (url : CharBuf 512) (input : List Char) (es : List ConsoleEv) :
    ConsoleContract url input es := by
  have h_lines : (consoleRun url input es).2.map Turn.line =
      readAll 64 isQuit (es.countP ConsoleEv.isTurn) input :=
    run_lines (Console.initial url input) [] es
  have h_size : 1 < 64 := by decide
  have h_flatten := flatten_readAll h_size (es.countP ConsoleEv.isTurn) input isQuit
  have h_pieces := forall_mem_readAll h_size (es.countP ConsoleEv.isTurn) input isQuit
  rw [← h_lines] at h_flatten h_pieces
  obtain ⟨h_begin, h_all⟩ := h_flatten
  refine ⟨consoleRun_hub url input es, h_lines, ⟨h_begin, fun h_length h_none => ?_⟩, ?_,
    consoleRun_ended url input es, fun t h_t => ?_⟩
  · refine h_all h_length (fun line h_line => ?_)
    obtain ⟨t, h_t, rfl⟩ := List.mem_map.mp h_line
    exact h_none t h_t
  · -- whole lines that fit the buffer are read one by one
    rintro ls h_ls rfl
    rw [h_lines]
    refine readAll_lines (fun l h_l => ⟨(h_ls l h_l).1, ?_⟩) _
    have h_length := (h_ls l h_l).2
    omega
  · obtain ⟨pre, h_pre, h_hub, h_outs⟩ := consoleRun_turns url input es t h_t
    exact ⟨pre, h_pre, turnSound h_hub h_outs (h_pieces t.line (List.mem_map_of_mem h_t))⟩

end System

end DoorSystem
