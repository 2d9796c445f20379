import DoorSystem.Hub.Line

/-!
# What one event does to each table

`handle_line` is long, but each static variable is touched in few places. This file reads off, for
every variable, its value after one event as a function of the words of the line and of that
variable alone; the invariants are derived from these equations, and `handle_line` is not unfolded
again.

* `step_gDoors_cases`: the slot of the line's module changes to `lineStatus`, and no other; the
  offline check (`OfflineOnly`) writes the two offline fields only.
* `step_gEndpoints`, `step_gNextCmdid`: the endpoint table and the command counter.
* `exec_pending_cases`: the table of pending commands, and what is relayed.
* `step_feedback`: what a slot remembers of its module's last FEEDBACK.
-/

namespace DoorSystem

open CLib

namespace Hub

/-! ### Words of an event -/

/-- The words of the line an event carries. -/
def HubEv.words : HubEv → List CStr
  | .datagram data _ _ _ => lineTokens (datagramLine data)
  | .check _ => []
  | .alloc => []

/-- The source address of a datagram. -/
def HubEv.source : HubEv → SockAddr
  | .datagram _ src _ _ => src
  | .check _ => SockAddr.zero
  | .alloc => SockAddr.zero

theorem receiveDatagram_eq (data : List Char) (src : SockAddr) (t tReg : ℤ) (h : HubState) :
    receiveDatagram data src t tReg h
      = handleLine (datagramLine data) (datagramLine data) src t tReg h := by
  unfold receiveDatagram
  split
  · next h_nil =>
    -- an empty datagram has no words
    subst h_nil
    rfl
  · rfl

/-! ### Doors -/

@[simp] theorem modifyDoor_gDoors (h : HubState) (d : Fin HUB_MAX_DOORS)
    (f : HubDoorStatus → HubDoorStatus) :
    (h.modifyDoor d f).gDoors = Function.update h.gDoors d (f (h.gDoors d)) := rfl

@[simp] theorem modifyDoor_gPendingCmds (h : HubState) (d : Fin HUB_MAX_DOORS)
    (f : HubDoorStatus → HubDoorStatus) : (h.modifyDoor d f).gPendingCmds = h.gPendingCmds := rfl

/-- The status of the line's module after the dispatch on the line type. -/
def dispatchStatus (type : CStr) (args : List CStr) (histLine : CharBuf HUB_LINE_LEN) (t : ℤ)
    (s : HubDoorStatus) : HubDoorStatus :=
  if type = "HEARTBEAT".toList then heartbeatBranch args histLine t s
  else if type = "EVENT".toList then eventBranch args t s
  else if type = "FEEDBACK".toList then
    match args with
    | cmdidS :: target :: action :: _ => recordFeedback (atoi cmdidS) target action t s
    | _ => s
  else if type = "COMMAND".toList then s
  else { s with lastEventMs := t }

/-- The status of the line's module after the line. -/
def lineStatus (mod type : CStr) (args : List CStr) (src : SockAddr) (t : ℤ)
    (s : HubDoorStatus) : HubDoorStatus :=
  dispatchStatus type args (snprintf HUB_LINE_LEN (spaced [mod, type])) t
    (updateLastAddr type src s)

/-- The door table after a line of the module `mod`. -/
def lineDoors (mod type : CStr) (args : List CStr) (src : SockAddr) (t : ℤ) (g : DoorTable) :
    DoorTable :=
  match findOrCreateDoor mod g with
  | (g', some d) => Function.update g' d (lineStatus mod type args src t (g' d))
  | (g', none) => g'

/-- A heartbeat's tokens change the four state bits only. -/
theorem heartbeatLoop_frame (toks : List CStr) (s : HubDoorStatus) (buf : CharBuf HUB_LINE_LEN) :
    ∃ o l o' l', (heartbeatLoop toks s buf).1 =
      { s with d0Open := o, d0Locked := l, d1Open := o', d1Locked := l' } := by
  induction toks generalizing s buf with
  | nil => exact ⟨_, _, _, _, rfl⟩
  | cons tok toks ih =>
    unfold heartbeatLoop
    -- the rest of the tokens starts from what this token leaves
    obtain ⟨o, l, o', l', h_rest⟩ := ih (heartbeatToken tok s buf).1 (heartbeatToken tok s buf).2
    dsimp only
    rw [h_rest]
    unfold heartbeatToken
    dsimp only
    split_ifs <;> exact ⟨o, l, o', l', rfl⟩

/-- An event changes the four state bits and its stamp only. -/
theorem eventBranch_frame (args : List CStr) (t : ℤ) (s : HubDoorStatus) :
    ∃ o l o' l', eventBranch args t s =
      { s with d0Open := o, d0Locked := l, d1Open := o', d1Locked := l', lastEventMs := t } := by
  unfold eventBranch
  dsimp only
  split
  · split_ifs <;> exact ⟨_, _, _, _, rfl⟩
  · exact ⟨_, _, _, _, rfl⟩

/-- What the branches of the dispatch do to the status `s`. -/
inductive DispatchEffect (type : CStr) (args : List CStr) (histLine : CharBuf HUB_LINE_LEN) (t : ℤ)
    (s : HubDoorStatus) : HubDoorStatus → Prop
  | heartbeat (h_type : type = "HEARTBEAT".toList) (o l o' l' : Bool) (line : CharBuf HUB_LINE_LEN)
      (h_line : line = if (heartbeatLoop args s (CharBuf.zero _)).2.str = [] then histLine
        else (heartbeatLoop args s (CharBuf.zero _)).2) :
      DispatchEffect type args histLine t s
        { s with
          d0Open := o, d0Locked := l, d1Open := o', d1Locked := l'
          lastHeartbeatMs := t
          lastHeartbeatLine := line }
  | event (h_type : type = "EVENT".toList) (o l o' l' : Bool) :
      DispatchEffect type args histLine t s
        { s with d0Open := o, d0Locked := l, d1Open := o', d1Locked := l', lastEventMs := t }
  | feedback (h_type : type = "FEEDBACK".toList) (cmdidS target action : CStr) (rest : List CStr)
      (h_args : args = cmdidS :: target :: action :: rest) :
      DispatchEffect type args histLine t s (recordFeedback (atoi cmdidS) target action t s)
  | incomplete (h_type : type = "FEEDBACK".toList)
      (h_args : ∀ cmdidS target action rest, args ≠ cmdidS :: target :: action :: rest) :
      DispatchEffect type args histLine t s s
  | command (h_type : type = "COMMAND".toList) : DispatchEffect type args histLine t s s
  | other (h_heartbeat : type ≠ "HEARTBEAT".toList) (h_feedback : type ≠ "FEEDBACK".toList) :
      DispatchEffect type args histLine t s { s with lastEventMs := t }

theorem dispatchEffect (type : CStr) (args : List CStr) (histLine : CharBuf HUB_LINE_LEN) (t : ℤ)
    (s : HubDoorStatus) :
    DispatchEffect type args histLine t s (dispatchStatus type args histLine t s) := by
  unfold dispatchStatus
  split_ifs with h_hb h_ev h_fb h_cmd
  · -- a HEARTBEAT sets the stamp and whatever states its tokens name
    obtain ⟨o, l, o', l', h_loop⟩ := heartbeatLoop_frame args s (CharBuf.zero _)
    unfold heartbeatBranch
    dsimp only
    rw [h_loop]
    exact .heartbeat h_hb o l o' l' _ rfl
  · -- an EVENT sets states only
    obtain ⟨o, l, o', l', h_event⟩ := eventBranch_frame args t s
    rw [h_event]
    exact .event h_ev o l o' l'
  · split
    · exact .feedback h_fb _ _ _ _ rfl
    · next h_args => exact .incomplete h_fb h_args
  · -- a COMMAND or another word leaves the status alone
    exact .command h_cmd
  · exact .other h_hb h_fb

/-- **What a line does to the slot of its module.** `update_last_addr` comes before the dispatch, so
the branches start from its result. -/
theorem lineEffect (mod type : CStr) (args : List CStr) (src : SockAddr) (t : ℤ)
    (s : HubDoorStatus) :
    DispatchEffect type args (snprintf HUB_LINE_LEN (spaced [mod, type])) t
      (updateLastAddr type src s) (lineStatus mod type args src t s) :=
  dispatchEffect _ _ _ _ _

/-- A line leaves the id of its module's slot alone. -/
theorem lineStatus_tag (mod type : CStr) (args : List CStr) (src : SockAddr) (t : ℤ)
    (s : HubDoorStatus) :
    (lineStatus mod type args src t s).known = s.known ∧
      (lineStatus mod type args src t s).moduleId = s.moduleId := by
  have h_addr : (updateLastAddr type src s).known = s.known ∧
      (updateLastAddr type src s).moduleId = s.moduleId := by
    unfold updateLastAddr
    split_ifs <;> exact ⟨rfl, rfl⟩
  rw [← h_addr.1, ← h_addr.2]
  have h_effect := lineEffect mod type args src t s
  generalize lineStatus mod type args src t s = s' at h_effect ⊢
  cases h_effect <;> exact ⟨rfl, rfl⟩

/-- A line, slot by slot: it changes the slot that it finds or creates. -/
theorem lineDoors_slot (mod type : CStr) (args : List CStr) (src : SockAddr) (t : ℤ)
    (g : DoorTable) (i : Fin HUB_MAX_DOORS) :
    (findOrCreateDoor mod g).2 = some i ∧ lineDoors mod type args src t g i
        = lineStatus mod type args src t ((findOrCreateDoor mod g).1 i) ∨
      (findOrCreateDoor mod g).2 ≠ some i ∧
        lineDoors mod type args src t g i = (findOrCreateDoor mod g).1 i := by
  unfold lineDoors
  rcases findOrCreateDoor mod g with ⟨g', _ | d⟩
  · exact Or.inr ⟨by simp, rfl⟩
  · dsimp only
    by_cases h_i : i = d
    · rw [h_i, Function.update_self]
      exact Or.inl ⟨rfl, rfl⟩
    · rw [Function.update_of_ne h_i]
      exact Or.inr ⟨fun h => h_i (Option.some.inj h).symm, rfl⟩

/-- A line changes a taken slot only if it is its module's own line. -/
theorem lineDoors_of_holds {g : DoorTable} {m : CStr} {d : Fin HUB_MAX_DOORS} (h_d : Holds g m d)
    (mod type : CStr) (args : List CStr) (src : SockAddr) (t : ℤ) :
    lineDoors mod type args src t g d = g d ∨
      (mod = m ∧ lineDoors mod type args src t g d = lineStatus mod type args src t (g d)) := by
  unfold lineDoors
  rcases findOrCreateDoor_cases mod g with ⟨i, h_find, h_eq⟩ | ⟨i, -, h_free, h_eq⟩ | ⟨-, -, h_eq⟩
  · -- a module that is known: its slot is `d`, or another one
    rw [h_eq]
    dsimp only
    by_cases h_di : d = i
    · subst h_di
      rw [Function.update_self]
      exact Or.inr ⟨(holds_of_findDoor h_find).2.symm.trans h_d.2, rfl⟩
    · rw [Function.update_of_ne h_di]
      exact Or.inl rfl
  · -- a new module gets a free slot, and `d` is taken
    rw [h_eq]
    dsimp only
    have h_di : d ≠ i := by
      rintro rfl
      have h_known := h_d.1
      rw [freeDoor_eq_some h_free] at h_known
      exact absurd h_known (by simp)
    rw [Function.update_of_ne h_di, Function.update_of_ne h_di]
    exact Or.inl rfl
  · rw [h_eq]
    exact Or.inl rfl

/-- A module's line reaches the slot that is found for it. -/
theorem lineDoors_of_findDoor {g : DoorTable} {m : CStr} {d : Fin HUB_MAX_DOORS}
    (h_d : findDoor m g = some d) (type : CStr) (args : List CStr) (src : SockAddr) (t : ℤ) :
    lineDoors m type args src t g d = lineStatus m type args src t (g d) := by
  unfold lineDoors
  rw [findOrCreateDoor_of_find h_d]
  exact Function.update_self _ _ _

theorem feedbackBranch_gDoors (mod : CStr) (args : List CStr) (d : Fin HUB_MAX_DOORS) (t : ℤ)
    (h : HubState) :
    (feedbackBranch mod args d t h).1.gDoors =
      Function.update h.gDoors d (match args with
        | cmdidS :: target :: action :: _ =>
          recordFeedback (atoi cmdidS) target action t (h.gDoors d)
        | _ => h.gDoors d) := by
  unfold feedbackBranch
  match args with
  | _ :: _ :: _ :: _ =>
    dsimp only
    rfl
  -- a line with fewer than three arguments leaves the slot as it is
  | [] => exact (Function.update_eq_self _ _).symm
  | [_] => exact (Function.update_eq_self _ _).symm
  | [_, _] => exact (Function.update_eq_self _ _).symm

theorem commandBranch_gDoors (mod : CStr) (args : List CStr) (raw : CStr) (src : SockAddr)
    (tReg : ℤ) (h : HubState) : (commandBranch mod args raw src tReg h).1.gDoors = h.gDoors := by
  unfold commandBranch
  split <;> rfl

theorem dispatchLine_gDoors (mod type : CStr) (args : List CStr) (raw : CStr) (src : SockAddr)
    (t tReg : ℤ) (d : Fin HUB_MAX_DOORS) (histLine : CharBuf HUB_LINE_LEN) (h : HubState) :
    (dispatchLine mod type args raw src t tReg d histLine h).1.gDoors =
      Function.update h.gDoors d (dispatchStatus type args histLine t (h.gDoors d)) := by
  unfold dispatchLine dispatchStatus
  split_ifs
  · rfl
  · rfl
  · exact feedbackBranch_gDoors mod args d t h
  · rw [commandBranch_gDoors, Function.update_eq_self]
  · rfl

theorem handleLine_gDoors {line : CStr} {mod type : CStr} {args : List CStr}
    (h_words : lineTokens line = mod :: type :: args) (raw : CStr) (src : SockAddr) (t tReg : ℤ)
    (h : HubState) :
    (handleLine line raw src t tReg h).1.gDoors = lineDoors mod type args src t h.gDoors := by
  unfold handleLine lineDoors lineStatus
  rw [h_words]
  dsimp only
  -- without a slot `handle_line` returns before the dispatch
  rcases findOrCreateDoor mod h.gDoors with ⟨g', _ | d⟩
  · rfl
  · rw [dispatchLine_gDoors]
    -- the return route and the dispatch write one slot twice
    simp only [modifyDoor_gDoors, Function.update_self, Function.update_idem]

theorem handleLine_short {line : CStr}
    (h_words : ∀ mod type args, lineTokens line ≠ mod :: type :: args) (raw : CStr)
    (src : SockAddr) (t tReg : ℤ) (h : HubState) :
    handleLine line raw src t tReg h = (h, []) := by
  unfold handleLine
  split
  · next h_eq => exact absurd h_eq (h_words _ _ _)
  · rfl

/-- The module `m` has a slot, or a slot can be created for it. -/
def HasSlot (m : CStr) (g : DoorTable) : Prop := (findOrCreateDoor m g).2 ≠ none

instance (m : CStr) (g : DoorTable) : Decidable (HasSlot m g) :=
  inferInstanceAs (Decidable (_ ≠ _))

/-! ### Endpoints -/

theorem dispatchLine_gEndpoints (mod type : CStr) (args : List CStr) (raw : CStr) (src : SockAddr)
    (t tReg : ℤ) (d : Fin HUB_MAX_DOORS) (histLine : CharBuf HUB_LINE_LEN) (h : HubState) :
    (dispatchLine mod type args raw src t tReg d histLine h).1.gEndpoints = h.gEndpoints := by
  unfold dispatchLine feedbackBranch commandBranch
  split_ifs
  · rfl
  · rfl
  · split <;> rfl
  · split <;> rfl
  · rfl

theorem handleLine_gEndpoints {line : CStr} {mod type : CStr} {args : List CStr}
    (h_words : lineTokens line = mod :: type :: args) (raw : CStr) (src : SockAddr) (t tReg : ℤ)
    (h : HubState) :
    (handleLine line raw src t tReg h).1.gEndpoints =
      if type = "COMMAND".toList then h.gEndpoints
      else hubUpdateEndpoint mod src h.gEndpoints := by
  unfold handleLine
  rw [h_words]
  dsimp only
  -- the endpoint is written before the slot is looked for
  rcases findOrCreateDoor mod h.gDoors with ⟨g', _ | d⟩
  · rfl
  · rw [dispatchLine_gEndpoints]
    rfl

/-! ### FEEDBACK and COMMAND lines -/

/-- The relays among the datagrams sent. -/
def relaysOf (outs : List HubOut) : List (SockAddr × CStr) :=
  outs.filterMap (fun o => match o with
    | .relay dst msg => some (dst, msg)
    | _ => none)

/-- The relay of a FEEDBACK line whose command was registered by `client`. -/
def feedbackRelay (f : CmdWords) (client : Option SockAddr) : List (SockAddr × CStr) :=
  match client with
  | some addr => [(addr, (snprintf 256 (feedbackLine f.mod f.cmdid f.target f.action)).str)]
  | none => []

theorem relaysOf_alerts (url : CharBuf 512) (mod type door state : CStr) :
    relaysOf (triggerDiscordAlert url mod type door state) = [] := by
  unfold triggerDiscordAlert
  split <;> rfl

theorem relaysOf_eventAlerts (url : CharBuf 512) (mod : CStr) (args : List CStr) :
    relaysOf (eventAlerts url mod args) = [] := by
  unfold eventAlerts
  split
  · split
    · exact relaysOf_alerts _ _ _ _ _
    · rfl
  · rfl

theorem relaysOf_forward (mod line : CStr) (h : HubState) :
    relaysOf (hubForwardCommandToModule mod line h) = [] := by
  unfold hubForwardCommandToModule
  split
  · split <;> rfl
  · rfl

theorem feedbackBranch_pending (mod cmdidS target action : CStr) (rest : List CStr)
    (d : Fin HUB_MAX_DOORS) (t : ℤ) (h : HubState) :
    (feedbackBranch mod (cmdidS :: target :: action :: rest) d t h).1.gPendingCmds
        = (getAndClearClientCmd mod (atoi cmdidS) h.gPendingCmds).1 ∧
      relaysOf (feedbackBranch mod (cmdidS :: target :: action :: rest) d t h).2
        = feedbackRelay ⟨mod, atoi cmdidS, target, action⟩
          (getAndClearClientCmd mod (atoi cmdidS) h.gPendingCmds).2 := by
  unfold feedbackBranch
  dsimp only [modifyDoor_gPendingCmds]
  rcases getAndClearClientCmd mod (atoi cmdidS) h.gPendingCmds with ⟨p, _ | addr⟩
  · exact ⟨rfl, rfl⟩
  · exact ⟨rfl, rfl⟩

/-- What the dispatch does to the table of pending commands, and what it relays. -/
theorem dispatchLine_pending (mod type : CStr) (args : List CStr) (raw : CStr) (src : SockAddr)
    (t tReg : ℤ) (d : Fin HUB_MAX_DOORS) (histLine : CharBuf HUB_LINE_LEN) (h : HubState) :
    (∃ f, feedbackOf (mod :: type :: args) = some f ∧
      (dispatchLine mod type args raw src t tReg d histLine h).1.gPendingCmds
        = (getAndClearClientCmd f.mod f.cmdid h.gPendingCmds).1 ∧
      relaysOf (dispatchLine mod type args raw src t tReg d histLine h).2
        = feedbackRelay f (getAndClearClientCmd f.mod f.cmdid h.gPendingCmds).2) ∨
    (∃ c, commandOf (mod :: type :: args) = some c ∧
      (dispatchLine mod type args raw src t tReg d histLine h).1.gPendingCmds
        = registerClientCommand c.cmdid c.mod src tReg h.gPendingCmds ∧
      relaysOf (dispatchLine mod type args raw src t tReg d histLine h).2 = []) ∨
    (feedbackOf (mod :: type :: args) = none ∧ commandOf (mod :: type :: args) = none ∧
      (dispatchLine mod type args raw src t tReg d histLine h).1.gPendingCmds
        = h.gPendingCmds ∧
      relaysOf (dispatchLine mod type args raw src t tReg d histLine h).2 = []) := by
  unfold dispatchLine feedbackOf commandOf
  split_ifs with h_hb h_ev h_fb h_cmd
  · subst h_hb
    exact Or.inr (Or.inr ⟨cmdWords_ne (by decide) _ _, cmdWords_ne (by decide) _ _, rfl, rfl⟩)
  · subst h_ev
    exact Or.inr (Or.inr ⟨cmdWords_ne (by decide) _ _, cmdWords_ne (by decide) _ _, rfl,
      relaysOf_eventAlerts _ _ _⟩)
  · -- a FEEDBACK line is complete from its third argument on
    subst h_fb
    rcases args with _ | ⟨cs, _ | ⟨target, _ | ⟨action, rest⟩⟩⟩
    · exact Or.inr (Or.inr ⟨rfl, rfl, rfl, rfl⟩)
    · exact Or.inr (Or.inr ⟨rfl, rfl, rfl, rfl⟩)
    · exact Or.inr (Or.inr ⟨rfl, rfl, rfl, rfl⟩)
    · have h_branch := feedbackBranch_pending mod cs target action rest d t h
      exact Or.inl ⟨_, cmdWords_self _ _ _ _ _ _, h_branch⟩
  · -- and so is a COMMAND line
    subst h_cmd
    rcases args with _ | ⟨cs, _ | ⟨target, _ | ⟨action, rest⟩⟩⟩
    · exact Or.inr (Or.inr ⟨rfl, rfl, rfl, rfl⟩)
    · exact Or.inr (Or.inr ⟨rfl, rfl, rfl, rfl⟩)
    · exact Or.inr (Or.inr ⟨rfl, rfl, rfl, rfl⟩)
    · exact Or.inr (Or.inl ⟨_, cmdWords_self _ _ _ _ _ _, rfl, relaysOf_forward _ _ _⟩)
  · exact Or.inr (Or.inr ⟨cmdWords_ne h_fb _ _, cmdWords_ne h_cmd _ _, rfl, rfl⟩)

/-! ### The offline check -/

/-- What the offline check leaves of a door: only `offline` and `last_online_ms` may differ. -/
def SameButOffline (s s' : HubDoorStatus) : Prop :=
  s' = { s with offline := s'.offline, lastOnlineMs := s'.lastOnlineMs }

theorem SameButOffline.refl (s : HubDoorStatus) : SameButOffline s s := rfl

theorem SameButOffline.trans {s s' s'' : HubDoorStatus} (h : SameButOffline s s')
    (h' : SameButOffline s' s'') : SameButOffline s s'' := by
  unfold SameButOffline at h h' ⊢
  -- both steps write the same two fields, so the second one wins
  rw [h'] at ⊢
  rw [h]

/-- The frame of `check_offline_modules`. -/
structure OfflineOnly (h h' : HubState) (outs : List HubOut) : Prop where
  doors : ∀ i, SameButOffline (h.gDoors i) (h'.gDoors i)
  endpoints : h'.gEndpoints = h.gEndpoints
  pending : h'.gPendingCmds = h.gPendingCmds
  next : h'.gNextCmdid = h.gNextCmdid
  relays : relaysOf outs = []

theorem OfflineOnly.modifyDoor (h : HubState) (i : Fin HUB_MAX_DOORS)
    (f : HubDoorStatus → HubDoorStatus) (h_f : ∀ s, SameButOffline s (f s)) (hist : History)
    {outs : List HubOut} (h_outs : relaysOf outs = []) :
    OfflineOnly h { h.modifyDoor i f with gHistory := hist } outs where
  doors j := by
    show SameButOffline (h.gDoors j) (Function.update h.gDoors i (f (h.gDoors i)) j)
    -- only the slot `i` is written
    by_cases h_eq : j = i
    · subst h_eq
      rw [Function.update_self]
      exact h_f _
    · rw [Function.update_of_ne h_eq]
      exact SameButOffline.refl _
  endpoints := rfl
  pending := rfl
  next := rfl
  relays := h_outs

theorem OfflineOnly.refl (h : HubState) : OfflineOnly h h [] :=
  ⟨fun _ => SameButOffline.refl _, rfl, rfl, rfl, rfl⟩

theorem OfflineOnly.trans {h h' h'' : HubState} {outs outs' : List HubOut}
    (h₁ : OfflineOnly h h' outs) (h₂ : OfflineOnly h' h'' outs') :
    OfflineOnly h h'' (outs ++ outs') where
  doors i := (h₁.doors i).trans (h₂.doors i)
  endpoints := h₂.endpoints.trans h₁.endpoints
  pending := h₂.pending.trans h₁.pending
  next := h₂.next.trans h₁.next
  relays := by
    unfold relaysOf
    rw [List.filterMap_append]
    exact List.append_eq_nil_iff.mpr ⟨h₁.relays, h₂.relays⟩

theorem checkOfflineDoor_offlineOnly (now : ℤ) (i : Fin HUB_MAX_DOORS) (h : HubState) :
    OfflineOnly h (checkOfflineDoor now i h).1 (checkOfflineDoor now i h).2 := by
  unfold checkOfflineDoor
  dsimp only
  split_ifs
  · exact OfflineOnly.refl h
  · -- the module went silent
    exact OfflineOnly.modifyDoor h i (fun s => { s with offline := true, lastOnlineMs := now })
      (fun _ => rfl) _ (relaysOf_alerts _ _ _ _ _)
  · -- the module is back
    exact OfflineOnly.modifyDoor h i (fun s => { s with offline := false }) (fun _ => rfl) _
      (relaysOf_alerts _ _ _ _ _)
  · exact OfflineOnly.refl h

theorem checkOfflineLoop_offlineOnly (now : ℤ) (is : List (Fin HUB_MAX_DOORS)) (h : HubState) :
    OfflineOnly h (checkOfflineLoop now is h).1 (checkOfflineLoop now is h).2 := by
  -- the checks of the single slots compose
  induction is generalizing h with
  | nil => exact OfflineOnly.refl h
  | cons i is ih =>
    unfold checkOfflineLoop
    exact (checkOfflineDoor_offlineOnly now i h).trans (ih _)

theorem checkOfflineModules_offlineOnly (now : ℤ) (h : HubState) :
    OfflineOnly h (checkOfflineModules now h).1 (checkOfflineModules now h).2 :=
  checkOfflineLoop_offlineOnly now _ h

/-! ### One event -/

theorem dispatchLine_gNextCmdid (mod type : CStr) (args : List CStr) (raw : CStr)
    (src : SockAddr) (t tReg : ℤ) (d : Fin HUB_MAX_DOORS) (histLine : CharBuf HUB_LINE_LEN)
    (h : HubState) :
    (dispatchLine mod type args raw src t tReg d histLine h).1.gNextCmdid = h.gNextCmdid := by
  unfold dispatchLine feedbackBranch commandBranch
  split_ifs
  · rfl
  · rfl
  · split <;> rfl
  · split <;> rfl
  · rfl

theorem handleLine_gNextCmdid (line raw : CStr) (src : SockAddr) (t tReg : ℤ) (h : HubState) :
    (handleLine line raw src t tReg h).1.gNextCmdid = h.gNextCmdid := by
  unfold handleLine
  split
  · next mod type args _ =>
    dsimp only
    rcases findOrCreateDoor mod h.gDoors with ⟨g', _ | d⟩
    · rfl
    · rw [dispatchLine_gNextCmdid]
      rfl
  · rfl

/-- Only a local call moves the command counter. -/
theorem step_gNextCmdid (h : HubState) (e : HubEv) :
    (step h e).gNextCmdid = match e with
      | .alloc => toInt32 (h.gNextCmdid + 1)
      | _ => h.gNextCmdid := by
  cases e with
  | datagram data src t tReg =>
    show (receiveDatagram data src t tReg h).1.gNextCmdid = _
    rw [receiveDatagram_eq]
    exact handleLine_gNextCmdid _ _ _ _ _ _
  | check now => exact (checkOfflineModules_offlineOnly now h).next
  | alloc => rfl

/-- **Endpoints.** Every line with a type other than COMMAND updates the endpoint of its
module. -/
theorem step_gEndpoints (h : HubState) (e : HubEv) :
    (step h e).gEndpoints = match e.words with
      | mod :: type :: _ =>
        if type = "COMMAND".toList then h.gEndpoints
        else hubUpdateEndpoint mod e.source h.gEndpoints
      | _ => h.gEndpoints := by
  cases e with
  | datagram data src t tReg =>
    show (receiveDatagram data src t tReg h).1.gEndpoints = _
    rw [receiveDatagram_eq]
    show _ = match lineTokens (datagramLine data) with
      | mod :: type :: _ => _
      | _ => _
    split
    · next h_words => exact handleLine_gEndpoints h_words _ _ _ _ _
    · -- a line without a type is ignored
      next h_words => rw [handleLine_short h_words]
  | check now => exact (checkOfflineModules_offlineOnly now h).endpoints
  | alloc => rfl

theorem step_datagram_gDoors {data : List Char} {mod type : CStr} {args : List CStr}
    (h_words : lineTokens (datagramLine data) = mod :: type :: args) (src : SockAddr) (t tReg : ℤ)
    (h : HubState) :
    (step h (.datagram data src t tReg)).gDoors = lineDoors mod type args src t h.gDoors := by
  show (receiveDatagram data src t tReg h).1.gDoors = _
  rw [receiveDatagram_eq]
  exact handleLine_gDoors h_words _ _ _ _ _

/-- A line without a type is ignored. -/
theorem step_datagram_short {data : List Char}
    (h_words : ∀ mod type args, lineTokens (datagramLine data) ≠ mod :: type :: args)
    (src : SockAddr) (t tReg : ℤ) (h : HubState) : step h (.datagram data src t tReg) = h := by
  show (receiveDatagram data src t tReg h).1 = h
  rw [receiveDatagram_eq, handleLine_short h_words]

/-- The slot that a line finds or creates takes the line's status. -/
theorem step_datagram_slot {data : List Char} {mod type : CStr} {args : List CStr}
    (h_words : lineTokens (datagramLine data) = mod :: type :: args) {h : HubState}
    {d : Fin HUB_MAX_DOORS} (h_d : (findOrCreateDoor mod h.gDoors).2 = some d) (src : SockAddr)
    (t tReg : ℤ) :
    (step h (.datagram data src t tReg)).gDoors d
      = lineStatus mod type args src t ((findOrCreateDoor mod h.gDoors).1 d) := by
  rw [step_datagram_gDoors h_words]
  rcases lineDoors_slot mod type args src t h.gDoors d with ⟨-, h_line⟩ | ⟨h_other, -⟩
  · exact h_line
  · exact absurd h_d h_other

/-- **Doors.** A line changes the slot of its module to `lineStatus`, the offline check changes
the offline fields. -/
theorem step_gDoors_cases (h : HubState) (e : HubEv) :
    (∃ mod type args t, e.words = mod :: type :: args ∧
      (step h e).gDoors = lineDoors mod type args e.source t h.gDoors) ∨
    ((∀ mod type args, e.words ≠ mod :: type :: args) ∧
      ∀ i, SameButOffline (h.gDoors i) ((step h e).gDoors i)) := by
  cases e with
  | datagram data src t tReg =>
    rcases words_cases (lineTokens (datagramLine data)) with ⟨mod, type, args, h_words⟩ | h_words
    · exact Or.inl ⟨mod, type, args, t, h_words, step_datagram_gDoors h_words src t tReg h⟩
    · rw [step_datagram_short h_words]
      exact Or.inr ⟨h_words, fun _ => SameButOffline.refl _⟩
  | check now =>
    exact Or.inr ⟨by simp [HubEv.words], (checkOfflineModules_offlineOnly now h).doors⟩
  | alloc => exact Or.inr ⟨by simp [HubEv.words], fun _ => SameButOffline.refl _⟩

/-- The line of a module with a slot changes the pending commands as `dispatchLine` does. -/
theorem handleLine_pending {line : CStr} {mod type : CStr} {args : List CStr}
    (h_words : lineTokens line = mod :: type :: args) (raw : CStr) (src : SockAddr) (t tReg : ℤ)
    (h : HubState) (h_slot : HasSlot mod h.gDoors) :
    (∃ f, feedbackOf (mod :: type :: args) = some f ∧
      (handleLine line raw src t tReg h).1.gPendingCmds
        = (getAndClearClientCmd f.mod f.cmdid h.gPendingCmds).1 ∧
      relaysOf (handleLine line raw src t tReg h).2
        = feedbackRelay f (getAndClearClientCmd f.mod f.cmdid h.gPendingCmds).2) ∨
    (∃ c, commandOf (mod :: type :: args) = some c ∧
      (handleLine line raw src t tReg h).1.gPendingCmds
        = registerClientCommand c.cmdid c.mod src tReg h.gPendingCmds ∧
      relaysOf (handleLine line raw src t tReg h).2 = []) ∨
    (feedbackOf (mod :: type :: args) = none ∧ commandOf (mod :: type :: args) = none ∧
      (handleLine line raw src t tReg h).1.gPendingCmds = h.gPendingCmds ∧
      relaysOf (handleLine line raw src t tReg h).2 = []) := by
  unfold HasSlot at h_slot
  unfold handleLine
  rw [h_words]
  dsimp only
  rcases h_find : findOrCreateDoor mod h.gDoors with ⟨g', _ | d⟩
  · -- no slot was found, against the hypothesis
    rw [h_find] at h_slot
    exact absurd rfl h_slot
  · -- what comes before the dispatch leaves the table alone
    exact dispatchLine_pending mod type args raw src t tReg d _ _

/-- The line of a module without a slot changes nothing but history and endpoints. -/
theorem handleLine_untracked {line : CStr} {mod type : CStr} {args : List CStr}
    (h_words : lineTokens line = mod :: type :: args) (raw : CStr) (src : SockAddr) (t tReg : ℤ)
    (h : HubState) (h_slot : ¬ HasSlot mod h.gDoors) :
    (handleLine line raw src t tReg h).1.gPendingCmds = h.gPendingCmds ∧
      (handleLine line raw src t tReg h).2 = [] := by
  unfold HasSlot at h_slot
  unfold handleLine
  rw [h_words]
  dsimp only
  rcases h_find : findOrCreateDoor mod h.gDoors with ⟨g', _ | d⟩
  · exact ⟨rfl, rfl⟩
  · -- a slot was found, against the hypothesis
    rw [h_find] at h_slot
    exact absurd (by simp) h_slot

/-- **Pending commands.** A complete FEEDBACK line takes the first matching entry out and is
relayed to its client, a complete COMMAND line registers its sender, both only when the module
has a slot; nothing else touches the table or relays anything. -/
theorem exec_pending_cases (h : HubState) (e : HubEv) :
    (∃ f, feedbackOf e.words = some f ∧ HasSlot f.mod h.gDoors ∧
      (step h e).gPendingCmds = (getAndClearClientCmd f.mod f.cmdid h.gPendingCmds).1 ∧
      relaysOf (exec h e).2
        = feedbackRelay f (getAndClearClientCmd f.mod f.cmdid h.gPendingCmds).2) ∨
    (∃ c tReg, commandOf e.words = some c ∧ HasSlot c.mod h.gDoors ∧
      (step h e).gPendingCmds
        = registerClientCommand c.cmdid c.mod e.source tReg h.gPendingCmds ∧
      relaysOf (exec h e).2 = []) ∨
    ((∀ f, feedbackOf e.words = some f → ¬ HasSlot f.mod h.gDoors) ∧
      (∀ c, commandOf e.words = some c → ¬ HasSlot c.mod h.gDoors) ∧
      (step h e).gPendingCmds = h.gPendingCmds ∧ relaysOf (exec h e).2 = []) := by
  -- a list without a second word is no command and no feedback
  have h_none : ∀ ws : List CStr, (∀ mod type args, ws ≠ mod :: type :: args) →
      ∀ type f, cmdWords type ws = some f → ¬ HasSlot f.mod h.gDoors := by
    intro ws h_ws type f h_f
    obtain ⟨cmdidS, rest, h_eq, -⟩ := cmdWords_eq_some h_f
    exact absurd h_eq (h_ws _ _ _)
  cases e with
  | datagram data src t tReg =>
    unfold step exec HubEv.words HubEv.source
    dsimp only
    rw [receiveDatagram_eq]
    rcases words_cases (lineTokens (datagramLine data)) with ⟨mod, type, args, h_words⟩ | h_words
    · by_cases h_slot : HasSlot mod h.gDoors
      · rw [h_words]
        rcases handleLine_pending h_words (datagramLine data) src t tReg h h_slot with
          ⟨f, h_f, h_pend⟩ | ⟨c, h_c, h_pend⟩ | ⟨h_f, h_c, h_pend⟩
        · refine Or.inl ⟨f, h_f, ?_, h_pend⟩
          rw [cmdWords_mod h_f]
          exact h_slot
        · refine Or.inr (Or.inl ⟨c, tReg, h_c, ?_, h_pend⟩)
          rw [cmdWords_mod h_c]
          exact h_slot
        · -- the line is neither, so both implications are empty
          refine Or.inr (Or.inr ⟨?_, ?_, h_pend⟩)
          · intro f h_f'
            rw [h_f] at h_f'
            exact absurd h_f' (by simp)
          · intro c h_c'
            rw [h_c] at h_c'
            exact absurd h_c' (by simp)
      · -- an untracked module: its lines are not even dispatched
        have h_mod : ∀ type' f, cmdWords type' (lineTokens (datagramLine data)) = some f →
            ¬ HasSlot f.mod h.gDoors := by
          intro type' f h_f
          rw [h_words] at h_f
          rw [cmdWords_mod h_f]
          exact h_slot
        obtain ⟨h_pend, h_out⟩ :=
          handleLine_untracked h_words (datagramLine data) src t tReg h h_slot
        refine Or.inr (Or.inr ⟨h_mod _, h_mod _, h_pend, ?_⟩)
        rw [h_out]
        rfl
    · -- a line without a type is ignored
      rw [handleLine_short h_words]
      exact Or.inr (Or.inr ⟨h_none _ h_words _, h_none _ h_words _, rfl, rfl⟩)
  | check now =>
    have h_frame := checkOfflineModules_offlineOnly now h
    exact Or.inr (Or.inr ⟨h_none [] (by simp) _, h_none [] (by simp) _, h_frame.pending,
      h_frame.relays⟩)
  | alloc => exact Or.inr (Or.inr ⟨h_none [] (by simp) _, h_none [] (by simp) _, rfl, rfl⟩)

/-- A complete COMMAND line of a module with a slot is registered. -/
theorem step_pending_of_command {h : HubState} {e : HubEv} {c : CmdWords}
    (h_c : commandOf e.words = some c) (h_slot : HasSlot c.mod h.gDoors) :
    ∃ tReg, (step h e).gPendingCmds
      = registerClientCommand c.cmdid c.mod e.source tReg h.gPendingCmds := by
  rcases exec_pending_cases h e with ⟨f, h_f, -⟩ | ⟨c', tReg, h_c', -, h_pend, -⟩ | ⟨-, h_no, -⟩
  · -- a COMMAND line is no FEEDBACK line
    rw [feedbackOf_of_command h_c] at h_f
    exact absurd h_f (by simp)
  · obtain rfl : c = c' := Option.some.inj (h_c.symm.trans h_c')
    exact ⟨tReg, h_pend⟩
  · exact absurd h_slot (h_no c h_c)

/-! ### The last FEEDBACK of a door -/

/-- What a door slot remembers of its module's last FEEDBACK. -/
def HubDoorStatus.feedback (s : HubDoorStatus) : ℤ × CharBuf 32 × CharBuf 32 :=
  (s.lastFeedbackCmdid, s.lastFeedbackTarget, s.lastFeedbackAction)

/-- What the FEEDBACK branch stores of a line. -/
def recordOf (f : CmdWords) : ℤ × CharBuf 32 × CharBuf 32 :=
  (f.cmdid, snprintf _ f.target, snprintf _ f.action)

/-- A line stores its words if it is a complete FEEDBACK line, and nothing otherwise. -/
theorem lineStatus_feedback (mod type : CStr) (args : List CStr) (src : SockAddr) (t : ℤ)
    (s : HubDoorStatus) :
    (lineStatus mod type args src t s).feedback =
      match feedbackOf (mod :: type :: args) with
      | some f => recordOf f
      | none => s.feedback := by
  have h_addr : (updateLastAddr type src s).feedback = s.feedback := by
    unfold updateLastAddr
    split_ifs <;> rfl
  have h_effect := lineEffect mod type args src t s
  generalize lineStatus mod type args src t s = s' at h_effect ⊢
  unfold feedbackOf
  cases h_effect with
  | heartbeat h_type =>
    rw [cmdWords_ne (by rw [h_type]; decide), ← h_addr]
    rfl
  | event h_type =>
    rw [cmdWords_ne (by rw [h_type]; decide), ← h_addr]
    rfl
  | feedback h_type cmdidS target action rest h_args =>
    subst h_type h_args
    rw [cmdWords_self]
    rfl
  | incomplete h_type h_args =>
    -- too short to be recorded
    subst h_type
    rcases args with _ | ⟨cs, _ | ⟨target, _ | ⟨action, rest⟩⟩⟩
    · exact h_addr
    · exact h_addr
    · exact h_addr
    · exact absurd rfl (h_args cs target action rest)
  | command h_type =>
    rw [cmdWords_ne (by rw [h_type]; decide)]
    exact h_addr
  | other h_heartbeat h_feedback =>
    rw [cmdWords_ne h_feedback]
    exact h_addr

/-- The dispatch on the line type leaves the return route alone. -/
theorem dispatchStatus_route (type : CStr) (args : List CStr) (histLine : CharBuf HUB_LINE_LEN)
    (t : ℤ) (s : HubDoorStatus) :
    (dispatchStatus type args histLine t s).hasLastAddr = s.hasLastAddr ∧
      (dispatchStatus type args histLine t s).lastAddr = s.lastAddr := by
  have h_effect := dispatchEffect type args histLine t s
  generalize dispatchStatus type args histLine t s = s' at h_effect ⊢
  cases h_effect <;> exact ⟨rfl, rfl⟩

/-- A return route is never lost. -/
theorem step_hasLastAddr {h : HubState} {m : CStr} {d : Fin HUB_MAX_DOORS}
    (h_d : Holds h.gDoors m d) (h_addr : (h.gDoors d).hasLastAddr = true) (e : HubEv) :
    ((step h e).gDoors d).hasLastAddr = true := by
  rcases step_gDoors_cases h e with ⟨mod, type, args, t, -, h_doors⟩ | ⟨-, h_doors⟩
  · rw [h_doors]
    rcases lineDoors_of_holds h_d mod type args e.source t with h_same | ⟨-, h_line⟩
    · rw [h_same]
      exact h_addr
    · -- the own line sets the route, or keeps it when it is a COMMAND
      rw [h_line]
      unfold lineStatus
      rw [(dispatchStatus_route _ _ _ _ _).1]
      unfold updateLastAddr
      split_ifs
      · exact h_addr
      · rfl
  · -- no line, and the route is not one of the offline fields
    rw [h_doors d]
    exact h_addr

/-- **Feedback.** The record of a taken slot changes by complete FEEDBACK lines of its module
only. -/
theorem step_feedback {h : HubState} {m : CStr} {d : Fin HUB_MAX_DOORS} (h_d : Holds h.gDoors m d)
    (e : HubEv) :
    (∃ f, feedbackOf e.words = some f ∧ f.mod = m ∧ ((step h e).gDoors d).feedback = recordOf f) ∨
      ((step h e).gDoors d).feedback = (h.gDoors d).feedback := by
  rcases step_gDoors_cases h e with ⟨mod, type, args, t, h_words, h_doors⟩ | ⟨-, h_doors⟩
  · rw [h_doors, h_words]
    rcases lineDoors_of_holds h_d mod type args e.source t with h_same | ⟨h_mod, h_line⟩
    · -- a line of another module
      rw [h_same]
      exact Or.inr rfl
    · rw [h_line, lineStatus_feedback]
      cases h_f : feedbackOf (mod :: type :: args) with
      | some f => exact Or.inl ⟨f, rfl, (cmdWords_mod h_f).trans h_mod, rfl⟩
      | none => exact Or.inr rfl
  · rw [h_doors d]
    exact Or.inr rfl

/-- A complete FEEDBACK line is recorded in the slot that is found for its module. -/
theorem step_feedback_of_findDoor {h : HubState} {e : HubEv} {f : CmdWords}
    (h_f : feedbackOf e.words = some f) {d : Fin HUB_MAX_DOORS}
    (h_d : findDoor f.mod h.gDoors = some d) :
    ((step h e).gDoors d).feedback = recordOf f := by
  obtain ⟨cmdidS, rest, h_eq, -⟩ := cmdWords_eq_some h_f
  rcases step_gDoors_cases h e with ⟨mod, type, args, t, h_words, h_doors⟩ | ⟨h_no, -⟩
  · rw [h_words] at h_eq h_f
    obtain rfl : mod = f.mod := (List.cons.inj h_eq).1
    rw [h_doors, lineDoors_of_findDoor h_d, lineStatus_feedback, h_f]
  · exact absurd h_eq (h_no _ _ _)

end Hub

end DoorSystem
