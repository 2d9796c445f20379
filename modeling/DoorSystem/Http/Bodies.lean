import DoorSystem.Http.Gate
import DoorSystem.Lib.JsonObject

/-!
# The JSON bodies

The answers of the API and the message to Discord are printed by `snprintf` templates that put
stored texts between quotes as they are. The buffers are large enough for every combination of
stored fields, so nothing is cut off; but a module id, a heartbeat line, a target or an action is
what a datagram brought, and a body is a faithful JSON document exactly if its texts are storable.
-/

namespace DoorSystem

open CLib CLib.Json

namespace Http

open Hub Door

/-! ### Templates -/

/-- The body of `sendDiscordAlert`. -/
def sendDiscordAlert (msg : CStr) : CStr :=
  (snprintf 512 (jsonObject [jsonField "content" (jsonString msg)])).str

/-- The body is a JSON document, an object whose strings are these. -/
def Faithful (body : CStr) (stored : List (CStr × CStr)) : Prop :=
  ∃ members, IsObject body members ∧ strings members = stored

/-- The members with their keys as bytes. -/
def members (ms : List (String × Slot)) : List (CStr × Slot) :=
  ms.map (fun m => (m.1.toList, m.2))

theorem jsonObject_eq (ms : List (String × Slot)) :
    jsonObject (ms.map (fun m => jsonField m.1 m.2.write)) = writeObject (members ms) := by
  have h_member : (fun m : String × Slot => jsonField m.1 m.2.write) =
      writeMember ∘ fun m => (m.1.toList, m.2) := by
    funext m
    simp [jsonField, writeMember]
  unfold jsonObject writeObject writeMembers members
  rw [h_member, List.map_map]
  rfl

/-- The keys are plain ASCII. -/
def plainNames (names : List String) : Bool :=
  names.all (fun k => k.toList.all (fun c => isPlain c && c.toNat < 128))

/-- The characters of the keys. -/
def namesLength (names : List String) : ℕ := (names.map (fun k => k.toList.length)).sum

/-- The characters of the values. -/
def valuesLength (ms : List (String × Slot)) : ℕ := (ms.map (fun m => m.2.write.length)).sum

theorem plainKeys_members {ms : List (String × Slot)} (h : plainNames (ms.map Prod.fst) = true) :
    PlainKeys (members ms) := by
  intro k h_k c h_c
  unfold members at h_k
  rw [List.map_map] at h_k
  obtain ⟨m, h_m, rfl⟩ := List.mem_map.mp h_k
  have h_char := List.all_eq_true.mp (List.all_eq_true.mp h m.1 (List.mem_map_of_mem h_m)) c h_c
  rw [Bool.and_eq_true, decide_eq_true_eq] at h_char
  exact h_char

theorem length_writeObject_members {ms : List (String × Slot)} (h_ne : ms ≠ []) :
    (writeObject (members ms)).length =
      namesLength (ms.map Prod.fst) + valuesLength ms + 4 * ms.length + 1 := by
  have h_members : members ms ≠ [] := fun h => h_ne (List.map_eq_nil_iff.mp h)
  have h_len := length_writeMembers h_members
  have h_sum : ((members ms).map (fun m => m.1.length + m.2.write.length + 4)).sum =
      namesLength (ms.map Prod.fst) + valuesLength ms + 4 * ms.length := by
    unfold members namesLength valuesLength
    rw [List.map_map, List.map_map]
    -- name, value, two quotes, colon and comma of each member
    clear h_len h_members h_ne
    induction ms with
    | nil => rfl
    | cons m ms ih =>
      simp only [List.map_cons, List.sum_cons, List.length_cons, ih, Function.comp_apply]
      omega
  unfold writeObject
  simp only [List.cons_append, List.length_cons, List.length_append, List.length_nil]
  omega

/-- The text of a template. -/
def template (ms : List (String × Slot)) : CStr :=
  jsonObject (ms.map (fun m => jsonField m.1 m.2.write))

/-- The texts that are stored in a template. -/
def storedTexts (ms : List (String × Slot)) : List (CStr × CStr) := texts (members ms)

/-- **Templates.** A template is faithful exactly if its texts are storable. -/
theorem template_faithful_iff (ms : List (String × Slot)) (h_ne : ms ≠ [])
    (h_plain : plainNames (ms.map Prod.fst) = true) :
    Faithful (template ms) (storedTexts ms) ↔ ∀ t ∈ storedTexts ms, Storable t.2 := by
  unfold template
  rw [jsonObject_eq]
  exact isObject_writeObject_iff (fun h => h_ne (List.map_eq_nil_iff.mp h))
    (plainKeys_members h_plain)

/-- A template that fits is in its buffer as it is. -/
theorem snprintf_template {n : ℕ} [NeZero n] (ms : List (String × Slot)) (h_ne : ms ≠ [])
    (h_fits : namesLength (ms.map Prod.fst) + valuesLength ms + 4 * ms.length + 1 < n) :
    (snprintf n (template ms)).str = template ms := by
  rw [← length_writeObject_members h_ne] at h_fits
  unfold template
  rw [jsonObject_eq, snprintf_of_fits h_fits]

theorem length_write_text (t : CStr) : (Slot.text t).write.length = t.length + 2 := by
  simp [Slot.write]

theorem length_write_bool (b : Bool) : (Slot.bool b).write.length ≤ 5 := by
  cases b <;> decide

theorem length_write_int {x : ℤ} (h_x : InLong x) : (Slot.int x).write.length ≤ 20 :=
  length_fmtInt_le_of_inLong h_x

/-! ### The bodies -/

/-- The members of `errorBody`. -/
def errorMembers (text : String) : List (String × Slot) := [("error", .text text.toList)]

/-- The members of `failedBody`. -/
def failedMembers (reason : String) : List (String × Slot) :=
  [("result", .text "failed".toList), ("reason", .text reason.toList)]

/-- The members of `hubStatusBody`. -/
def statusMembers (st : HubDoorStatus) : List (String × Slot) :=
  [("module", .text st.moduleId.str),
    ("d0_open", .bool st.d0Open), ("d0_locked", .bool st.d0Locked),
    ("d1_open", .bool st.d1Open), ("d1_locked", .bool st.d1Locked),
    ("front_door_open", .bool st.d0Open), ("front_lock_locked", .bool st.d1Locked),
    ("lastHB", .int st.lastHeartbeatMs), ("lastHBLine", .text st.lastHeartbeatLine.str)]

/-- The members of `localStatusBody`. -/
def localMembers (mod : CStr) (state : DoorState) : List (String × Slot) :=
  [("module", .text mod), ("state", .int (stateNumber state)),
    ("front_door_open", .bool (decide (state = .OPEN))),
    ("front_lock_locked", .bool (decide (state = .LOCKED)))]

/-- The members of `operatedBody`. -/
def operateMembers (state : DoorState) : List (String × Slot) :=
  [("result", .text "ok".toList), ("state", .int (stateNumber state))]

/-- The members of the body of `sendEnd` with the last FEEDBACK. -/
def sentMembers (st : HubDoorStatus) : List (String × Slot) :=
  [("result", .text "ok".toList), ("ack", .bool true),
    ("last_feedback_target", .text st.lastFeedbackTarget.str),
    ("last_feedback_action", .text st.lastFeedbackAction.str),
    ("last_feedback_ms", .int st.lastFeedbackMs)]

/-- The members of the body of `sendEnd` when the door has no status. -/
def ackMembers : List (String × Slot) := [("result", .text "ok".toList), ("ack", .bool true)]

/-- The members of the body of `sendDiscordAlert`. -/
def alertMembers (msg : CStr) : List (String × Slot) := [("content", .text msg)]

theorem hubStatusBody_eq {st : HubDoorStatus} (h_ms : InLong st.lastHeartbeatMs) :
    hubStatusBody st = template (statusMembers st) := by
  refine snprintf_template (n := 512) (statusMembers st) (List.cons_ne_nil _ _) ?_
  have h_names : namesLength ((statusMembers st).map Prod.fst) = 86 :=
    (by decide : namesLength ["module", "d0_open", "d0_locked", "d1_open", "d1_locked",
      "front_door_open", "front_lock_locked", "lastHB", "lastHBLine"] = 86)
  have h_id : st.moduleId.str.length < 16 := st.moduleId.fits
  have h_line : st.lastHeartbeatLine.str.length < 256 := st.lastHeartbeatLine.fits
  have h_d0Open := length_write_bool st.d0Open
  have h_d0Locked := length_write_bool st.d0Locked
  have h_d1Open := length_write_bool st.d1Open
  have h_d1Locked := length_write_bool st.d1Locked
  have h_time := length_write_int h_ms
  rw [h_names]
  simp only [valuesLength, statusMembers, List.map_cons, List.map_nil, List.sum_cons,
    List.sum_nil, List.length_cons, List.length_nil, length_write_text]
  omega

theorem inLong_stateNumber (state : DoorState) : InLong (stateNumber state) := by
  cases state <;> decide

theorem localStatusBody_eq (mod : CStr) (h_mod : mod.length < 32) (door : DoorT) :
    localStatusBody mod door = template (localMembers mod door.state) := by
  refine snprintf_template (n := 256) (localMembers mod door.state) (List.cons_ne_nil _ _) ?_
  have h_names : namesLength ((localMembers mod door.state).map Prod.fst) = 43 :=
    (by decide : namesLength ["module", "state", "front_door_open", "front_lock_locked"] = 43)
  have h_state := length_write_int (inLong_stateNumber door.state)
  have h_open := length_write_bool (decide (door.state = .OPEN))
  have h_locked := length_write_bool (decide (door.state = .LOCKED))
  rw [h_names]
  simp only [valuesLength, localMembers, List.map_cons, List.map_nil, List.sum_cons, List.sum_nil,
    List.length_cons, List.length_nil, length_write_text]
  omega

theorem operatedBody_eq (door : DoorT) :
    operatedBody door = template (operateMembers door.state) := by
  refine snprintf_template (n := 256) (operateMembers _) (List.cons_ne_nil _ _) ?_
  cases door.state <;> decide

theorem sendEnd_eq {form : CommandForm} {h : HubState} {st : HubDoorStatus}
    (h_st : hubUdpGetStatus form.mod h = some st) (h_ms : InLong st.lastFeedbackMs) :
    sendEnd form true h = template (sentMembers st) := by
  unfold sendEnd
  rw [if_pos rfl, h_st]
  refine snprintf_template (n := 512) (sentMembers st) (List.cons_ne_nil _ _) ?_
  have h_names : namesLength ((sentMembers st).map Prod.fst) = 65 :=
    (by decide : namesLength ["result", "ack", "last_feedback_target", "last_feedback_action",
      "last_feedback_ms"] = 65)
  -- the stored words are shorter than their buffers, and the time is a `long long`
  have h_target : st.lastFeedbackTarget.str.length < 32 := st.lastFeedbackTarget.fits
  have h_action : st.lastFeedbackAction.str.length < 32 := st.lastFeedbackAction.fits
  have h_ack := length_write_bool true
  have h_time := length_write_int h_ms
  have h_ok : "ok".toList.length = 2 := rfl
  rw [h_names]
  simp only [valuesLength, sentMembers, List.map_cons, List.map_nil, List.sum_cons, List.sum_nil,
    List.length_cons, List.length_nil, length_write_text]
  omega

theorem sendDiscordAlert_eq {msg : CStr} (h_msg : msg.length < 256) :
    sendDiscordAlert msg = template (alertMembers msg) := by
  refine snprintf_template (n := 512) (alertMembers msg) (List.cons_ne_nil _ _) ?_
  have h_names : namesLength ((alertMembers msg).map Prod.fst) = 7 :=
    (by decide : namesLength ["content"] = 7)
  rw [h_names]
  simp only [valuesLength, alertMembers, List.map_cons, List.map_nil, List.sum_cons, List.sum_nil,
    List.length_cons, List.length_nil, length_write_text]
  omega

/-! ### The slots of a run -/

/-- **Rule.** What holds of a cleared and a fresh slot, and is kept by lines and by the offline
check, holds of every slot of a run. -/
theorem forall_slots_reached {P : HubDoorStatus → Prop} {C : HubEv → Prop}
    (h_zero : P HubDoorStatus.zero)
    (h_offline : ∀ s s', SameButOffline s s' → P s → P s')
    (h_line : ∀ data src t tReg mod type args, C (.datagram data src t tReg) →
      lineTokens (datagramLine data) = mod :: type :: args →
        P (HubDoorStatus.fresh mod) ∧ ∀ s, P s → P (lineStatus mod type args src t s))
    (url : CharBuf 512) {es : List HubEv} (h_es : ∀ e ∈ es, C e) (i : Fin HUB_MAX_DOORS) :
    P ((reached url es).gDoors i) := by
  refine run_invariant_of_forall (fun h : HubState => ∀ i, P (h.gDoors i)) (fun h e h_e inv i => ?_)
    (fun _ => h_zero) h_es i
  cases e with
  | datagram data src t tReg =>
    rcases words_cases (lineTokens (datagramLine data)) with ⟨mod, type, args, h_words⟩ | h_words
    · rw [step_datagram_gDoors h_words]
      obtain ⟨h_fresh, h_keep⟩ := h_line data src t tReg mod type args h_e h_words
      -- the table with a slot for the module
      have h_found : P ((findOrCreateDoor mod h.gDoors).1 i) := by
        rcases findOrCreateDoor_slot mod h.gDoors i with h_same | ⟨-, h_new⟩
        · rw [h_same]
          exact inv i
        · rw [h_new]
          exact h_fresh
      rcases lineDoors_slot mod type args src t h.gDoors i with ⟨-, h_slot⟩ | ⟨-, h_slot⟩
      · rw [h_slot]
        exact h_keep _ h_found
      · rw [h_slot]
        exact h_found
    · rw [step_datagram_short h_words]
      exact inv i
  | check now =>
    exact h_offline _ _ ((checkOfflineModules_offlineOnly now h).doors i) (inv i)
  | alloc => exact inv i

/-- The clock of the event is a `long long`. -/
def OnClock : HubEv → Prop
  | .datagram _ _ t _ => InLong t
  | .check now => InLong now
  | .alloc => True

/-- The stamps that are printed. -/
def Stamped (st : HubDoorStatus) : Prop := InLong st.lastHeartbeatMs ∧ InLong st.lastFeedbackMs

theorem stamped_lineStatus {st : HubDoorStatus} (h_st : Stamped st) (mod type : CStr)
    (args : List CStr) (src : SockAddr) {t : ℤ} (h_t : InLong t) :
    Stamped (lineStatus mod type args src t st) := by
  have h_addr : Stamped (updateLastAddr type src st) := by
    unfold updateLastAddr
    split_ifs
    · exact h_st
    · exact h_st
  have h_effect := lineEffect mod type args src t st
  generalize lineStatus mod type args src t st = st' at h_effect ⊢
  cases h_effect with
  | heartbeat => exact ⟨h_t, h_addr.2⟩
  | event => exact h_addr
  | feedback => exact ⟨h_addr.1, h_t⟩
  | incomplete => exact h_addr
  | command => exact h_addr
  | other => exact h_addr

/-- A run whose clock stays in the range of `long long`. -/
structure ClockedRun where
  events : List HubEv
  onClock : ∀ e ∈ events, OnClock e

theorem ClockedRun.stamped (R : ClockedRun) (url : CharBuf 512) (i : Fin HUB_MAX_DOORS) :
    Stamped ((reached url R.events).gDoors i) := by
  refine forall_slots_reached (C := OnClock) ⟨by decide, by decide⟩ (fun s s' h_same h_s => ?_)
    (fun data src t tReg mod type args h_t _ => ?_) url R.onClock i
  · rw [h_same]
    exact h_s
  · have h_fresh : Stamped (HubDoorStatus.fresh mod) :=
      ⟨(by decide : InLong 0), (by decide : InLong 0)⟩
    exact ⟨h_fresh, fun s h_s => stamped_lineStatus h_s mod type args src h_t⟩

theorem ClockedRun.stamped_of_status (R : ClockedRun) (url : CharBuf 512) {m : CStr}
    {st : HubDoorStatus} (h_st : hubUdpGetStatus m (reached url R.events) = some st) :
    Stamped st := by
  obtain ⟨d, -, rfl⟩ := hubUdpGetStatus_eq_some_iff.mp h_st
  exact R.stamped url d

/-! ### Alerts -/

theorem mem_triggerDiscordAlert {url : CharBuf 512} {mod type door state msg : CStr}
    (h : HubOut.alert msg ∈ triggerDiscordAlert url mod type door state) :
    msg = (snprintf 256 ("[".toList ++ mod ++ "] ".toList ++ door ++ " ".toList
      ++ type ++ " is now ".toList ++ state)).str := by
  unfold triggerDiscordAlert at h
  split_ifs at h
  · exact absurd h List.not_mem_nil
  · exact HubOut.alert.inj (List.mem_singleton.mp h)

/-- Only an EVENT with all its words gives an alert. -/
theorem mem_dispatchLine_alert {mod type : CStr} {args : List CStr} {raw : CStr} {src : SockAddr}
    {t tReg : ℤ} {d : Fin HUB_MAX_DOORS} {histLine : CharBuf HUB_LINE_LEN} {h : HubState}
    {msg : CStr}
    (h_mem : HubOut.alert msg ∈ (dispatchLine mod type args raw src t tReg d histLine h).2) :
    ∃ which what state rest, args = which :: what :: state :: rest ∧
      HubOut.alert msg ∈ triggerDiscordAlert h.gWebhookUrl mod what which state := by
  unfold dispatchLine at h_mem
  split_ifs at h_mem
  · exact absurd h_mem List.not_mem_nil
  · -- EVENT
    dsimp only at h_mem
    unfold eventAlerts at h_mem
    split at h_mem
    · split_ifs at h_mem
      · exact ⟨_, _, _, _, rfl, h_mem⟩
      · exact absurd h_mem List.not_mem_nil
    · exact absurd h_mem List.not_mem_nil
  · -- FEEDBACK
    unfold feedbackBranch at h_mem
    split at h_mem
    · dsimp only at h_mem
      split at h_mem
      · exact absurd (List.mem_singleton.mp h_mem) (by simp)
      · exact absurd h_mem List.not_mem_nil
    · exact absurd h_mem List.not_mem_nil
  · -- COMMAND
    unfold commandBranch at h_mem
    split at h_mem
    · dsimp only at h_mem
      unfold hubForwardCommandToModule at h_mem
      split at h_mem
      · split_ifs at h_mem
        · exact absurd (List.mem_singleton.mp h_mem) (by simp)
        · exact absurd h_mem List.not_mem_nil
      · exact absurd h_mem List.not_mem_nil
    · exact absurd h_mem List.not_mem_nil
  · exact absurd h_mem List.not_mem_nil

/-- What an alert is about: words of the line, or a slot that the offline check has found. -/
inductive AlertOf (h : HubState) (e : HubEv) (msg : CStr) : Prop
  | line (url : CharBuf 512) (mod type which what state : CStr) (rest : List CStr)
      (h_words : e.words = mod :: type :: which :: what :: state :: rest)
      (h_msg : HubOut.alert msg ∈ triggerDiscordAlert url mod what which state)
  | check (url : CharBuf 512) (d : Fin HUB_MAX_DOORS) (state : CStr)
      (h_state : state = "OFFLINE".toList ∨ state = "ONLINE".toList)
      (h_msg : HubOut.alert msg ∈ triggerDiscordAlert url (h.gDoors d).moduleId.str
        "SYSTEM".toList "MODULE".toList state)

theorem alertOf_check {h₀ h : HubState} {now : ℤ} {is : List (Fin HUB_MAX_DOORS)} {msg : CStr}
    (h_same : ∀ i, SameButOffline (h₀.gDoors i) (h.gDoors i))
    (h_mem : HubOut.alert msg ∈ (checkOfflineLoop now is h).2) : AlertOf h₀ (.check now) msg := by
  -- the loop leaves the ids as they were at its start
  induction is generalizing h with
  | nil => exact absurd h_mem List.not_mem_nil
  | cons i is ih =>
    unfold checkOfflineLoop at h_mem
    rcases List.mem_append.mp h_mem with h_now | h_later
    · have h_id : (h₀.gDoors i).moduleId = (h.gDoors i).moduleId := by rw [h_same i]
      unfold checkOfflineDoor at h_now
      dsimp only at h_now
      rw [← h_id] at h_now
      split_ifs at h_now
      · exact absurd h_now List.not_mem_nil
      · exact .check _ i _ (Or.inl rfl) h_now
      · exact .check _ i _ (Or.inr rfl) h_now
      · exact absurd h_now List.not_mem_nil
    · exact ih (fun j => (h_same j).trans ((checkOfflineDoor_offlineOnly now i h).doors j)) h_later

theorem alertOf_exec {h : HubState} {e : HubEv} {msg : CStr}
    (h_mem : HubOut.alert msg ∈ (exec h e).2) : AlertOf h e msg := by
  cases e with
  | datagram data src t tReg =>
    change HubOut.alert msg ∈ (receiveDatagram data src t tReg h).2 at h_mem
    rw [receiveDatagram_eq] at h_mem
    rcases words_cases (lineTokens (datagramLine data)) with ⟨mod, type, args, h_words⟩ | h_words
    · -- a line with a module and a type
      unfold handleLine at h_mem
      rw [h_words] at h_mem
      dsimp only at h_mem
      split at h_mem
      · exact absurd h_mem List.not_mem_nil
      · obtain ⟨which, what, state, rest, rfl, h_msg⟩ := mem_dispatchLine_alert h_mem
        exact .line _ mod type which what state rest h_words h_msg
    · -- a shorter line is dropped
      rw [handleLine_short h_words] at h_mem
      exact absurd h_mem List.not_mem_nil
  | check now => exact alertOf_check (fun _ => SameButOffline.refl _) h_mem
  | alloc => exact absurd h_mem List.not_mem_nil

/-- An alert fits the buffer it was printed to. -/
theorem length_alert {h : HubState} {e : HubEv} {msg : CStr}
    (h_mem : HubOut.alert msg ∈ (exec h e).2) : msg.length < 256 := by
  cases alertOf_exec h_mem with
  | line url mod type which what state rest h_words h_msg =>
    rw [mem_triggerDiscordAlert h_msg]
    exact CharBuf.fits _
  | check url d state h_state h_msg =>
    rw [mem_triggerDiscordAlert h_msg]
    exact CharBuf.fits _

/-! ### Faithful bodies -/

/-- The texts of the errors. -/
def errorTexts : List String :=
  ["unauthorized", "missing module", "no status", "no body", "missing fields", "unknown action",
    "unknown endpoint"]

/-- The reasons of the failures that are answered at once. -/
def failedReasons : List String := ["unknown_module", "no_route"]

/-- A request has handed the command to the hub earlier in the run, and the call has just ended. -/
def CallEnded (api : HttpApi) (url : CharBuf 512) (es : List HubEv) (form : CommandForm)
    (sent : Bool) : Prop :=
  ∃ data es₀ es₁ during, es₀ ++ es₁ <+: es ∧
    handleClient api data (reached url es₀) = .send form ∧
    runSend form.call (reached url (es₀ ++ es₁)) during = (reached url es, .returned sent)

/-- The body is built with these members: as an answer of the API in the state that the hub reaches
by `es`, or as the message of an alert that one of the events gave. -/
inductive Built (api : HttpApi) (url : CharBuf 512) (es : List HubEv) :
    CStr → List (String × Slot) → Prop
  | error (data : List Char) (code : ℕ) (text : String) (h_text : text ∈ errorTexts)
      (h : handleClient api data (reached url es) = .reply code (errorBody text)) :
      Built api url es (errorBody text) (errorMembers text)
  | failed (data : List Char) (code : ℕ) (reason : String) (h_reason : reason ∈ failedReasons)
      (h : handleClient api data (reached url es) = .reply code (failedBody reason)) :
      Built api url es (failedBody reason) (failedMembers reason)
  | hubStatus (data : List Char) (st : HubDoorStatus)
      (h : handleClient api data (reached url es) = .hubStatus st) :
      Built api url es (hubStatusBody st) (statusMembers st)
  | localStatus (data : List Char) (mod : CStr)
      (h : handleClient api data (reached url es) = .localStatus mod) (env : CallEnv)
      (s : DoorModule) :
      Built api url es (localStatusEnd mod env s).2
        (localMembers mod (localStatusEnd mod env s).1.door.state)
  | operate (data : List Char) (kind : OpKind)
      (h : handleClient api data (reached url es) = .operate kind) (env : CallEnv)
      (s : DoorModule) :
      Built api url es (operateEnd kind env s).2
        (operateMembers (operateEnd kind env s).1.door.state)
  | sent (form : CommandForm) (h : CallEnded api url es form true) (st : HubDoorStatus)
      (h_st : hubUdpGetStatus form.mod (reached url es) = some st) :
      Built api url es (sendEnd form true (reached url es)) (sentMembers st)
  | sentUnknown (form : CommandForm) (h : CallEnded api url es form true)
      (h_st : hubUdpGetStatus form.mod (reached url es) = none) :
      Built api url es (sendEnd form true (reached url es)) ackMembers
  | notSent (form : CommandForm) (h : CallEnded api url es form false) :
      Built api url es (sendEnd form false (reached url es)) (failedMembers "no_ack")
  | alert (es₀ : List HubEv) (e : HubEv) (h_pre : es₀ ++ [e] <+: es) (msg : CStr)
      (h : HubOut.alert msg ∈ (exec (reached url es₀) e).2) :
      Built api url es (sendDiscordAlert msg) (alertMembers msg)

/-- An answer before the first look at a table is an error. -/
theorem exists_errorBody {token : Option CStr} {data : List Char} {code : ℕ} {body : CStr}
    (h : clientRequest token data = .reply code body) :
    ∃ text ∈ errorTexts, body = errorBody text := by
  unfold clientRequest at h
  dsimp only at h
  split at h
  · split_ifs at h
    · exact ⟨_, by decide, (ClientRequest.reply.inj h).2.symm⟩
    · split at h
      · exact absurd h (by simp)
      · exact ⟨_, by decide, (ClientRequest.reply.inj h).2.symm⟩
    · -- POST /api/command
      unfold commandRequest at h
      split at h
      · split at h
        · exact absurd h (by simp)
        · exact ⟨_, by decide, (ClientRequest.reply.inj h).2.symm⟩
      · exact ⟨_, by decide, (ClientRequest.reply.inj h).2.symm⟩
    · exact ⟨_, by decide, (ClientRequest.reply.inj h).2.symm⟩
  · exact absurd h (by simp)

/-- What a request can come to. -/
inductive ActOf (api : HttpApi) (h : HubState) : ClientAct → Prop
  | closed : ActOf api h .closed
  | error (code : ℕ) (text : String) (h_text : text ∈ errorTexts) :
      ActOf api h (.reply code (errorBody text))
  | failed (reason : String) (h_reason : reason ∈ failedReasons) :
      ActOf api h (.reply 200 (failedBody reason))
  | hubStatus (m : CStr) (st : HubDoorStatus) (h_st : hubUdpGetStatus m h = some st) :
      ActOf api h (.hubStatus st)
  | localStatus : ActOf api h (.localStatus api.gModuleId.str)
  | operate (kind : OpKind) : ActOf api h (.operate kind)
  | send (form : CommandForm) : ActOf api h (.send form)

theorem actOf_handleClient (api : HttpApi) (data : List Char) (h : HubState) :
    ActOf api h (handleClient api data h) := by
  unfold handleClient
  split
  · exact .closed
  · next h_request =>
    obtain ⟨text, h_text, rfl⟩ := exists_errorBody h_request
    exact .error _ text h_text
  · -- GET
    next mod _ =>
    unfold statusAct
    split
    · next st h_st => exact .hubStatus mod st h_st
    · split_ifs with h_mod
      · rw [h_mod]
        exact .localStatus
      · exact .error _ _ (by decide)
  · -- POST
    unfold commandAct
    split_ifs
    · unfold operateAct
      split_ifs
      · exact .operate _
      · exact .operate _
      · exact .operate _
      · exact .error _ _ (by decide)
    · split
      · split_ifs
        · exact .failed _ (by decide)
        · exact .send _
      · exact .failed _ (by decide)

/-- Every answer at once is one of the built bodies. -/
theorem exists_built_of_reply {api : HttpApi} {url : CharBuf 512} {es : List HubEv}
    {data : List Char} {code : ℕ} {body : CStr}
    (h_reply : handleClient api data (reached url es) = .reply code body) :
    ∃ ms, Built api url es body ms := by
  have h_act := actOf_handleClient api data (reached url es)
  rw [h_reply] at h_act
  cases h_act with
  | error code text h_text => exact ⟨_, .error data code text h_text h_reply⟩
  | failed reason h_reason => exact ⟨_, .failed data 200 reason h_reason h_reply⟩

/-- The local id answers for itself. -/
theorem mod_of_localStatus {api : HttpApi} {data : List Char} {h : HubState} {mod : CStr}
    (h_local : handleClient api data h = .localStatus mod) : mod = api.gModuleId.str := by
  have h_act := actOf_handleClient api data h
  rw [h_local] at h_act
  cases h_act with
  | localStatus => rfl

/-- The status that answers is one of the hub's table. -/
theorem exists_of_hubStatus {api : HttpApi} {data : List Char} {h : HubState} {st : HubDoorStatus}
    (h_status : handleClient api data h = .hubStatus st) :
    ∃ m, hubUdpGetStatus m h = some st := by
  have h_act := actOf_handleClient api data h
  rw [h_status] at h_act
  cases h_act with
  | hubStatus m st h_st => exact ⟨m, h_st⟩

/-- A call that ends after a request is the end of a call in a run of the hub. -/
theorem exists_callEnded {api : HttpApi} {url : CharBuf 512} {es : List HubEv} {data : List Char}
    {form : CommandForm} (h_act : handleClient api data (reached url es) = .send form)
    (during : List SendEv) :
    ∃ es', (runSend form.call (reached url es) during).1 = reached url es' ∧
      ∀ sent, (runSend form.call (reached url es) during).2 = .returned sent →
        CallEnded api url es' form sent := by
  -- the call has a route, so for the hub it takes a number and nothing else
  obtain ⟨-, d, h_route⟩ := commandAct_eq_send_iff.mp (request_of_send h_act).2
  have h_hub : (runSend form.call (reached url es) during).1
      = reached url (es ++ .alloc :: during.filterMap SendEv.hub?) :=
    (@runSend_fst form.call _ d h_route during).trans (run_append _ _ _ _).symm
  refine ⟨_, h_hub, fun sent h_sent => ⟨data, es, [], during, ?_, h_act, ?_⟩⟩
  · rw [List.append_nil]
    exact List.prefix_append _ _
  · rw [List.append_nil]
    exact Prod.ext h_hub h_sent

/-- The answer after a call. -/
theorem CallEnded.exists_built {api : HttpApi} {url : CharBuf 512} {es : List HubEv}
    {form : CommandForm} {sent : Bool} (h : CallEnded api url es form sent) :
    ∃ ms, Built api url es (sendEnd form sent (reached url es)) ms := by
  cases sent with
  | false => exact ⟨_, .notSent form h⟩
  | true =>
    cases h_st : hubUdpGetStatus form.mod (reached url es) with
    | none => exact ⟨_, .sentUnknown form h h_st⟩
    | some st => exact ⟨_, .sent form h st h_st⟩

/-- **Every answer** of the API is sent with a built body. -/
theorem exists_built_of_serveClient {api : HttpApi} {url : CharBuf 512} {es : List HubEv}
    {data : List Char} {env : CallEnv} {during : List SendEv} {door : DoorModule} {answer : CStr}
    (h_answer : (serveClient api data env during ⟨reached url es, door⟩).2 = some answer) :
    ∃ es' code body ms, Built api url es' body ms ∧ answer = sendResponseStatus code body := by
  unfold serveClient at h_answer
  dsimp only at h_answer
  cases h_act : handleClient api data (reached url es) with
  | closed =>
    -- closed without an answer
    rw [h_act] at h_answer
    exact absurd h_answer (by simp [answerAct])
  | reply code body =>
    rw [h_act] at h_answer
    obtain ⟨ms, h_built⟩ := exists_built_of_reply h_act
    exact ⟨es, code, body, ms, h_built, (Option.some.inj h_answer).symm⟩
  | hubStatus st =>
    rw [h_act] at h_answer
    exact ⟨es, _, _, _, .hubStatus data st h_act, (Option.some.inj h_answer).symm⟩
  | localStatus mod =>
    rw [h_act] at h_answer
    exact ⟨es, _, _, _, .localStatus data mod h_act env door, (Option.some.inj h_answer).symm⟩
  | operate kind =>
    rw [h_act] at h_answer
    exact ⟨es, _, _, _, .operate data kind h_act env door, (Option.some.inj h_answer).symm⟩
  | send form =>
    -- a call of `hub_udp_send_command`, answered when it returns
    rw [h_act] at h_answer
    obtain ⟨es', h_hub, h_ended⟩ := exists_callEnded h_act during
    unfold answerAct at h_answer
    dsimp only at h_answer
    generalize runSend form.call (reached url es) during = r at h_answer h_hub h_ended
    obtain ⟨hub, phase⟩ := r
    cases phase with
    | returned sent =>
      obtain ⟨ms, h_built⟩ := (h_ended sent rfl).exists_built
      refine ⟨es', 200, _, ms, h_built, ?_⟩
      rw [← h_hub]
      exact (Option.some.inj h_answer).symm
    -- no answer while the call is under way
    | sending l attempt => exact absurd h_answer (by simp)
    | locking l attempt => exact absurd h_answer (by simp)
    | waiting l attempt => exact absurd h_answer (by simp)

/-- A body is its template: nothing is cut off. -/
theorem Built.eq_template {api : HttpApi} {url : CharBuf 512} {R : ClockedRun} {body : CStr}
    {ms : List (String × Slot)} (h_built : Built api url R.events body ms) :
    body = template ms := by
  cases h_built with
  | error data code text h_text h => rfl
  | failed data code reason h_reason h => rfl
  | hubStatus data st h =>
    -- the stamps of a reached slot are printed in full
    obtain ⟨m, h_st⟩ := exists_of_hubStatus h
    exact hubStatusBody_eq (R.stamped_of_status url h_st).1
  | localStatus data mod h env s =>
    rw [mod_of_localStatus h]
    exact localStatusBody_eq _ api.gModuleId.fits _
  | operate data kind h env s => exact operatedBody_eq _
  | sent form h st h_st =>
    exact sendEnd_eq h_st (R.stamped_of_status url h_st).2
  | sentUnknown form h h_st =>
    unfold sendEnd
    rw [if_pos rfl, h_st]
    rfl
  | notSent form h => rfl
  | alert es₀ e h_pre msg h => exact sendDiscordAlert_eq (length_alert h)

theorem Built.members_ne_nil {api : HttpApi} {url : CharBuf 512} {es : List HubEv} {body : CStr}
    {ms : List (String × Slot)} (h_built : Built api url es body ms) : ms ≠ [] := by
  cases h_built <;> exact List.cons_ne_nil _ _

theorem Built.plainNames {api : HttpApi} {url : CharBuf 512} {es : List HubEv} {body : CStr}
    {ms : List (String × Slot)} (h_built : Built api url es body ms) :
    plainNames (ms.map Prod.fst) = true := by
  cases h_built with
  | error => exact (by decide : Http.plainNames ["error"] = true)
  | failed => exact (by decide : Http.plainNames ["result", "reason"] = true)
  | hubStatus => exact (by decide : Http.plainNames ["module", "d0_open", "d0_locked", "d1_open",
      "d1_locked", "front_door_open", "front_lock_locked", "lastHB", "lastHBLine"] = true)
  | localStatus => exact (by decide : Http.plainNames ["module", "state", "front_door_open",
      "front_lock_locked"] = true)
  | operate => exact (by decide : Http.plainNames ["result", "state"] = true)
  | sent => exact (by decide : Http.plainNames ["result", "ack", "last_feedback_target",
      "last_feedback_action", "last_feedback_ms"] = true)
  | sentUnknown => exact (by decide : Http.plainNames ["result", "ack"] = true)
  | notSent => exact (by decide : Http.plainNames ["result", "reason"] = true)
  | alert => exact (by decide : Http.plainNames ["content"] = true)

/-- **One body.** -/
theorem Built.faithful_iff {api : HttpApi} {url : CharBuf 512} {R : ClockedRun} {body : CStr}
    {ms : List (String × Slot)} (h_built : Built api url R.events body ms) :
    Faithful body (storedTexts ms) ↔ ∀ t ∈ storedTexts ms, Storable t.2 := by
  rw [h_built.eq_template]
  exact template_faithful_iff ms h_built.members_ne_nil h_built.plainNames

/-- Every body that is built in the run is faithful. -/
def BodiesFaithful (api : HttpApi) (url : CharBuf 512) (R : ClockedRun) : Prop :=
  ∀ body ms, Built api url R.events body ms → Faithful body (storedTexts ms)

/-- Every text that is stored in such a body may stand between quotes as it is. -/
def TextsStorable (api : HttpApi) (url : CharBuf 512) (R : ClockedRun) : Prop :=
  ∀ body ms, Built api url R.events body ms → ∀ t ∈ storedTexts ms, Storable t.2

/-- **Bodies.** In every run, all bodies are faithful JSON documents exactly if all stored texts are
storable. -/
theorem bodiesFaithful_iff (api : HttpApi) (url : CharBuf 512) (R : ClockedRun) :
    BodiesFaithful api url R ↔ TextsStorable api url R :=
  forall₃_congr (fun _ _ h_built => h_built.faithful_iff)

/-! ### Plain datagrams -/

/-- Plain ASCII. -/
def PlainText (t : CStr) : Prop := ∀ c ∈ t, isPlain c = true ∧ c.toNat < 128

instance (t : CStr) : Decidable (PlainText t) :=
  List.decidableBAll (fun c => isPlain c = true ∧ c.toNat < 128) t

theorem PlainText.storable {t : CStr} (h_t : PlainText t) : Storable t :=
  ⟨fun c h_c => (h_t c h_c).1, isUtf8_of_ascii (fun c h_c => (h_t c h_c).2)⟩

theorem PlainText.append {s t : CStr} (h_s : PlainText s) (h_t : PlainText t) :
    PlainText (s ++ t) := by
  intro c h_c
  rcases List.mem_append.mp h_c with h | h
  · exact h_s c h
  · exact h_t c h

theorem PlainText.snprintf {n : ℕ} [NeZero n] {t : CStr} (h_t : PlainText t) :
    PlainText (CLib.snprintf n t).str := fun c h_c => h_t c (List.mem_of_mem_take h_c)

theorem PlainText.strncat {n : ℕ} [NeZero n] {buf : CharBuf n} {t : CStr}
    (h_buf : PlainText buf.str) (h_t : PlainText t) : PlainText (CLib.strncat buf t).str :=
  (h_buf.append h_t).snprintf

theorem plainText_space : PlainText " ".toList := by decide

/-- The words of the event are plain. -/
def PlainWords (e : HubEv) : Prop := ∀ w ∈ e.words, PlainText w

/-- The texts of a slot. -/
structure PlainSlot (st : HubDoorStatus) : Prop where
  id : PlainText st.moduleId.str
  line : PlainText st.lastHeartbeatLine.str
  target : PlainText st.lastFeedbackTarget.str
  action : PlainText st.lastFeedbackAction.str

theorem plainText_heartbeatLoop {toks : List CStr} (h_toks : ∀ w ∈ toks, PlainText w)
    (s : HubDoorStatus) {buf : CharBuf HUB_LINE_LEN} (h_buf : PlainText buf.str) :
    PlainText (heartbeatLoop toks s buf).2.str := by
  induction toks generalizing s buf with
  | nil => exact h_buf
  | cons tok toks ih =>
    have h_tok := h_toks tok List.mem_cons_self
    have h_step : PlainText (heartbeatToken tok s buf).2.str := by
      unfold heartbeatToken
      dsimp only
      split_ifs
      · exact h_buf.strncat h_tok
      · exact (h_buf.strncat plainText_space).strncat h_tok
    unfold heartbeatLoop
    exact ih (fun w h_w => h_toks w (List.mem_cons_of_mem _ h_w)) _ h_step

/-- **Step.** -/
theorem plainSlot_lineStatus {st : HubDoorStatus} (h_st : PlainSlot st) {mod type : CStr}
    {args : List CStr} (h_words : ∀ w ∈ mod :: type :: args, PlainText w) (src : SockAddr) (t : ℤ) :
    PlainSlot (lineStatus mod type args src t st) := by
  have h_addr : PlainSlot (updateLastAddr type src st) := by
    unfold updateLastAddr
    split_ifs
    · exact h_st
    · exact ⟨h_st.id, h_st.line, h_st.target, h_st.action⟩
  have h_args : ∀ w ∈ args, PlainText w := fun w h_w =>
    h_words w (List.mem_cons_of_mem _ (List.mem_cons_of_mem _ h_w))
  have h_effect := lineEffect mod type args src t st
  generalize lineStatus mod type args src t st = st' at h_effect ⊢
  cases h_effect with
  | heartbeat h_type o l o' l' line h_line =>
    refine ⟨h_addr.id, ?_, h_addr.target, h_addr.action⟩
    show PlainText line.str
    rw [h_line]
    split_ifs
    · -- the module id and the type
      have h_mod := h_words mod List.mem_cons_self
      have h_type := h_words type (List.mem_cons_of_mem _ List.mem_cons_self)
      rw [spaced_cons_cons, spaced_singleton]
      exact (h_mod.append (plainText_space.append h_type)).snprintf
    · have h_empty : PlainText (CharBuf.zero HUB_LINE_LEN).str := by simp [PlainText]
      exact plainText_heartbeatLoop h_args (updateLastAddr type src st) h_empty
  | event => exact ⟨h_addr.id, h_addr.line, h_addr.target, h_addr.action⟩
  | feedback h_type cmdidS target action rest h_eq =>
    subst h_eq
    have h_target := h_args target (List.mem_cons_of_mem _ List.mem_cons_self)
    have h_action := h_args action
      (List.mem_cons_of_mem _ (List.mem_cons_of_mem _ List.mem_cons_self))
    exact ⟨h_addr.id, h_addr.line, h_target.snprintf, h_action.snprintf⟩
  | incomplete => exact h_addr
  | command => exact h_addr
  | other => exact ⟨h_addr.id, h_addr.line, h_addr.target, h_addr.action⟩

/-- **Run.** -/
theorem plainSlot_reached (url : CharBuf 512) {es : List HubEv} (h_es : ∀ e ∈ es, PlainWords e)
    (i : Fin HUB_MAX_DOORS) : PlainSlot ((reached url es).gDoors i) := by
  have h_empty : ∀ {n : ℕ} [NeZero n], PlainText (CharBuf.zero n).str := by simp [PlainText]
  refine forall_slots_reached (C := PlainWords) ⟨h_empty, h_empty, h_empty, h_empty⟩
    (fun s s' h_same h_s => ?_) (fun data src t tReg mod type args h_e h_words => ?_) url h_es i
  · rw [h_same]
    exact ⟨h_s.id, h_s.line, h_s.target, h_s.action⟩
  · have h_plain : ∀ w ∈ mod :: type :: args, PlainText w := by
      rw [← h_words]
      exact h_e
    exact ⟨⟨(h_plain mod List.mem_cons_self).snprintf, h_empty, h_empty, h_empty⟩,
      fun s h_s => plainSlot_lineStatus h_s h_plain src t⟩

theorem plainText_alert {url : CharBuf 512} {mod type door state msg : CStr} (h_mod : PlainText mod)
    (h_type : PlainText type) (h_door : PlainText door) (h_state : PlainText state)
    (h : HubOut.alert msg ∈ triggerDiscordAlert url mod type door state) : PlainText msg := by
  rw [mem_triggerDiscordAlert h]
  have h_open : PlainText "[".toList := by decide
  have h_close : PlainText "] ".toList := by decide
  have h_now : PlainText " is now ".toList := by decide
  have h_head := ((h_open.append h_mod).append h_close).append h_door
  exact ((((h_head.append plainText_space).append h_type).append h_now).append h_state).snprintf

/-- The values that are texts. -/
def PlainMembers (ms : List (String × Slot)) : Prop :=
  ∀ key text, (key, Slot.text text) ∈ ms → PlainText text

theorem PlainMembers.storable {ms : List (String × Slot)} (h_ms : PlainMembers ms) :
    ∀ t ∈ storedTexts ms, Storable t.2 := by
  intro t h_t
  unfold storedTexts texts members at h_t
  obtain ⟨m, h_m, h_some⟩ := List.mem_filterMap.mp h_t
  obtain ⟨⟨key, v⟩, h_v, rfl⟩ := List.mem_map.mp h_m
  cases v with
  | text text =>
    obtain rfl := Option.some.inj h_some
    exact (h_ms key text h_v).storable
  | bool b => exact absurd h_some (by simp)
  | int x => exact absurd h_some (by simp)

theorem plainMembers_singleton {key : String} {t : CStr} (h_t : PlainText t) :
    PlainMembers [(key, .text t)] := by
  intro key' text h_mem
  simp only [List.mem_singleton, Prod.mk.injEq, Slot.text.injEq] at h_mem
  rw [h_mem.2]
  exact h_t

theorem plainMembers_failed {reason : String} (h_reason : PlainText reason.toList) :
    PlainMembers (failedMembers reason) := by
  intro key text h_mem
  simp only [failedMembers, List.mem_cons, List.not_mem_nil, or_false, Prod.mk.injEq,
    Slot.text.injEq] at h_mem
  rcases h_mem with ⟨-, rfl⟩ | ⟨-, rfl⟩
  · exact (by decide : PlainText "failed".toList)
  · exact h_reason

theorem plainMembers_status {st : HubDoorStatus} (h_st : PlainSlot st) :
    PlainMembers (statusMembers st) := by
  intro key text h_mem
  simp only [statusMembers, List.mem_cons, List.not_mem_nil, or_false, Prod.mk.injEq,
    Slot.text.injEq, reduceCtorEq, and_false, false_or] at h_mem
  rcases h_mem with ⟨-, rfl⟩ | ⟨-, rfl⟩
  · exact h_st.id
  · exact h_st.line

theorem plainMembers_sent {st : HubDoorStatus} (h_st : PlainSlot st) :
    PlainMembers (sentMembers st) := by
  intro key text h_mem
  simp only [sentMembers, List.mem_cons, List.not_mem_nil, or_false, Prod.mk.injEq,
    Slot.text.injEq, reduceCtorEq, and_false, false_or] at h_mem
  rcases h_mem with ⟨-, rfl⟩ | ⟨-, rfl⟩ | ⟨-, rfl⟩
  · exact (by decide : PlainText "ok".toList)
  · exact h_st.target
  · exact h_st.action

theorem plainMembers_local {mod : CStr} (h_mod : PlainText mod) (state : DoorState) :
    PlainMembers (localMembers mod state) := by
  intro key text h_mem
  simp only [localMembers, List.mem_cons, List.not_mem_nil, or_false, Prod.mk.injEq,
    Slot.text.injEq, reduceCtorEq, and_false] at h_mem
  rw [h_mem.2]
  exact h_mod

/-- Answers with `ok` and a value that is no text. -/
theorem plainMembers_ok {key : String} {v : Slot} (h_v : ∀ t, v ≠ .text t) :
    PlainMembers [("result", .text "ok".toList), (key, v)] := by
  intro key' text h_mem
  simp only [List.mem_cons, List.not_mem_nil, or_false, Prod.mk.injEq, Slot.text.injEq] at h_mem
  rcases h_mem with ⟨-, rfl⟩ | ⟨-, h_eq⟩
  · decide
  · exact absurd h_eq.symm (h_v text)

/-- **Plain datagrams.** With plain words in every datagram and a plain local id, no text breaks a
body. -/
theorem textsStorable_of_plain {api : HttpApi} (h_id : PlainText api.gModuleId.str)
    (url : CharBuf 512) {R : ClockedRun} (h_es : ∀ e ∈ R.events, PlainWords e) :
    TextsStorable api url R := by
  intro body ms h_built
  -- the slots hold words of the datagrams
  have h_slot : ∀ {m : CStr} {st : HubDoorStatus},
      hubUdpGetStatus m (reached url R.events) = some st → PlainSlot st := by
    intro m st h_st
    obtain ⟨d, -, rfl⟩ := hubUdpGetStatus_eq_some_iff.mp h_st
    exact plainSlot_reached url h_es d
  refine PlainMembers.storable ?_
  cases h_built with
  | error data code text h_text h =>
    have h_all : ∀ text ∈ errorTexts, PlainText text.toList := by decide
    exact plainMembers_singleton (h_all text h_text)
  | failed data code reason h_reason h =>
    have h_all : ∀ reason ∈ failedReasons, PlainText reason.toList := by decide
    exact plainMembers_failed (h_all reason h_reason)
  | hubStatus data st h =>
    -- the texts of the other answers are the hub's or the local id
    obtain ⟨m, h_st⟩ := exists_of_hubStatus h
    exact plainMembers_status (h_slot h_st)
  | localStatus data mod h env s =>
    rw [mod_of_localStatus h]
    exact plainMembers_local h_id _
  | operate data kind h env s => exact plainMembers_ok (by simp)
  | sent form h st h_st => exact plainMembers_sent (h_slot h_st)
  | sentUnknown form h h_st => exact plainMembers_ok (by simp)
  | notSent form h => exact plainMembers_failed (by decide)
  | alert es₀ e h_pre msg h =>
    refine plainMembers_singleton ?_
    have h_before : ∀ e' ∈ es₀ ++ [e], PlainWords e' := fun e' h_e' => h_es e' (h_pre.subset h_e')
    cases alertOf_exec h with
    | line url' mod type which what state rest h_words h_msg =>
      -- the alert quotes the line that was just handled
      have h_line := h_before e (List.mem_append_right _ List.mem_cons_self)
      unfold PlainWords at h_line
      rw [h_words] at h_line
      refine plainText_alert (h_line mod ?_) (h_line what ?_) (h_line which ?_)
        (h_line state ?_) h_msg
      all_goals simp
    | check url' d state h_state h_msg =>
      -- the alert of a check quotes the id of a slot
      have h_door := plainSlot_reached url
        (fun e' h_e' => h_before e' (List.mem_append_left _ h_e')) d
      have h_word : PlainText state := by
        rcases h_state with rfl | rfl <;> decide
      exact plainText_alert h_door.id (by decide) (by decide) h_word h_msg

/-- The run of one heartbeat of D1. -/
def heartbeatRun : ClockedRun where
  events := [.datagram "D1 HEARTBEAT D0=CLOSED,LOCKED D1=CLOSED,LOCKED\n".toList SockAddr.zero 0 0]
  onClock := by
    intro e h_e
    obtain rfl := List.mem_singleton.mp h_e
    exact (by decide : InLong 0)

theorem bodiesFaithful_heartbeatRun :
    BodiesFaithful (HttpApi.started none none) (CharBuf.zero 512) heartbeatRun :=
  (bodiesFaithful_iff _ _ heartbeatRun).mpr
    (textsStorable_of_plain (by decide) _ (List.forall_mem_singleton.mpr (by
      unfold PlainWords
      decide +kernel)))

/-- The run of one heartbeat of D1 whose only word is a quote. -/
def quoteRun : ClockedRun where
  events := [.datagram "D1 HEARTBEAT \"\n".toList SockAddr.zero 0 0]
  onClock := by
    intro e h_e
    obtain rfl := List.mem_singleton.mp h_e
    exact (by decide : InLong 0)

/-- The slot of D1 after it. -/
def quoteSlot : HubDoorStatus := (reached (CharBuf.zero 512) quoteRun.events).gDoors 0

/-- The answer to a GET for D1 is no JSON document with the heartbeat line in it. -/
theorem not_bodiesFaithful :
    ¬ BodiesFaithful (HttpApi.started none none) (CharBuf.zero 512) quoteRun := by
  intro h_faithful
  have h_built : Built (HttpApi.started none none) (CharBuf.zero 512) quoteRun.events
      (hubStatusBody quoteSlot) (statusMembers quoteSlot) :=
    .hubStatus "GET /api/status?module=D1 HTTP/1.1\r\n\r\n".toList _ (by decide +kernel)
  have h_line : quoteSlot.lastHeartbeatLine.str = ['"'] := by decide +kernel
  have h_storable := h_built.faithful_iff.mp (h_faithful _ _ h_built)
    ("lastHBLine".toList, quoteSlot.lastHeartbeatLine.str)
    (List.mem_cons_of_mem _ List.mem_cons_self)
  rw [h_line] at h_storable
  exact absurd (h_storable.plain '"' List.mem_cons_self) (by decide)

end Http

end DoorSystem
