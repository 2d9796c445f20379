import DoorSystem.Hub.Log

/-!
# Nothing is cut

`handle_line` formats the words of a line anew for the history, for the stored heartbeat and for
the relay of a FEEDBACK line, each time in a buffer of 256 bytes. A line is received with at most
255 characters, so its words with single blanks fit. The relayed FEEDBACK line can need all of them,
its number printed anew among them, which leaves no room for the newline. `nothingCut` says that no
word loses a character.
-/

namespace DoorSystem

open CLib

namespace Hub

/-! ### The heartbeat -/

/-- The text that a heartbeat leaves: the words behind its type, or module and type. -/
def heartbeatText (mod : CStr) (args : List CStr) : CStr :=
  if args = [] then spaced [mod, "HEARTBEAT".toList] else spaced args

/-- **Step.** One round of the token loop puts a word behind the words in the buffer. -/
theorem heartbeatToken_buf {ws : List CStr} {tok : CStr} (h_ws : ∀ w ∈ ws, w ≠ [])
    (h_fits : (spaced (ws ++ [tok])).length < HUB_LINE_LEN) {buf : CharBuf HUB_LINE_LEN}
    (h_buf : buf.str = spaced ws) (s : HubDoorStatus) :
    (heartbeatToken tok s buf).2.str = spaced (ws ++ [tok]) := by
  unfold heartbeatToken
  dsimp only
  by_cases h_nil : ws = []
  · -- no blank in front of the first word
    subst h_nil
    have h_empty : buf.str = [] := h_buf
    rw [if_pos h_empty]
    rw [List.nil_append, spaced_singleton] at h_fits ⊢
    unfold strncat
    rw [h_empty, List.nil_append]
    exact snprintf_of_fits h_fits
  · have h_ne : ¬ buf.str = [] := by
      rw [h_buf, spaced_eq_nil_iff h_ws]
      exact h_nil
    rw [spaced_concat h_nil] at h_fits ⊢
    have h_blank : (strncat buf " ".toList).str = spaced ws ++ [' '] := by
      unfold strncat
      rw [h_buf]
      refine snprintf_of_fits (lt_of_le_of_lt ?_ h_fits)
      rw [List.length_append, List.length_append, List.length_cons]
      exact Nat.add_le_add_left (Nat.succ_le_succ (Nat.zero_le _)) _
    rw [if_neg h_ne]
    have h_line : spaced ws ++ [' '] ++ tok = spaced ws ++ ' ' :: tok := by simp
    unfold strncat at h_blank ⊢
    rw [h_blank, h_line]
    exact snprintf_of_fits h_fits

/-- **Run.** The token loop joins the words. -/
theorem heartbeatLoop_buf (toks : List CStr) {ws : List CStr} (h_words : ∀ w ∈ ws ++ toks, w ≠ [])
    (h_fits : (spaced (ws ++ toks)).length < HUB_LINE_LEN) {buf : CharBuf HUB_LINE_LEN}
    (h_buf : buf.str = spaced ws) (s : HubDoorStatus) :
    (heartbeatLoop toks s buf).2.str = spaced (ws ++ toks) := by
  induction toks generalizing ws buf s with
  | nil =>
    rw [List.append_nil]
    exact h_buf
  | cons tok toks ih =>
    -- the invariant is that the buffer holds the words read so far
    have h_split : ws ++ tok :: toks = (ws ++ [tok]) ++ toks := by simp
    have h_ws : ∀ w ∈ ws, w ≠ [] := fun w h_w => h_words w (List.mem_append_left _ h_w)
    rw [h_split] at h_words h_fits ⊢
    have h_first : (spaced (ws ++ [tok])).length < HUB_LINE_LEN :=
      (length_spaced_le_append _ _).trans_lt h_fits
    exact ih h_words h_fits (heartbeatToken_buf h_ws h_first h_buf s) _

/-! ### What fits -/

/-- The words behind module and type. -/
theorem spaced_args_fits {data : List Char} {mod type : CStr} {args : List CStr}
    (h_words : lineTokens (datagramLine data) = mod :: type :: args) :
    (spaced args).length < HUB_LINE_LEN := by
  have h_sum := sum_length_lineTokens_le (datagramLine data)
  have h_line := length_datagramLine_le data
  rw [h_words, List.map_cons, List.sum_cons, List.map_cons, List.sum_cons] at h_sum
  show _ < 256
  by_cases h_nil : args = []
  · subst h_nil
    exact Nat.succ_pos _
  · have h_len := length_spaced h_nil
    omega

/-- The words of a FEEDBACK line as they are relayed. -/
def relayWords (mod cmdidS target action : CStr) : List CStr :=
  [mod, "FEEDBACK".toList, fmtInt (atoi cmdidS), target, action]

/-- With a number in the range of `int` they fit, exactly. -/
theorem spaced_relayWords_fits {data : List Char} {mod cmdidS target action : CStr}
    {rest : List CStr} (h_words : lineTokens (datagramLine data)
      = mod :: "FEEDBACK".toList :: cmdidS :: target :: action :: rest)
    (h_id : InInt (strtol10 cmdidS)) :
    (spaced (relayWords mod cmdidS target action)).length < HUB_LINE_LEN := by
  have h_sum := sum_length_lineTokens_le (datagramLine data)
  have h_line := length_datagramLine_le data
  have h_word : IsWord cmdidS := isWord_of_mem_lineTokens (by rw [h_words]; simp)
  have h_num := length_fmtInt_atoi_le_of_inInt h_word.1 h_id
  have h_len := length_spaced (List.cons_ne_nil mod
    ["FEEDBACK".toList, fmtInt (atoi cmdidS), target, action])
  rw [h_words] at h_sum
  simp only [List.map_cons, List.sum_cons, List.map_nil, List.sum_nil] at h_sum h_len
  show (spaced (mod :: _)).length < 256
  omega

/-! ### The line handler -/

/-- **No word is cut** when the datagram `data` is handled in the state `h`. -/
structure NothingCut (h : HubState) (data : List Char) (src : SockAddr) (t tReg : ℤ) : Prop where
  /-- The history shows module and type, and the words of a FEEDBACK line. -/
  history : ∃ calls, (step h (.datagram data src t tReg)).gHistory = addHistories h.gHistory calls ∧
    calls.map (fun c => c.event.line.str)
      = (stepLog h (.datagram data src t tReg)).map LogEntry.text
  /-- The slot of the module keeps the words of a heartbeat. -/
  heartbeat : ∀ mod args d,
    lineTokens (datagramLine data) = mod :: "HEARTBEAT".toList :: args →
    (findOrCreateDoor mod h.gDoors).2 = some d →
      ((step h (.datagram data src t tReg)).gDoors d).lastHeartbeatLine.str
        = heartbeatText mod args
  /-- A relayed FEEDBACK line has all five words; only its newline may be missing. -/
  relay : ∀ mod cmdidS target action rest,
    lineTokens (datagramLine data)
      = mod :: "FEEDBACK".toList :: cmdidS :: target :: action :: rest →
    InInt (strtol10 cmdidS) →
    ∀ addr msg, HubOut.relay addr msg ∈ (exec h (.datagram data src t tReg)).2 →
      msg = spaced (relayWords mod cmdidS target action) ∨
        msg = spaced (relayWords mod cmdidS target action) ++ ['\n']

/-- The notes of a line are stored whole. -/
theorem history_notCut (h : HubState) (e : HubEv) :
    ∃ calls, (step h e).gHistory = addHistories h.gHistory calls ∧
      calls.map (fun c => c.event.line.str) = (stepLog h e).map LogEntry.text := by
  refine ⟨historyCalls h e, step_gHistory h e, ?_⟩
  have h_text := congrArg (List.map fun x : ℤ × CStr × CStr => x.2.2) (historyCalls_shown h e)
  rw [List.map_map, List.map_map] at h_text
  exact h_text

/-- The slot of a heartbeat has its words. -/
theorem heartbeat_notCut {data : List Char} {mod : CStr} {args : List CStr}
    (h_words : lineTokens (datagramLine data) = mod :: "HEARTBEAT".toList :: args)
    {h : HubState} {d : Fin HUB_MAX_DOORS} (h_d : (findOrCreateDoor mod h.gDoors).2 = some d)
    (src : SockAddr) (t tReg : ℤ) :
    ((step h (.datagram data src t tReg)).gDoors d).lastHeartbeatLine.str
      = heartbeatText mod args := by
  have h_args : ∀ w ∈ [] ++ args, w ≠ [] := by
    intro w h_w
    have h_mem : w ∈ lineTokens (datagramLine data) := by
      rw [h_words]
      exact List.mem_cons_of_mem _ (List.mem_cons_of_mem _ h_w)
    exact (isWord_of_mem_lineTokens h_mem).1
  have h_loop : ∀ s', (heartbeatLoop args s' (CharBuf.zero _)).2.str = spaced args :=
    fun s' => heartbeatLoop_buf args h_args (spaced_args_fits h_words) CharBuf.zero_str s'
  rw [step_datagram_slot h_words h_d]
  unfold lineStatus dispatchStatus heartbeatText
  rw [if_pos rfl]
  unfold heartbeatBranch
  dsimp only
  -- the buffer is empty exactly when the heartbeat has no words behind its type
  by_cases h_nil : args = []
  · have h_empty : spaced args = [] := by
      rw [h_nil]
      rfl
    rw [if_pos ((h_loop _).trans h_empty), if_pos h_nil]
    exact snprintf_of_fits (spaced_mod_type_fits h_words)
  · have h_ne : spaced args ≠ [] := fun h_empty => h_nil ((spaced_eq_nil_iff h_args).mp h_empty)
    rw [if_neg (fun h_empty => h_ne ((h_loop _).symm.trans h_empty)), if_neg h_nil]
    exact h_loop _

/-- A relayed line has its five words. -/
theorem relay_notCut {data : List Char} {mod cmdidS target action : CStr} {rest : List CStr}
    (h_words : lineTokens (datagramLine data)
      = mod :: "FEEDBACK".toList :: cmdidS :: target :: action :: rest)
    (h_id : InInt (strtol10 cmdidS)) {h : HubState} {src : SockAddr} {t tReg : ℤ}
    {addr : SockAddr} {msg : CStr}
    (h_msg : HubOut.relay addr msg ∈ (exec h (.datagram data src t tReg)).2) :
    msg = spaced (relayWords mod cmdidS target action) ∨
      msg = spaced (relayWords mod cmdidS target action) ++ ['\n'] := by
  have h_relay : (addr, msg) ∈ relaysOf (exec h (.datagram data src t tReg)).2 :=
    List.mem_filterMap.mpr ⟨_, h_msg, rfl⟩
  have h_f : feedbackOf (HubEv.datagram data src t tReg).words
      = some ⟨mod, atoi cmdidS, target, action⟩ := by
    show feedbackOf (lineTokens (datagramLine data)) = _
    rw [h_words]
    exact cmdWords_self _ _ _ _ _ _
  rcases exec_pending_cases h (.datagram data src t tReg) with
    ⟨f, h_f', -, -, h_out⟩ | ⟨c, tReg', -, -, -, h_out⟩ | ⟨-, -, -, h_out⟩
  · -- the relay is the formatted line
    obtain rfl := Option.some.inj (h_f.symm.trans h_f')
    rw [h_out] at h_relay
    unfold feedbackRelay at h_relay
    split at h_relay
    · obtain ⟨-, rfl⟩ := Prod.mk.inj (List.mem_singleton.mp h_relay)
      exact snprintf_spaced (spaced_relayWords_fits h_words h_id)
    · exact absurd h_relay List.not_mem_nil
  · -- no other line is relayed
    rw [h_out] at h_relay
    exact absurd h_relay List.not_mem_nil
  · rw [h_out] at h_relay
    exact absurd h_relay List.not_mem_nil

/-- **The line handler cuts no word**, for every datagram and in every state of the hub. -/
theorem nothingCut (h : HubState) (data : List Char) (src : SockAddr) (t tReg : ℤ) :
    NothingCut h data src t tReg := by
  refine ⟨history_notCut h _, fun mod args d h_words h_d => ?_,
    fun mod cmdidS target action rest h_words h_id addr msg h_msg => ?_⟩
  · exact heartbeat_notCut h_words h_d src t tReg
  · exact relay_notCut h_words h_id h_msg

end Hub

end DoorSystem
