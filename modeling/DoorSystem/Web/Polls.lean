import DoorSystem.Lib.Tally
import DoorSystem.Web.Control

/-!
# How often the page asks for a status

After the feedback to a LOCK or UNLOCK the page asks for the status every half second until its
cache has the expected word, and at most 20 times. Any number of these chains may run at once, for
one module as for several, and each goes on until its own word is seen.

`poll_budget` is the account of a whole run: the requests for a module, with those that the chains
may still make and those that they have been spared, are the regular requests and 20 for each
feedback. A chain is spared requests only where the cache has its word when its timer runs out.
-/

namespace DoorSystem

open CLib CLib.Js

namespace Web

variable (U : UpperCase)

/-! ### The account -/

/-- The requests that a timer may still lead to. -/
def PageTimer.credit (m : ModuleId) : PageTimer → ℕ
  | .clearMessage _ => 0
  | .poll m' _ pollCount => if m' = m then Page.maxPolls - pollCount else 0

namespace Page

/-- The requests that the chains of a module may still make. -/
def credit (m : ModuleId) (p : Page) : ℕ := (p.timers.map (PageTimer.credit m)).sum

/-- The requests for the status of a module that a step emits. -/
def statusRequests (m : ModuleId) (p : Page) (e : PageEv) : ℕ :=
  (p.exec U e).2.count (requestModuleStatus m)

/-- The regular requests for a module: when the page is there, at a `connect`, and every three
seconds. -/
def refreshes (p : Page) : PageEv → ℕ
  | .domContentLoaded => if p.ready = false ∧ p.connected = true then 1 else 0
  | .connect => if p.ready = true ∧ p.statusOnConnect = true then 1 else 0
  | .tick => if p.ready = true then 1 else 0
  | _ => 0

/-- The feedback to a LOCK or UNLOCK of a module arrives. -/
def completions (m : ModuleId) (p : Page) : PageEv → ℕ
  | .receive (.doorFeedback module _ action) =>
    if p.ready = true ∧ ModuleId.lookup module = some m ∧
        (U.toUpperCase action = "LOCK".toList ∨ U.toUpperCase action = "UNLOCK".toList)
    then 1 else 0
  | _ => 0

/-- The requests that a chain is spared: its timer runs out and the cache has the word, or the page
is loaded anew. -/
def spared (m : ModuleId) (p : Page) : PageEv → ℕ
  | .load => p.credit m
  | .timer i =>
    match p.timers[i]? with
    | some (.poll m' targetLocked pollCount) =>
      if m' = m ∧ (p.doorStates m).lockLocked = some targetLocked then maxPolls - pollCount else 0
    | _ => 0
  | _ => 0

/-! ### Steps -/

theorem credit_setTimeout (m : ModuleId) (t : PageTimer) (p : Page) :
    (p.setTimeout t).credit m = p.credit m + t.credit m := by
  unfold credit setTimeout
  simp

/-- What a timer that runs out leaves. -/
theorem credit_eraseIdx (m : ModuleId) {p : Page} {i : ℕ} {t : PageTimer}
    (h_t : p.timers[i]? = some t) :
    credit m { p with timers := p.timers.eraseIdx i } + t.credit m = p.credit m := by
  obtain ⟨h_i, rfl⟩ := List.getElem?_eq_some_iff.mp h_t
  have h_perm := (List.getElem_cons_eraseIdx_perm h_i).map (PageTimer.credit m)
  have h_sum := h_perm.sum_eq
  rw [List.map_cons, List.sum_cons] at h_sum
  unfold credit
  dsimp only
  omega

theorem count_all (m : ModuleId) :
    (ModuleId.all.map requestModuleStatus).count (requestModuleStatus m) = 1 := by
  cases m <;> decide

/-- A request starts or carries on a chain. -/
theorem count_singleton (m m' : ModuleId) :
    [requestModuleStatus m'].count (requestModuleStatus m) = if m' = m then 1 else 0 := by
  cases m <;> cases m' <;> decide

/-- A poll of a module pays for its request. -/
theorem balance_pollStatus (m m' : ModuleId) (targetLocked : Bool) {pollCount : ℕ}
    (h_more : pollCount < maxPolls) (p : Page) :
    (p.pollStatus m' targetLocked pollCount).2.count (requestModuleStatus m)
        + credit m (p.pollStatus m' targetLocked pollCount).1
      = p.credit m + if m' = m then maxPolls - pollCount else 0 := by
  unfold pollStatus
  dsimp only
  rw [count_singleton, credit_setTimeout]
  unfold PageTimer.credit
  dsimp only
  split_ifs <;> omega

theorem completions_eq {m : ModuleId} {p : Page} (h_ready : p.ready = true) {module : CStr}
    {m' : ModuleId} (h_lookup : ModuleId.lookup module = some m') (target action : CStr) :
    completions U m p (.receive (.doorFeedback module target action))
      = if m' = m ∧ (U.toUpperCase action = "LOCK".toList ∨ U.toUpperCase action = "UNLOCK".toList)
        then 1 else 0 := by
  unfold completions
  dsimp only
  rw [h_lookup]
  exact if_congr (by rw [Option.some.injEq]; exact and_iff_right h_ready) rfl rfl

/-- A feedback that completes a LOCK or UNLOCK starts a chain. -/
theorem balance_onDoorFeedback (m : ModuleId) {p : Page} (h_ready : p.ready = true)
    (module target action : CStr) :
    (p.onDoorFeedback U module action).2.count (requestModuleStatus m)
        + credit m (p.onDoorFeedback U module action).1
      = p.credit m + 20 * completions U m p (.receive (.doorFeedback module target action)) := by
  cases h_lookup : ModuleId.lookup module with
  | none =>
    have h_none : completions U m p (.receive (.doorFeedback module target action)) = 0 := by
      refine if_neg fun h => ?_
      rw [h_lookup] at h
      exact absurd h.2.1 (by simp)
    unfold onDoorFeedback
    rw [h_none, h_lookup]
    exact Nat.zero_add _
  | some m' =>
    rw [completions_eq U h_ready h_lookup]
    unfold onDoorFeedback
    rw [h_lookup]
    dsimp only
    -- the cache is written before, which no timer sees
    have h_start : ∀ targetLocked,
        ((p.applyTo m' (applyDoorFeedback U action)).pollStatus m' targetLocked 0).2.count
            (requestModuleStatus m)
          + credit m ((p.applyTo m' (applyDoorFeedback U action)).pollStatus m' targetLocked 0).1
        = p.credit m + if m' = m then maxPolls else 0 := fun targetLocked =>
      balance_pollStatus m m' targetLocked (by decide) (p.applyTo m' (applyDoorFeedback U action))
    have h_cost : (U.toUpperCase action = "LOCK".toList ∨
        U.toUpperCase action = "UNLOCK".toList) →
        (if m' = m then maxPolls else 0)
          = 20 * if m' = m ∧ (U.toUpperCase action = "LOCK".toList ∨
              U.toUpperCase action = "UNLOCK".toList) then 1 else 0 := by
      intro h_word
      by_cases h_m : m' = m
      · rw [if_pos h_m, if_pos ⟨h_m, h_word⟩]
        rfl
      · rw [if_neg h_m, if_neg (fun h => h_m h.1)]
    have h_quiet : ¬ (U.toUpperCase action = "LOCK".toList ∨
        U.toUpperCase action = "UNLOCK".toList) → ∀ p' : Page, credit m p' = p.credit m →
        ([] : List Request).count (requestModuleStatus m) + credit m p'
          = p.credit m + 20 * if m' = m ∧ (U.toUpperCase action = "LOCK".toList ∨
              U.toUpperCase action = "UNLOCK".toList) then 1 else 0 := by
      intro h_not p' h_p'
      rw [if_neg (fun h => h_not h.2), List.count_nil, h_p']
      omega
    by_cases h_status : "STATUS_".toList <+: U.toUpperCase action
    · -- a status completes nothing
      rw [if_pos h_status]
      refine h_quiet (fun h => ?_) _ rfl
      rcases h with h_eq | h_eq
      · rw [h_eq] at h_status
        exact absurd h_status (by decide)
      · rw [h_eq] at h_status
        exact absurd h_status (by decide)
    rw [if_neg h_status]
    by_cases h_lock : U.toUpperCase action = "LOCK".toList
    · rw [if_pos h_lock, h_start, h_cost (Or.inl h_lock)]
    rw [if_neg h_lock]
    by_cases h_unlock : U.toUpperCase action = "UNLOCK".toList
    · rw [if_pos h_unlock, h_start, h_cost (Or.inr h_unlock)]
    · rw [if_neg h_unlock]
      exact h_quiet (fun h => h.elim h_lock h_unlock) _ rfl

/-- The step asks for nothing and leaves the chains alone. -/
def Silent (m : ModuleId) (p : Page) (r : Page × List Request) : Prop :=
  r.2 = [] ∧ credit m r.1 = p.credit m

theorem Silent.balance {m : ModuleId} {p : Page} {r : Page × List Request} (h : Silent m p r) :
    r.2.count (requestModuleStatus m) + credit m r.1 = p.credit m := by
  rw [h.1, h.2]
  exact Nat.zero_add _

theorem silent_onCommandFeedback (m : ModuleId) (module action : CStr) (p : Page) :
    Silent m p (p.onCommandFeedback U module action) := by
  unfold onCommandFeedback
  cases ModuleId.lookup module with
  | none => exact ⟨rfl, rfl⟩
  | some m' => exact ⟨rfl, rfl⟩

theorem silent_onCommandError (m : ModuleId) (module error : CStr) (p : Page) :
    Silent m p (p.onCommandError module error) := by
  unfold onCommandError
  split
  · exact ⟨rfl, rfl⟩
  · exact ⟨rfl, credit_setTimeout m (.clearMessage _) _⟩

theorem silent_onHubEvent (m : ModuleId) (module event : CStr) (p : Page) :
    Silent m p (p.onHubEvent U module event) := by
  unfold onHubEvent
  cases ModuleId.lookup module with
  | none => exact ⟨rfl, rfl⟩
  | some m' =>
    dsimp only
    split_ifs
    · exact ⟨rfl, rfl⟩
    · exact ⟨rfl, rfl⟩

/-- The other events of the server ask for nothing. -/
theorem balance_receive (m : ModuleId) {p : Page} (h_ready : p.ready = true) (e : Node.Emit) :
    (p.receive U e).2.count (requestModuleStatus m) + credit m (p.receive U e).1
      = p.credit m + 20 * completions U m p (.receive e) := by
  cases e with
  | doorFeedback module target action =>
    exact balance_onDoorFeedback U m h_ready module target action
  | commandFeedback module cmdid target action raw =>
    exact (silent_onCommandFeedback U m module action p).balance
  | commandError module cmdid error => exact (silent_onCommandError m module error p).balance
  | hubEvent module target event raw => exact (silent_onHubEvent U m module event p).balance
  | hubHeartbeat module raw => exact Silent.balance ⟨rfl, rfl⟩
  | hubHello module raw => exact Silent.balance ⟨rfl, rfl⟩
  | hubRaw raw => exact Silent.balance ⟨rfl, rfl⟩

/-- A click asks for an operation, and not for a status. -/
theorem balance_toggleDoor (m m' : ModuleId) (p : Page) :
    (p.toggleDoor m').2.count (requestModuleStatus m) + credit m (p.toggleDoor m').1
      = p.credit m := by
  have h_message : ∀ text, credit m ((p.setMessage m' text).setTimeout (.clearMessage m'))
      = p.credit m := fun text => credit_setTimeout m (.clearMessage m') _
  have h_action : ∀ action : CStr, action ≠ "STATUS".toList →
      [(⟨m'.text, "D0".toList, action⟩ : Request)].count (requestModuleStatus m) = 0 := by
    intro action h_action
    refine List.count_eq_zero.mpr fun h_mem => ?_
    exact h_action (congrArg Request.action (List.mem_singleton.mp h_mem)).symm
  unfold toggleDoor
  dsimp only
  -- the click is refused, or asks for a lock or an unlock, never for a status
  split_ifs
  · rw [List.count_nil, h_message]
    omega
  · rw [h_action _ (by decide), h_message]
    omega
  · rw [h_action _ (by decide), h_message]
    omega

/-- A timer that runs out carries its chain on, or ends it. -/
theorem balance_timer (m : ModuleId) (p : Page) (i : ℕ) :
    statusRequests U m p (.timer i) + spared m p (.timer i) + (p.step U (.timer i)).credit m
      = p.credit m := by
  unfold statusRequests step spared
  dsimp only [exec]
  cases h_t : p.timers[i]? with
  | none => simp
  | some t =>
    have h_erase := credit_eraseIdx m h_t
    cases t with
    | clearMessage m' =>
      have h_set : credit m (setMessage m' [] { p with timers := p.timers.eraseIdx i })
          = credit m { p with timers := p.timers.eraseIdx i } := rfl
      dsimp only [onTimer]
      rw [List.count_nil, h_set]
      change _ + 0 = _ at h_erase
      omega
    | poll m' targetLocked pollCount =>
      dsimp only [onTimer, PageTimer.credit] at h_erase ⊢
      by_cases h_end : (p.doorStates m').lockLocked = some targetLocked ∨ maxPolls ≤ pollCount
      · -- what is left of the chain is spared, and nothing is left after 20 polls
        have h_spared : (if m' = m ∧ (p.doorStates m).lockLocked = some targetLocked
            then maxPolls - pollCount else 0) = if m' = m then maxPolls - pollCount else 0 := by
          by_cases h_m : m' = m
          · subst h_m
            rw [if_pos rfl]
            rcases h_end with h_word | h_last
            · rw [if_pos ⟨rfl, h_word⟩]
            · rw [Nat.sub_eq_zero_of_le h_last]
              split_ifs <;> rfl
          · rw [if_neg h_m, if_neg (fun h => h_m h.1)]
        rw [if_pos h_end, List.count_nil, h_spared]
        dsimp only
        omega
      · obtain ⟨h_word, h_more⟩ := not_or.mp h_end
        have h_spared : (if m' = m ∧ (p.doorStates m).lockLocked = some targetLocked
            then maxPolls - pollCount else 0) = 0 := by
          refine if_neg ?_
          rintro ⟨rfl, h⟩
          exact h_word h
        have h_poll := balance_pollStatus m m' targetLocked (not_le.mp h_more)
          { p with timers := p.timers.eraseIdx i }
        rw [if_neg h_end, h_spared]
        omega

/-- **Step.** -/
theorem balance_exec (m : ModuleId) (p : Page) (e : PageEv) :
    statusRequests U m p e + spared m p e + (p.step U e).credit m
      = p.credit m + (refreshes p e + 20 * completions U m p e) := by
  cases e with
  | load =>
    show 0 + p.credit m + 0 = p.credit m + (0 + 20 * 0)
    omega
  | domContentLoaded =>
    unfold statusRequests step
    dsimp only [exec, spared, refreshes, completions]
    by_cases h_ready : p.ready = true
    · rw [if_pos h_ready, if_neg (by simp [h_ready])]
      exact Nat.zero_add _
    · rw [if_neg h_ready]
      unfold onLoaded
      by_cases h_connected : p.connected = true
      · rw [if_pos h_connected, if_pos ⟨Bool.eq_false_iff.mpr h_ready, h_connected⟩, count_all]
        exact Nat.add_comm 1 _
      · rw [if_neg h_connected, if_neg (fun h => h_connected h.2)]
        exact Nat.zero_add _
  | connect =>
    unfold statusRequests step
    dsimp only [exec, spared, refreshes, completions, onConnect]
    by_cases h_ready : p.ready = true
    · rw [if_pos h_ready]
      by_cases h_status : p.statusOnConnect = true
      · rw [if_pos h_status, if_pos ⟨h_ready, h_status⟩, count_all]
        exact Nat.add_comm 1 _
      · rw [if_neg h_status, if_neg (fun h => h_status h.2)]
        exact Nat.zero_add _
    · rw [if_neg h_ready, if_neg (fun h => h_ready h.1)]
      exact Nat.zero_add _
  | disconnect =>
    have h_timers : credit m p.onDisconnect = p.credit m := by
      unfold onDisconnect
      dsimp only
      split_ifs <;> rfl
    show 0 + 0 + credit m p.onDisconnect = p.credit m + (0 + 20 * 0)
    omega
  | receive e =>
    show statusRequests U m p (.receive e) + 0 + _ = _ + (0 + _)
    unfold statusRequests step
    dsimp only [exec]
    by_cases h_ready : p.ready = true
    · rw [if_pos h_ready]
      have h_balance := balance_receive U m h_ready e
      omega
    · -- nobody listens yet
      have h_none : completions U m p (.receive e) = 0 := by
        cases e with
        | doorFeedback module target action => exact if_neg (fun h => h_ready h.1)
        | _ => rfl
      rw [if_neg h_ready, h_none]
      exact Nat.zero_add _
  | tick =>
    unfold statusRequests step
    dsimp only [exec, spared, refreshes, completions]
    by_cases h_ready : p.ready = true
    · rw [if_pos h_ready, if_pos h_ready, count_all]
      omega
    · rw [if_neg h_ready, if_neg h_ready, List.count_nil]
      omega
  | timer i =>
    have h_balance := balance_timer U m p i
    show _ = p.credit m + (0 + 20 * 0)
    omega
  | click m' =>
    show statusRequests U m p (.click m') + 0 + _ = _ + (0 + 20 * 0)
    unfold statusRequests step
    dsimp only [exec]
    have h_balance := balance_toggleDoor m m' p
    split_ifs
    · omega
    · dsimp only
      rw [List.count_nil]
      omega

/-! ### Runs -/

/-- **The account of a run**, for one module. -/
theorem poll_budget (m : ModuleId) (es : List PageEv) :
    tally (step U) (statusRequests U m) loaded es + tally (step U) (spared m) loaded es
        + (visited U es).credit m
      = tally (step U) refreshes loaded es
        + 20 * tally (step U) (completions U m) loaded es := by
  have h_balance := tally_balance (credit m) (balance_exec U m) loaded es
  rw [tally_add, tally_add, tally_const_mul] at h_balance
  -- a page that has just been loaded has no timers
  have h_loaded : credit m loaded = 0 := rfl
  rw [h_loaded, Nat.zero_add] at h_balance
  exact h_balance

end Page

end Web

end DoorSystem
