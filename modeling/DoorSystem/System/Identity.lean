import DoorSystem.Door.Handler
import DoorSystem.Hub.Membership
import DoorSystem.Hub.SendCommand

/-!
# The id of a module on its way

The id that `door_udp_init2` is given is cut to 15 characters at the door, printed into the HELLO
line, read back as a word and cut once more when the hub stores it. `hub_udp_get_status` and
`hub_udp_send_command` then compare and print the whole id again, and `door_cmd_thread` compares the
word that it reads with the id the door kept.

`identitySurvives_iff`: the id is the same in all four places exactly when it is a word of at most
15 characters. `door_udp_init2` succeeds for every other id as well. What `door_cmd_thread` does
with a line depends on the id alone; that it runs takes the form with two ports.
-/

namespace DoorSystem

open CLib

namespace System

open Door Hub

/-- A door whose `door_udp_init2` has returned true. -/
structure StartedDoor where
  init : InitCall
  before : DoorUdp
  ok : (doorUdpInit2 init before).2.1 = true

/-- The transport of the door. -/
def StartedDoor.udp (D : StartedDoor) : DoorUdp := (doorUdpInit2 D.init D.before).1

/-- What the door has sent. -/
def StartedDoor.sent (D : StartedDoor) : List DoorOut := (doorUdpInit2 D.init D.before).2.2

/-- `door_cmd_thread` accepts the datagram as a command for the module: it has a target and an
action, and its first word is the id. -/
def Addressed (m : CStr) (line : List Char) : Prop :=
  ∃ c, commandOf (lineTokens (datagramLine line)) = some c ∧ c.mod = m

/-- The datagram has words for the id, the type, the number, a target and an action. -/
def HasArguments (line : List Char) : Prop := 5 ≤ (lineTokens (datagramLine line)).length

/-- **Identity.** A hub with a free slot that handles the HELLO of the door knows it under its id,
and the door takes every command line that `hub_udp_send_command` prints for the id as its own, as
long as the line arrives with a target and an action. -/
structure IdentitySurvives (D : StartedDoor) : Prop where
  known : ∀ url es, freeDoor (reached url es).gDoors ≠ none → ∀ o ∈ D.sent, ∀ src t tReg,
    Known D.init.moduleId (step (reached url es) (.datagram o.line src t tReg))
  addressed : ∀ call : SendCall, call.moduleId = D.init.moduleId → Char.ofNat 0 ∉ call.target →
    Char.ofNat 0 ∉ call.action → ∀ cmdid, InInt cmdid → HasArguments (sendLine call cmdid) →
      Addressed D.udp.gModuleId.str (sendLine call cmdid)

/-- The words of a command line for an id that fits. -/
theorem lineTokens_sendLine {call : SendCall} {cmdid : ℤ} (h_text : IsText call.moduleId)
    (h_fits : call.moduleId.length ≤ 15) (h_id : InInt cmdid)
    (h_target : Char.ofNat 0 ∉ call.target) (h_action : Char.ofNat 0 ∉ call.action) :
    ∃ args, lineTokens (datagramLine (sendLine call cmdid))
      = call.moduleId :: "COMMAND".toList :: fmtInt cmdid :: args := by
  have h_num := length_fmtInt_le h_id
  have h_head := length_cmdHead call.moduleId "COMMAND".toList cmdid
  have h_seven : "COMMAND".toList.length = 7 := rfl
  have h_tail : Char.ofNat 0 ∉ call.target ++ ' ' :: (call.action ++ ['\n']) := by
    simp only [List.mem_append, List.mem_cons, List.not_mem_nil, or_false, not_or]
    exact ⟨h_target, by decide, h_action, by decide⟩
  refine ⟨lineTokens ((call.target ++ ' ' :: (call.action ++ ['\n'])).take
    (254 - (cmdHead call.moduleId "COMMAND".toList cmdid).length)), ?_⟩
  unfold sendLine
  rw [commandLine_eq]
  exact lineTokens_sent_head h_text (by decide) h_tail (by omega)

/-- **When the id survives.** Exactly when it is one word of at most 15 characters. -/
theorem identitySurvives_iff (D : StartedDoor) :
    IdentitySurvives D ↔ IsText D.init.moduleId ∧ D.init.moduleId.length ≤ 15 := by
  obtain ⟨-, h_id, -, -, -, h_sent⟩ := doorUdpInit2_started D.ok
  constructor
  · -- a fresh hub has a free slot, and what it knows after the HELLO is such a word
    intro h_survives
    have h_hello : (⟨D.init.notifPort, helloLine D.udp⟩ : DoorOut) ∈ D.sent := by
      unfold StartedDoor.sent
      rw [h_sent]
      exact List.mem_singleton_self _
    have h_known : Known D.init.moduleId
        (reached (CharBuf.zero _) [.datagram (helloLine D.udp) SockAddr.zero 0 0]) :=
      h_survives.known (CharBuf.zero _) [] (by decide) _ h_hello SockAddr.zero 0 0
    exact isText_of_known h_known
  · rintro ⟨h_text, h_fits⟩
    have h_whole : D.udp.gModuleId.str = D.init.moduleId := by
      unfold StartedDoor.udp
      rw [h_id]
      exact snprintf_of_fits (Nat.lt_succ_of_le h_fits)
    constructor
    · intro url es h_free o h_o src t tReg
      unfold StartedDoor.sent at h_o
      rw [h_sent, List.mem_singleton] at h_o
      subst h_o
      have h_words : lineTokens (datagramLine (helloLine D.udp))
          = [D.init.moduleId, "HELLO".toList] := by
        rw [← h_whole]
        exact lineTokens_helloLine (by rw [h_whole]; exact h_text)
      -- the line finds the slot of the module, or takes the free one
      have h_slot : HasSlot D.init.moduleId (reached url es).gDoors := hasSlot_of_freeDoor h_free
      obtain ⟨i, h_i⟩ := exists_holds_step
        (e := .datagram (helloLine D.udp) src t tReg) h_words h_slot
      rw [List.take_of_length_le h_fits] at h_i
      exact known_iff.mpr ⟨i, h_i⟩
    · intro call h_call h_target h_action cmdid h_int h_args
      rw [← h_call] at h_text h_fits
      obtain ⟨args, h_words⟩ := lineTokens_sendLine h_text h_fits h_int h_target h_action
      unfold HasArguments at h_args
      rw [h_words] at h_args
      -- a line with five words has its target and its action
      obtain ⟨target, action, rest, rfl⟩ : ∃ target action rest,
          args = target :: action :: rest := by
        rcases args with _ | ⟨target, _ | ⟨action, rest⟩⟩
        · exact absurd h_args (by simp)
        · exact absurd h_args (by simp)
        · exact ⟨target, action, rest, rfl⟩
      refine ⟨⟨call.moduleId, atoi (fmtInt cmdid), target, action⟩, ?_, ?_⟩
      · rw [h_words]
        exact cmdWords_self _ _ _ _ _ _
      · rw [h_whole]
        exact h_call

/-- The door module `D1`, just started. -/
def doorD1 : StartedDoor := ⟨initD1, .initial, initD1_ok⟩

theorem identitySurvives_doorD1 : IdentitySurvives doorD1 :=
  (identitySurvives_iff doorD1).mpr ⟨initD1_isText, by decide⟩

/-- A door that was started with an id of 16 characters. -/
def lobbyDoor : StartedDoor where
  init := ⟨5001, 5002, "FRONTDOOR-LOBBY1".toList, ⟨true, true⟩, 1000, 0, true, true, true, true⟩
  before := .initial
  ok := by decide +kernel

/-- The hub knows the door under another id than its own. -/
theorem not_identitySurvives : ¬ IdentitySurvives lobbyDoor := by
  intro h_survives
  have h_unknown : ∀ o ∈ lobbyDoor.sent, ¬ Known lobbyDoor.init.moduleId
      (step (reached (CharBuf.zero _) []) (.datagram o.line SockAddr.zero 0 0)) := by
    unfold Known
    decide +kernel
  have h_sent : lobbyDoor.sent ≠ [] := by decide +kernel
  obtain ⟨o, h_o⟩ := List.exists_mem_of_ne_nil _ h_sent
  exact h_unknown o h_o
    (h_survives.known (CharBuf.zero _) [] (by decide) o h_o SockAddr.zero 0 0)

end System

end DoorSystem
