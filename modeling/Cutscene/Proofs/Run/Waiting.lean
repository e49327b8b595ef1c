import Cutscene.Proofs.Conduct.Table
import Cutscene.Proofs.Run.Release

/-!
# Waits Stay with Their Commands

A wait is dropped by whatever moves the pointer or begins another script, and a command that is
rewritten has none. So the wait that a command finds is always its own: it is of a kind that the
command records, at a gate that the command names, or for an actor whom its token means.
-/

namespace Cutscene

open Scene Commands

variable {α σ : Type} [Scalar α] [Stage α σ]

/-- **A wait belongs to the command under the pointer.** In every scene of every run in which a wait
is recorded, the text under the pointer is no comment and calls a command that records waits of this
kind. A wait at a gate names the gate of the command, and a wait for an emote is for the live actor
whom the command means. -/
theorem wait_belongs_to_command (p : Premiere α σ) (moves : List (HostMove α σ)) :
    ∀ t ∈ p.scene.course table moves,
      (t.wait ≠ none → ∃ raw, t.working.get? t.pointer = some raw ∧
        t.settings.isComment raw = false ∧
        t.command = (table : CommandTable (Handler α σ)).commandOf raw) ∧
      (t.wait = some .dialogue → t.command.1 = "speak" ∨ t.command.1 = "message") ∧
      (∀ fork, t.wait = some (.answer fork) →
        t.command.1 = "question" ∨ t.command.1 = "quickQuestion") ∧
      (∀ left, t.wait = some (.pause left) → t.command.1 = "pause") ∧
      (t.wait = some .fade → t.command.1 = "globalFade" ∨ t.command.1 = "globalFadeToClear") ∧
      (t.wait = some .menu → t.command.1 = "showItemsLost") ∧
      (∀ gate, t.wait = some (.gate gate) →
        t.command.1 = "waitForOtherPlayers" ∧ t.command.2.get? 1 = some gate) ∧
      ∀ handle, t.wait = some (.emote handle) → t.command.1 = "emote" ∧
        ∃ token actor, t.command.2.get? 1 = some token ∧
          t.cast.resolve? (ActorRef.parse token) = some handle ∧
          t.cast.get? handle = some actor := by
  intro t ht
  obtain ⟨-, hs⟩ := attended_habit.kept.course ⟨p.atRest, p.attended⟩ moves t ht
  refine ⟨fun hw => ?_, hs.owned _, fun fork hw => ?_, fun left => hs.owned _, hs.owned _,
    hs.owned _, fun gate => hs.owned _, fun handle hw => ?_⟩
  · obtain ⟨raw, hat⟩ := hs.spoken hw
    exact ⟨raw, hat.1, hat.2, hat.command_eq⟩
  · exact (hs.owned _ hw).isOf
  · obtain ⟨hname, token, hget, hresolve⟩ := hs.owned _ hw
    obtain ⟨actor, hactor⟩ := Option.isSome_iff_exists.mp (Cast.get?_isSome_of_resolve? hresolve)
    exact ⟨hname, token, actor, hget, hresolve, hactor⟩

/-- Abigail emotes while the script waits for her. -/
theorem emote_holds_script :
    ∃ t ∈ (rehearsed ["emote Abigail 8", "end"]).scene.course table [.tick],
      t.wait = some (.emote ⟨0⟩) ∧ t.command.1 = "emote" ∧
        ∃ token actor, t.command.2.get? 1 = some token ∧
          t.cast.resolve? (ActorRef.parse token) = some ⟨0⟩ ∧ t.cast.get? ⟨0⟩ = some actor := by
  have hmem : (rehearsed ["emote Abigail 8", "end"]).scene.play table [.tick] ∈
      (rehearsed ["emote Abigail 8", "end"]).scene.course table [.tick] :=
    List.mem_append_right _ List.mem_cons_self
  have hwait : ((rehearsed ["emote Abigail 8", "end"]).scene.play table [.tick]).wait =
      some (.emote ⟨0⟩) := by
    decide +kernel
  obtain ⟨-, -, -, -, -, -, -, hemote⟩ := wait_belongs_to_command _ [.tick] _ hmem
  exact ⟨_, hmem, hwait, hemote ⟨0⟩ hwait⟩

end Cutscene
