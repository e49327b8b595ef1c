import Cutscene.Proofs.Conduct.Steering
import Cutscene.Proofs.Troupe.Basic

/-!
# Deeds of the Commands That Steer and Speak

None of these commands touches the troupe. The edits that they queue are another script, the branch
that was picked, and the line that an actor has for a state. An `end` is left out here: it finishes
the event.
-/

namespace Cutscene.Commands

open Scene Troupe

variable {α σ : Type} [Scalar α]

/-! ### Flow -/

lemma skippable_deeds (a : Args) (s : Scene α σ) : Deeds "skippable" s (skippable a s).scene :=
  .of_eq rfl rfl

lemma beginSimultaneous_deeds (a : Args) (s : Scene α σ) :
    Deeds "beginSimultaneousCommand" s (beginSimultaneous a s).scene :=
  .of_eq rfl rfl

lemma endSimultaneous_deeds (a : Args) (s : Scene α σ) :
    Deeds "endSimultaneousCommand" s (endSimultaneous a s).scene :=
  .of_eq rfl rfl

lemma setSkipActions_deeds (a : Args) (s : Scene α σ) :
    Deeds "setSkipActions" s (setSkipActions a s).scene :=
  .reading fun _ _ => .of_eq rfl rfl

variable [Stage α σ]

lemma pause_deeds (a : Args) (s : Scene α σ) : Deeds "pause" s (pause a s).scene := by
  unfold pause
  split
  · dsimp only
    generalize (if Stage.menuOpen α s.stage = true then _ else _) = left
    split <;> exact .of_eq rfl rfl
  · refine .reading fun time _ => ?_
    split <;> exact .of_eq rfl rfl

lemma redirect_deeds {name : String} (hn : name = "fork" ∨ name = "switchEvent") (s : Scene α σ)
    (key : String) (swap : Swap) : Deeds name s (redirect s key swap).scene := by
  unfold redirect
  split
  · exact .queues (.script hn _ swap) rfl rfl
  · exact .of_eq rfl rfl

lemma fork_deeds (a : Args) (s : Scene α σ) : Deeds "fork" s (fork a s).scene := by
  refine .reading fun v _ => ?_
  obtain ⟨taken, key⟩ := v
  dsimp only
  split
  · exact redirect_deeds (.inl rfl) s key .fork
  · exact .of_eq rfl rfl

lemma switchEvent_deeds (a : Args) (s : Scene α σ) :
    Deeds "switchEvent" s (switchEvent a s).scene :=
  .reading fun key _ => redirect_deeds (.inr rfl) s key .switch

lemma waitForOtherPlayers_deeds (a : Args) (s : Scene α σ) :
    Deeds "waitForOtherPlayers" s (waitForOtherPlayers a s).scene := by
  rw [waitForOtherPlayers_eq]
  refine .reading fun gate _ => ?_
  have hthere : ∀ t : Scene α σ, t.troupe = s.troupe → t.edits = s.edits →
      Deeds "waitForOtherPlayers" s (if Stage.gateReady α t.stage gate then
        ((t.call (.waitingForPlayers none)).advance 1).done else t.done).scene := by
    intro t htroupe hedits
    split <;> exact .of_eq htroupe hedits
  cases hheld : heldAt s gate with
  | true => exact hthere s rfl rfl
  | false => exact hthere (arrived s gate) rfl rfl

/-! ### Dialogue -/

lemma onceClosed_deeds {name : String} {s : Scene α σ} {begins : Scene α σ → Reply α σ}
    (h : Deeds name s (begins s).scene) : Deeds name s (onceClosed s begins).scene := by
  unfold onceClosed holdDialogue
  split
  · split <;> exact .of_eq rfl rfl
  · split
    · exact .refl s
    · exact h

lemma speak_deeds (a : Args) (s : Scene α σ) : Deeds "speak" s (speak a s).scene := by
  refine onceClosed_deeds (.reading fun v _ => ?_)
  obtain ⟨token, text⟩ := v
  refine .withActor (.refl s) fun _ actor _ => ?_
  split <;> exact .of_eq rfl rfl

lemma message_deeds (a : Args) (s : Scene α σ) : Deeds "message" s (message a s).scene :=
  onceClosed_deeds (.reading fun _ _ => .of_eq rfl rfl)

lemma question_deeds (a : Args) (s : Scene α σ) : Deeds "question" s (question a s).scene := by
  unfold question
  split
  · dsimp only
    split
    · exact .of_eq rfl rfl
    · split <;> exact .of_eq rfl rfl
  · split
    · exact .refl s
    · refine .reading fun v _ => ?_
      obtain ⟨fork, text⟩ := v
      dsimp only
      split <;> exact .of_eq rfl rfl

/-- The commands of a branch are cut from the text of the question itself. -/
lemma quickQuestion_deeds (a : Args) (s : Scene α σ) :
    Deeds "quickQuestion" s (quickQuestion a s).scene := by
  unfold quickQuestion
  dsimp only
  split
  · split
    · exact .of_eq rfl rfl
    · rename_i n _
      split
      · exact .of_eq rfl rfl
      · rename_i branch hbranch
        split
        · exact .of_eq rfl rfl
        · exact .queues (.branch rfl _ (List.mem_of_getElem? hbranch)) rfl rfl
  · split
    · exact .refl s
    · split <;> exact .of_eq rfl rfl

lemma speakFromState_deeds (a : Args) (s : Scene α σ) :
    Deeds "speakFromState" s (speakFromState a s).scene := by
  refine .reading fun v _ => ?_
  obtain ⟨actor, key⟩ := v
  dsimp only
  split
  · exact .queues (.line rfl _ _ _) rfl rfl
  · exact .of_eq rfl rfl

end Cutscene.Commands
