import Cutscene.Proofs.Conduct.Steering
import Cutscene.Proofs.Place.Basic

/-!
# The Place of the Commands That Steer and Speak

Edits are queued relative to the command, and of its own text only `quickQuestion` asks. Whether a
command finds its own wait does not depend on its place.
-/

namespace Cutscene.Commands

open Scene

variable {α σ : Type}

/-! ### Flow -/

lemma skippable_local : Local (skippable : Handler α σ) := fun _ _ _ _ _ => rfl

lemma beginSimultaneous_local : Local (beginSimultaneous : Handler α σ) := fun _ _ _ _ _ => rfl

lemma endSimultaneous_local : Local (endSimultaneous : Handler α σ) := fun _ _ _ _ _ => rfl

lemma setSkipActions_local : Local (setSkipActions : Handler α σ) :=
  fun _ _ _ _ _ => .reading fun _ _ => rfl

variable [Stage α σ]

lemma finish_agrees {s : Scene α σ} {q : Place} {raw : String} {reports reports' : List Report}
    (ending : Ending) :
    Agrees q (({ s.atPlace q with reports := reports } : Scene α σ).finish ending).done
      (({ s.alone raw with reports := reports' } : Scene α σ).finish ending).done :=
  .choice (fun _ => rfl) fun _ => rfl

lemma end_local : Local («end» : Handler α σ) := by
  intro a s q raw _
  refine .either (fun _ => rfl) fun _ => ?_
  cases Ending.ofArgs a with
  | ok ending => exact finish_agrees ending
  | error e => exact finish_agrees .plain

lemma redirect_agrees {s : Scene α σ} {q : Place} {raw : String} (key : String) (swap : Swap) :
    Agrees q (redirect (s.atPlace q) key swap) (redirect (s.alone raw) key swap) := by
  have hthere : segmentText? (s.atPlace q) key = segmentText? s key := rfl
  have halone : segmentText? (s.alone raw) key = segmentText? s key := rfl
  unfold redirect
  rw [hthere, halone]
  cases segmentText? s key <;> rfl

lemma fork_local : Local (fork : Handler α σ) :=
  fun _ _ _ _ _ => .reading fun _ _ => .either (fun _ => redirect_agrees _ _) fun _ => rfl

lemma switchEvent_local : Local (switchEvent : Handler α σ) :=
  fun _ _ _ _ _ => .reading fun _ _ => redirect_agrees _ _

lemma waitForOtherPlayers_local : Local (waitForOtherPlayers : Handler α σ) := by
  intro a s q raw _
  rw [waitForOtherPlayers_eq, waitForOtherPlayers_eq]
  refine .reading fun gate _ => ?_
  have hthere : heldAt (s.atPlace q) gate = heldAt s gate := rfl
  have halone : heldAt (s.alone raw) gate = heldAt s gate := rfl
  dsimp only
  rw [hthere, halone]
  cases heldAt s gate with
  | false => exact .either (fun _ => rfl) fun _ => rfl
  | true => exact .either (fun _ => rfl) fun _ => rfl

/-! ### Dialogue -/

lemma onceClosed_agrees {s : Scene α σ} {q : Place} {raw : String}
    {begins : Scene α σ → Reply α σ}
    (h : Agrees q (begins (s.atPlace q)) (begins (s.alone raw))) :
    Agrees q (onceClosed (s.atPlace q) begins) (onceClosed (s.alone raw) begins) := by
  unfold onceClosed
  rw [wait_atPlace, wait_alone]
  split
  · exact .choice (fun _ => rfl) fun _ => rfl
  · exact .either (fun _ => rfl) fun _ => h

lemma speak_local : Local (speak : Handler α σ) :=
  fun _ _ _ _ _ => onceClosed_agrees <| .reading fun _ _ => .withActor fun _ _ =>
    .either (fun _ => rfl) fun _ => rfl

lemma message_local : Local (message : Handler α σ) :=
  fun _ _ _ _ _ => onceClosed_agrees <| .reading fun _ _ => rfl

lemma question_local : Local (question : Handler α σ) := by
  intro a s q raw _
  unfold question
  rw [wait_atPlace, wait_alone, stage_atPlace, stage_alone]
  split
  · dsimp only
    cases (Stage.takeAnswer α s.stage).1 with
    | none => rfl
    | some n =>
      dsimp only
      split <;> rfl
  · refine .either (fun _ => rfl) fun _ => .reading fun v _ => ?_
    obtain ⟨fork, text⟩ := v
    dsimp only
    cases splitPrompt? text <;> rfl

lemma quickQuestion_local : Local (quickQuestion : Handler α σ) := by
  intro a s q raw hraw
  have htext : (s.atPlace q).currentCommand? = some raw := hraw
  have hown : (s.alone raw).currentCommand? = some raw := rfl
  unfold quickQuestion
  rw [htext, hown, wait_atPlace, wait_alone, stage_atPlace, stage_alone]
  dsimp only
  split
  · cases (Stage.takeAnswer α s.stage).1 with
    | none => rfl
    | some n =>
      dsimp only
      split
      · rfl
      · exact .choice (fun _ => rfl) fun _ => rfl
  · refine .either (fun _ => rfl) fun _ => ?_
    split <;> rfl

lemma speakFromState_local : Local (speakFromState : Handler α σ) := by
  refine fun a s q raw _ => .reading fun v _ => ?_
  obtain ⟨actor, key⟩ := v
  dsimp only
  rw [stage_atPlace, stage_alone]
  cases Stage.stateDialogue? α s.stage actor key <;> rfl

variable [Scalar α]

lemma pause_local : Local (pause : Handler α σ) := by
  intro a s q raw _
  unfold pause
  rw [wait_atPlace, wait_alone]
  split
  · exact .choice (fun _ => rfl) fun _ => rfl
  · exact .reading fun _ _ => .choice (fun _ => rfl) fun _ => rfl

end Cutscene.Commands
