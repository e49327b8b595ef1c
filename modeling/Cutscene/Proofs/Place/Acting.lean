import Cutscene.Proofs.Place.Basic
import Cutscene.Proofs.Reading.Acting

/-!
# The Place of the Commands That Act

What actors and the stage do has nothing to do with the list of commands.
-/

namespace Cutscene.Commands

open Scene

variable {α σ : Type}

/-! ### Actors -/

lemma stopAdvancedMoves_eq (a : Args) (s : Scene α σ) : stopAdvancedMoves a s =
    (({ s with
        paths := []
        cast := (s.paths.map Path.actor).foldl
          (fun c h => c.modify h fun a => { a.halt with scripted := false }) s.cast } :
      Scene α σ).advance 1).done :=
  congrArg (fun t : Scene α σ => (t.advance 1).done)
    (List.foldl_hom (fun c => ({ s with paths := [], cast := c } : Scene α σ)) fun _ _ => rfl)

lemma stopAdvancedMoves_local : Local (stopAdvancedMoves : Handler α σ) := by
  intro a s q raw _
  rw [stopAdvancedMoves_eq, stopAdvancedMoves_eq]
  rfl

lemma halt_local : Local (halt : Handler α σ) := fun _ _ _ _ _ => rfl

lemma faceDirection_local : Local (faceDirection : Handler α σ) :=
  fun _ _ _ _ _ => .reading fun _ _ => .withActor fun _ _ => .chained _ rfl

lemma showFrame_local : Local (showFrame : Handler α σ) :=
  fun _ _ _ _ _ => .reading fun _ _ => .either (fun _ => rfl) fun _ => .withActor fun _ _ => rfl

lemma stopAnimation_local : Local (stopAnimation : Handler α σ) :=
  fun _ _ _ _ _ => .reading fun _ _ => .withActor fun _ _ => rfl

lemma jump_local : Local (jump : Handler α σ) :=
  fun _ _ _ _ _ => .reading fun _ _ => .withActor fun _ _ => rfl

lemma removeActor_local : Local (removeActor : Handler α σ) :=
  fun _ _ _ _ _ => .reading fun _ _ => .withActor fun _ _ => rfl

/-! ### Actors in numbers -/

section Numbers

variable [Scalar α]

/-- Actors go off in the same way from every place. -/
lemma sendOff_local (s : Scene α σ) (p q : Place) (groups : List MoveGroup) (cast : Cast α)
    (barrier : Barrier) (reports reports' : List Report) :
    ∃ cast' barrier' rest rest',
      (sendOff { s.atPlace p with cast := cast, barrier := barrier, reports := reports }
        groups).scene = { s.atPlace p with cast := cast', barrier := barrier', reports := rest } ∧
      (sendOff { s.atPlace q with cast := cast, barrier := barrier, reports := reports' }
        groups).scene =
          { s.atPlace q with cast := cast', barrier := barrier', reports := rest' } := by
  induction groups generalizing cast barrier reports reports' with
  | nil => exact ⟨_, _, _, _, rfl, rfl⟩
  | cons group rest ih =>
    unfold sendOff
    dsimp only
    split
    · split
      · exact ih _ _ _ _
      · exact ih _ _ _ _
    · cases cast.get? _ with
      | none => exact ⟨_, _, _, _, rfl, rfl⟩
      | some actor => exact ih _ _ _ _

lemma move_local : Local (move : Handler α σ) := by
  intro a s q raw _
  cases hgroups : moveGroups? a with
  | none =>
    obtain ⟨fault, hq⟩ := move_of_none hgroups (s.atPlace q)
    obtain ⟨fault', halone⟩ := move_of_none hgroups (s.alone raw)
    rw [hq, halone]
    rfl
  | some groups =>
    obtain ⟨cast, barrier, reports, reports', hq, halone⟩ :=
      sendOff_local s q (.alone raw) groups s.cast s.barrier s.reports []
    have hq : setOff a (s.atPlace q) groups = { s.atPlace q with
        cast := cast, barrier := barrier, reports := reports,
        flags := { (s.atPlace q).flags with continueAfterMove := moveContinues a } } :=
      congrArg (fun t : Scene α σ =>
        ({ t with flags := { t.flags with continueAfterMove := moveContinues a } } : Scene α σ)) hq
    have halone : setOff a (s.alone raw) groups = { s.alone raw with
        cast := cast, barrier := barrier, reports := reports',
        flags := { (s.alone raw).flags with continueAfterMove := moveContinues a } } :=
      congrArg (fun t : Scene α σ =>
        ({ t with flags := { t.flags with continueAfterMove := moveContinues a } } : Scene α σ))
        halone
    rw [move_of_some hgroups, move_of_some hgroups, hq, halone]
    exact .choice (fun _ => rfl) fun _ => rfl

lemma advancedMove_local : Local (advancedMove : Handler α σ) := by
  refine fun a s q raw _ => .reading fun v _ => ?_
  obtain ⟨token, looping, pairs⟩ := v
  dsimp only
  rw [foldl_notePair, foldl_notePair]
  exact .withActor fun _ _ => rfl

lemma walkInSquare_local : Local (walkInSquare : Handler α σ) :=
  fun _ _ _ _ _ => .reading fun _ _ => .withActor fun _ _ => rfl

lemma warp_local : Local (warp : Handler α σ) :=
  fun _ _ _ _ _ => .reading fun _ _ => .withActor fun _ _ => .chained _ rfl

lemma positionOffset_local : Local (positionOffset : Handler α σ) :=
  fun _ _ _ _ _ => .reading fun _ _ => .withActor fun _ _ => .chained _ rfl

lemma speed_local : Local (speed : Handler α σ) :=
  fun _ _ _ _ _ => .reading fun _ _ => .withActor fun _ _ => rfl

lemma animate_local : Local (animate : Handler α σ) :=
  fun _ _ _ _ _ => .reading fun _ _ => .withActor fun _ _ => rfl

lemma shake_local : Local (shake : Handler α σ) :=
  fun _ _ _ _ _ => .reading fun _ _ => .withActor fun _ _ => rfl

lemma addActor_local : Local (addActor : Handler α σ) :=
  fun _ _ _ _ _ => .reading fun _ _ => rfl

end Numbers

variable [Stage α σ]

lemma emote_local : Local (emote : Handler α σ) := by
  intro a s q raw _
  unfold emote
  rw [wait_atPlace, wait_alone]
  split
  · exact .choice (fun _ => rfl) fun _ => rfl
  · exact .reading fun _ _ => .withActor fun _ _ => .either
      (fun _ => .choice (fun _ => rfl) fun _ => rfl) fun _ => rfl

/-! ### The stage -/

lemma playSound_local : Local (playSound : Handler α σ) :=
  fun _ _ _ _ _ => .reading fun _ _ => rfl

lemma playMusic_local : Local (playMusic : Handler α σ) :=
  fun _ _ _ _ _ => .reading fun _ _ => rfl

lemma stopMusic_local : Local (stopMusic : Handler α σ) := fun _ _ _ _ _ => rfl

lemma viewport_local : Local (viewport : Handler α σ) :=
  fun _ _ _ _ _ => .reading fun _ _ => rfl

lemma spawnEffect_local : Local (spawnEffect : Handler α σ) :=
  fun _ _ _ _ _ => .reading fun _ _ => rfl

section Fades

variable [Scalar α]

lemma fade_local (toBlack : Bool) : Local (fade toBlack : Handler α σ) := by
  intro a s q raw _
  unfold fade
  rw [wait_atPlace, wait_alone]
  split
  · exact .choice (fun _ => rfl) fun _ => rfl
  · exact .reading fun _ _ => .choice (fun _ => rfl) fun _ => rfl

lemma globalFade_local : Local (globalFade : Handler α σ) := fade_local true

lemma globalFadeToClear_local : Local (globalFadeToClear : Handler α σ) := fade_local false

lemma screenFlash_local : Local (screenFlash : Handler α σ) :=
  fun _ _ _ _ _ => .reading fun _ _ => rfl

end Fades

/-! ### The saved game -/

lemma mail_local : Local (mail : Handler α σ) := by
  refine fun a s q raw _ => .reading fun letter _ => ?_
  dsimp only
  rw [stage_atPlace, stage_alone]
  cases Stage.hasFlag α s.stage letter <;> rfl

lemma friendship_local : Local (friendship : Handler α σ) :=
  fun _ _ _ _ _ => .reading fun _ _ => rfl

lemma addItem_local : Local (addItem : Handler α σ) :=
  fun _ _ _ _ _ => .reading fun _ _ => rfl

lemma loseItems_local : Local (loseItems : Handler α σ) :=
  fun _ _ _ _ _ => .choice (fun _ => rfl) fun _ => rfl

lemma showItemsLost_local : Local (showItemsLost : Handler α σ) := by
  intro a s q raw _
  unfold showItemsLost
  rw [wait_atPlace, wait_alone]
  split
  · exact .choice (fun _ => rfl) fun _ => rfl
  · rfl

lemma awardFestivalPrize_local : Local (awardFestivalPrize : Handler α σ) := by
  intro a s q raw _
  unfold awardFestivalPrize
  cases a.get? 1 with
  | some prize => rfl
  | none => exact .either (fun _ => rfl) fun _ => rfl

end Cutscene.Commands
