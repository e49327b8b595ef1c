import Cutscene.Proofs.Footprint.Acting
import Cutscene.Proofs.Reading.Basic
import Cutscene.Proofs.Troupe.Basic

/-!
# Deeds of the Commands for Cast and Stage

Each of these commands does one act with the actor that it names, apart from `move`, which sends off
as many as it names, and from the commands that only ask something of the stage.
-/

namespace Cutscene.Commands

open Scene Troupe

variable {α σ : Type} [Scalar α]

/-! ### Moves -/

lemma sendOff_deeds (s : Scene α σ) (groups : List MoveGroup) :
    Deeds "move" s (sendOff s groups).scene := by
  suffices ∀ {t : Scene α σ}, t.settings = s.settings → Deeds "move" s t →
      Deeds "move" s (sendOff t groups).scene from this rfl (.refl s)
  induction groups with
  | nil => exact fun _ h => h
  | cons group rest ih =>
    intro t hsettings h
    unfold sendOff
    dsimp only
    split
    · split
      · exact ih hsettings h
      · exact ih hsettings (h.rests rfl rfl)
    · split
      · exact h
      · rename_i handle _ _ actor ha
        refine ih hsettings (h.acts ?_ rfl)
        rw [hsettings]
        exact .sends rfl ha group.offset group.facing

lemma setOff_deeds (a : Args) (s : Scene α σ) (groups : List MoveGroup) :
    Deeds "move" s (setOff a s groups) :=
  (sendOff_deeds s groups).rests rfl rfl

lemma move_deeds (a : Args) (s : Scene α σ) : Deeds "move" s (move a s).scene := by
  cases hg : moveGroups? a with
  | none =>
    obtain ⟨fault, hmove⟩ := move_of_none hg s
    rw [hmove]
    exact .of_eq rfl rfl
  | some groups =>
    rw [move_of_some hg]
    split
    · exact (setOff_deeds a s groups).rests rfl rfl
    · exact setOff_deeds a s groups

lemma notePair_troupe (s : Scene α σ) (pair : Int × Int) :
    (notePair s pair).troupe = s.troupe ∧ (notePair s pair).edits = s.edits := by
  unfold notePair
  split
  · exact ⟨rfl, rfl⟩
  · split <;> exact ⟨rfl, rfl⟩

lemma notePairs_deeds (s : Scene α σ) (pairs : List (Int × Int)) :
    Deeds "advancedMove" s (pairs.foldl notePair s) := by
  refine List.foldlRecOn pairs notePair (.refl s) fun t h pair _ => ?_
  obtain ⟨htroupe, hedits⟩ := notePair_troupe t pair
  exact h.rests htroupe hedits

lemma advancedMove_deeds (a : Args) (s : Scene α σ) :
    Deeds "advancedMove" s (advancedMove a s).scene := by
  refine .reading fun v _ => ?_
  obtain ⟨token, looping, pairs⟩ := v
  exact (notePairs_deeds s pairs).withActor fun h actor ha =>
    (notePairs_deeds s pairs).acts (.follows rfl ha _ looping) rfl

lemma stopAdvancedMoves_deeds (a : Args) (s : Scene α σ) :
    Deeds "stopAdvancedMoves" s (stopAdvancedMoves a s).scene := by
  have hrelease : ∀ (l : List Handle) (t : Scene α σ),
      let u := l.foldl (fun t h => t.onEvent (·.modifyActor h fun a => a.halt.freed)) t
      u.cast = l.foldl (fun c h => c.modify h fun a => a.halt.freed) t.cast ∧
        u.barrier = t.barrier ∧ u.paths = t.paths ∧ u.edits = t.edits := by
    intro l
    induction l with
    | nil => exact fun _ => ⟨rfl, rfl, rfl, rfl⟩
    | cons h rest ih => exact fun t => ih _
  obtain ⟨hcast, hbarrier, hpaths, hedits⟩ :=
    hrelease (s.paths.map Path.actor) { s with paths := [] }
  refine .of_act ?_ hedits
  have htroupe : (stopAdvancedMoves a s).scene.troupe = s.troupe.released := by
    simp only [Troupe.released, Troupe.mk.injEq, Scene.troupe]
    exact ⟨hcast, hbarrier, hpaths⟩
  rw [htroupe]
  exact .releases rfl

lemma walkInSquare_deeds (a : Args) (s : Scene α σ) :
    Deeds "walkInSquare" s (walkInSquare a s).scene := by
  refine .reading fun v _ => ?_
  obtain ⟨token, width, height, pause⟩ := v
  exact .withOne fun h actor ha => ⟨.circles rfl ha width height pause, rfl⟩

lemma warp_deeds (a : Args) (s : Scene α σ) : Deeds "warp" s (warp a s).scene := by
  refine .reading fun v _ => ?_
  obtain ⟨token, tile⟩ := v
  refine .withActor (.refl s) fun h actor ha => .chains ?_ _
  exact .of_act (.warps rfl ha tile) rfl

lemma positionOffset_deeds (a : Args) (s : Scene α σ) :
    Deeds "positionOffset" s (positionOffset a s).scene := by
  refine .reading fun v _ => ?_
  obtain ⟨token, offset⟩ := v
  refine .withActor (.refl s) fun h actor ha => .chains ?_ _
  exact .of_act (.shifts rfl ha offset) rfl

/-- A speed is positive once it is read. -/
lemma speed_deeds (a : Args) (s : Scene α σ) : Deeds "speed" s (speed a s).scene := by
  refine .reading fun v hread => ?_
  obtain ⟨token, speed⟩ := v
  have hpositive : ¬ speed ≤ 0 := by
    obtain ⟨actor, -, hrest⟩ := bind_eq_ok.mp hread
    obtain ⟨value, -, hrest⟩ := bind_eq_ok.mp hrest
    by_cases hle : value ≤ 0
    · rw [if_pos hle] at hrest
      cases hrest
    · rw [if_neg hle] at hrest
      obtain ⟨-, rfl⟩ := Prod.mk.inj (Except.ok.inj hrest)
      exact hle
  exact .withOne fun h actor ha => ⟨.paces rfl ha hpositive, rfl⟩

lemma halt_deeds (a : Args) (s : Scene α σ) : Deeds "halt" s (halt a s).scene :=
  .of_act (.halts rfl) rfl

/-! ### Poses -/

lemma faceDirection_deeds (a : Args) (s : Scene α σ) :
    Deeds "faceDirection" s (faceDirection a s).scene := by
  refine .reading fun _ _ => .withActor (.refl s) fun h actor ha => .chains ?_ _
  exact .of_act (.poses ha ⟨⟨rfl, rfl, rfl, rfl⟩, rfl⟩) rfl

lemma showFrame_deeds (a : Args) (s : Scene α σ) : Deeds "showFrame" s (showFrame a s).scene := by
  refine .reading fun v _ => ?_
  obtain ⟨token, frame, flip⟩ := v
  dsimp only
  split
  · exact .of_eq rfl rfl
  · exact .withOne fun h actor ha => ⟨.poses ha ⟨⟨rfl, rfl, rfl, rfl⟩, rfl⟩, rfl⟩

lemma animate_deeds (a : Args) (s : Scene α σ) : Deeds "animate" s (animate a s).scene :=
  .reading fun _ _ => .withOne fun _ _ ha => ⟨.poses ha ⟨⟨rfl, rfl, rfl, rfl⟩, rfl⟩, rfl⟩

lemma stopAnimation_deeds (a : Args) (s : Scene α σ) :
    Deeds "stopAnimation" s (stopAnimation a s).scene :=
  .reading fun _ _ => .withOne fun _ _ ha => ⟨.poses ha ⟨⟨rfl, rfl, rfl, rfl⟩, rfl⟩, rfl⟩

lemma jump_deeds (a : Args) (s : Scene α σ) : Deeds "jump" s (jump a s).scene :=
  .reading fun _ _ => .withOne fun _ _ ha => ⟨.poses ha ⟨⟨rfl, rfl, rfl, rfl⟩, rfl⟩, rfl⟩

lemma shake_deeds (a : Args) (s : Scene α σ) : Deeds "shake" s (shake a s).scene :=
  .reading fun _ _ => .withOne fun _ _ ha => ⟨.poses ha ⟨⟨rfl, rfl, rfl, rfl⟩, rfl⟩, rfl⟩

lemma addActor_deeds (a : Args) (s : Scene α σ) : Deeds "addActor" s (addActor a s).scene := by
  refine .reading fun v _ => ?_
  obtain ⟨kind, name, tile, facing⟩ := v
  exact .of_act (.comes rfl name kind tile facing) rfl

lemma removeActor_deeds (a : Args) (s : Scene α σ) :
    Deeds "removeActor" s (removeActor a s).scene :=
  .reading fun _ _ => .withOne fun h _ _ => ⟨.leaves rfl h, rfl⟩

variable [Stage α σ]

lemma emote_deeds (a : Args) (s : Scene α σ) : Deeds "emote" s (emote a s).scene := by
  unfold emote
  split
  · split <;> exact .of_eq rfl rfl
  · refine .reading fun v _ => ?_
    obtain ⟨token, number⟩ := v
    refine .withActor (.refl s) fun h actor ha => ?_
    have hshown : Deeds "emote" s
        (s.putActor h { actor with emote := some ⟨s.settings.emoteTime, number⟩ }) :=
      .of_act (.poses ha ⟨⟨rfl, rfl, rfl, rfl⟩, rfl⟩) rfl
    split
    · dsimp only
      split <;> exact hshown.rests rfl rfl
    · exact .of_eq rfl rfl

/-! ### Sound, camera, fades and effects -/

lemma playSound_deeds (a : Args) (s : Scene α σ) : Deeds "playSound" s (playSound a s).scene :=
  .reading fun _ _ => .of_eq rfl rfl

lemma playMusic_deeds (a : Args) (s : Scene α σ) : Deeds "playMusic" s (playMusic a s).scene :=
  .reading fun _ _ => .of_eq rfl rfl

lemma stopMusic_deeds (a : Args) (s : Scene α σ) : Deeds "stopMusic" s (stopMusic a s).scene :=
  .of_eq rfl rfl

lemma viewport_deeds (a : Args) (s : Scene α σ) : Deeds "viewport" s (viewport a s).scene :=
  .reading fun _ _ => .of_eq rfl rfl

lemma fade_deeds {name : String} (toBlack : Bool) (a : Args) (s : Scene α σ) :
    Deeds name s (fade toBlack a s).scene := by
  unfold fade
  split
  · split <;> exact .of_eq rfl rfl
  · refine .reading fun v _ => ?_
    obtain ⟨speed, continues⟩ := v
    dsimp only
    split <;> exact .of_eq rfl rfl

lemma spawnEffect_deeds (a : Args) (s : Scene α σ) :
    Deeds "spawnEffect" s (spawnEffect a s).scene :=
  .reading fun _ _ => .of_eq rfl rfl

lemma screenFlash_deeds (a : Args) (s : Scene α σ) :
    Deeds "screenFlash" s (screenFlash a s).scene :=
  .reading fun _ _ => .of_eq rfl rfl

/-! ### The saved game -/

lemma mail_deeds (a : Args) (s : Scene α σ) : Deeds "mail" s (mail a s).scene := by
  refine .reading fun letter _ => ?_
  dsimp only
  split <;> exact .of_eq rfl rfl

lemma friendship_deeds (a : Args) (s : Scene α σ) :
    Deeds "friendship" s (friendship a s).scene :=
  .reading fun _ _ => .of_eq rfl rfl

lemma addItem_deeds (a : Args) (s : Scene α σ) : Deeds "addItem" s (addItem a s).scene :=
  .reading fun _ _ => .of_eq rfl rfl

lemma loseItems_deeds (a : Args) (s : Scene α σ) : Deeds "loseItems" s (loseItems a s).scene := by
  unfold loseItems
  dsimp only
  split
  · exact .queues (.lost rfl _) rfl rfl
  · exact .of_eq rfl rfl

lemma showItemsLost_deeds (a : Args) (s : Scene α σ) :
    Deeds "showItemsLost" s (showItemsLost a s).scene := by
  unfold showItemsLost
  split
  · split <;> exact .of_eq rfl rfl
  · exact .of_eq rfl rfl

lemma awardFestivalPrize_deeds (a : Args) (s : Scene α σ) :
    Deeds "awardFestivalPrize" s (awardFestivalPrize a s).scene := by
  unfold awardFestivalPrize
  split
  · exact .of_eq rfl rfl
  · split <;> exact .of_eq rfl rfl

end Cutscene.Commands
