import Cutscene.Proofs.Conduct.Basic

/-!
# Conduct of the Commands for Cast and Stage

Nearly all of these commands pass, whatever they do to the cast. Of the three that hold the script,
an `emote` alone waits for somebody: for the actor whom its token means, and it still means the
same actor once the emote is on show.
-/

namespace Cutscene.Commands

open Scene

variable {α σ : Type} [Scalar α]

/-! ### Moves -/

lemma sendOff_tidy (s : Scene α σ) (groups : List MoveGroup) :
    s.Tidy (sendOff s groups).scene := by
  induction groups generalizing s with
  | nil => exact .refl s
  | cons group rest ih =>
    unfold sendOff
    dsimp only
    split
    · split
      · exact ih s
      · exact ((Tidy.refl s).note _).trans (ih _)
    · rename_i h _
      split
      · exact .refl s
      · have hput : ∀ b a, s.Tidy ({ s.putActor h a with barrier := b } : Scene α σ) :=
          fun b a => ((Tidy.refl s).putActor h a).trans (.of_eq rfl rfl rfl rfl rfl)
        exact (hput _ _).trans (ih _)

lemma setOff_tidy (a : Args) (s : Scene α σ) (groups : List MoveGroup) :
    s.Tidy (setOff a s groups) :=
  (sendOff_tidy s groups).trans (.of_eq rfl rfl rfl rfl rfl)

lemma move_conduct (a : Args) (s : Scene α σ) : Conduct "move" a s (move a s).scene := by
  cases hg : moveGroups? a with
  | none =>
    obtain ⟨fault, hmove⟩ := move_of_none hg s
    rw [hmove]
    exact .passOver (.refl s) fault
  | some groups =>
    have htidy := setOff_tidy a s groups
    have hwait : (setOff a s groups).wait = s.wait :=
      congrArg (·.toStand.wait) (sendOff_spec s groups).2.1
    rw [move_of_some hg]
    split
    · exact .passes htidy
    · exact .leaves (by decide) htidy hwait

lemma notePair_tidy (s : Scene α σ) (pair : Int × Int) : s.Tidy (notePair s pair) := by
  unfold notePair
  split
  · exact .refl s
  · split
    · exact .refl s
    · exact (Tidy.refl s).note _

lemma advancedMove_conduct (a : Args) (s : Scene α σ) :
    Conduct "advancedMove" a s (advancedMove a s).scene := by
  refine .reading fun v _ => ?_
  obtain ⟨token, looping, pairs⟩ := v
  have hnoted : s.Tidy (pairs.foldl notePair s) := Tidy.foldl notePair_tidy (.refl s) pairs
  refine .withActor hnoted fun h _ _ _ => .passes ((hnoted.putActor h _).addPath ?_)
  intro f hf
  obtain rfl := Option.some.inj hf
  exact fun _ => rfl

lemma stopAdvancedMoves_conduct (a : Args) (s : Scene α σ) :
    Conduct "stopAdvancedMoves" a s (stopAdvancedMoves a s).scene := by
  refine .passes (.foldl (fun t h => ?_) (.dropPaths (.refl s)) _)
  exact (Tidy.refl t).recast fun hc => hc.modify h _

lemma walkInSquare_conduct (a : Args) (s : Scene α σ) :
    Conduct "walkInSquare" a s (walkInSquare a s).scene := by
  refine .reading fun _ _ => .withActor (.refl s) fun h _ _ _ => .passes ?_
  exact ((Tidy.refl s).putActor h _).addPath fun f hf => nomatch hf

/-- The target of an actor is dropped. -/
lemma dropTarget_tidy {s t : Scene α σ} (h : s.Tidy t) (b : Barrier) :
    s.Tidy { t with barrier := b } :=
  h.trans (.of_eq rfl rfl rfl rfl rfl)

lemma warp_conduct (a : Args) (s : Scene α σ) : Conduct "warp" a s (warp a s).scene := by
  refine .reading fun _ _ => .withActor (.refl s) fun h _ _ _ => .chains ?_ _
  exact dropTarget_tidy ((Tidy.refl s).putActor h _) _

lemma positionOffset_conduct (a : Args) (s : Scene α σ) :
    Conduct "positionOffset" a s (positionOffset a s).scene :=
  .reading fun _ _ => .withActor (.refl s) fun h _ _ _ => .chains ((Tidy.refl s).putActor h _) _

lemma speed_conduct (a : Args) (s : Scene α σ) : Conduct "speed" a s (speed a s).scene :=
  .reading fun _ _ => .withActor (.refl s) fun h _ _ _ => .passes ((Tidy.refl s).putActor h _)

lemma halt_conduct (a : Args) (s : Scene α σ) : Conduct "halt" a s (halt a s).scene :=
  .passes (((Tidy.refl s).recast fun hc => hc.modifyAll _).trans (.of_eq rfl rfl rfl rfl rfl))

/-! ### Poses -/

lemma faceDirection_conduct (a : Args) (s : Scene α σ) :
    Conduct "faceDirection" a s (faceDirection a s).scene :=
  .reading fun _ _ => .withActor (.refl s) fun h _ _ _ => .chains ((Tidy.refl s).putActor h _) _

lemma showFrame_conduct (a : Args) (s : Scene α σ) :
    Conduct "showFrame" a s (showFrame a s).scene := by
  refine .reading fun v _ => ?_
  obtain ⟨token, frame, flip⟩ := v
  dsimp only
  split
  · exact .passOver (.refl s) _
  · exact .withActor (.refl s) fun h _ _ _ => .passes ((Tidy.refl s).putActor h _)

lemma animate_conduct (a : Args) (s : Scene α σ) : Conduct "animate" a s (animate a s).scene :=
  .reading fun _ _ => .withActor (.refl s) fun h _ _ _ => .passes ((Tidy.refl s).putActor h _)

lemma stopAnimation_conduct (a : Args) (s : Scene α σ) :
    Conduct "stopAnimation" a s (stopAnimation a s).scene :=
  .reading fun _ _ => .withActor (.refl s) fun h _ _ _ => .passes ((Tidy.refl s).putActor h _)

lemma jump_conduct (a : Args) (s : Scene α σ) : Conduct "jump" a s (jump a s).scene :=
  .reading fun _ _ => .withActor (.refl s) fun h _ _ _ => .passes ((Tidy.refl s).putActor h _)

lemma shake_conduct (a : Args) (s : Scene α σ) : Conduct "shake" a s (shake a s).scene :=
  .reading fun _ _ => .withActor (.refl s) fun h _ _ _ => .passes ((Tidy.refl s).putActor h _)

variable [Stage α σ]

lemma emote_conduct (a : Args) (s : Scene α σ) : Conduct "emote" a s (emote a s).scene := by
  unfold emote
  split
  · split
    · exact .stays s
    · exact .passes (.refl s)
  · refine .reading fun v hread => ?_
    obtain ⟨token, number⟩ := v
    have hget : a.get? 1 = some token := by
      obtain ⟨actor, hactor, hrest⟩ := bind_eq_ok.mp hread
      obtain ⟨_, -, heq⟩ := bind_eq_ok.mp hrest
      obtain ⟨rfl, -⟩ := Prod.mk.inj (Except.ok.inj heq)
      exact Args.get?_of_get hactor
    refine .withActor (.refl s) fun h actor hresolve hactor => ?_
    split
    · have hbare : ({ actor with emote := some ⟨s.settings.emoteTime, number⟩ } : Actor α).bare =
          actor.bare := rfl
      generalize ({ actor with emote := some ⟨s.settings.emoteTime, number⟩ } : Actor α) = posed
        at hbare ⊢
      have hshown : s.Tidy ((s.putActor h posed).call (.emote actor.name number)) :=
        ((Tidy.refl s).putActor h posed).call rfl
      dsimp only
      split
      · exact .chains hshown true
      · refine .awaits hshown rfl rfl fun hs => ⟨rfl, token, hget, ?_⟩
        exact (Cast.resolve?_of_bare (hs.cast.bare_modify hactor hbare) _).trans hresolve
    · exact .passOver (.refl s) _

omit [Stage α σ] in
lemma removeActor_conduct (a : Args) (s : Scene α σ) :
    Conduct "removeActor" a s (removeActor a s).scene :=
  .reading fun _ _ => .withActor (.refl s) fun h _ _ _ => .passes ((Tidy.refl s).removeActor h)

omit [Stage α σ] in
lemma addActor_conduct (a : Args) (s : Scene α σ) : Conduct "addActor" a s (addActor a s).scene :=
  .reading fun _ _ => .passes ((Tidy.refl s).recast fun hc => hc.spawn _)

/-! ### Sound, camera, fades and effects -/

lemma playSound_conduct (a : Args) (s : Scene α σ) :
    Conduct "playSound" a s (playSound a s).scene :=
  .reading fun _ _ => .passes ((Tidy.refl s).call rfl)

lemma playMusic_conduct (a : Args) (s : Scene α σ) :
    Conduct "playMusic" a s (playMusic a s).scene :=
  .reading fun _ _ => .passes ((Tidy.refl s).call rfl)

lemma stopMusic_conduct (a : Args) (s : Scene α σ) :
    Conduct "stopMusic" a s (stopMusic a s).scene :=
  .passes ((Tidy.refl s).call rfl)

lemma viewport_conduct (a : Args) (s : Scene α σ) : Conduct "viewport" a s (viewport a s).scene :=
  .reading fun _ _ => .passes ((Tidy.refl s).call rfl)

lemma fade_conduct {name : String} (hn : name = "globalFade" ∨ name = "globalFadeToClear")
    (toBlack : Bool) (a : Args) (s : Scene α σ) : Conduct name a s (fade toBlack a s).scene := by
  unfold fade
  split
  · split
    · exact .passes (.refl s)
    · exact .stays s
  · refine .reading fun v _ => ?_
    obtain ⟨speed, continues⟩ := v
    have hfaded : s.Tidy (s.call (.beginFade toBlack speed continues)) := (Tidy.refl s).call rfl
    dsimp only
    split
    · exact .passes hfaded
    · exact .awaits hfaded rfl rfl fun _ => hn

lemma globalFade_conduct (a : Args) (s : Scene α σ) :
    Conduct "globalFade" a s (globalFade a s).scene :=
  fade_conduct (.inl rfl) true a s

lemma globalFadeToClear_conduct (a : Args) (s : Scene α σ) :
    Conduct "globalFadeToClear" a s (globalFadeToClear a s).scene :=
  fade_conduct (.inr rfl) false a s

lemma spawnEffect_conduct (a : Args) (s : Scene α σ) :
    Conduct "spawnEffect" a s (spawnEffect a s).scene :=
  .reading fun _ _ => .passes ((Tidy.refl s).call rfl)

lemma screenFlash_conduct (a : Args) (s : Scene α σ) :
    Conduct "screenFlash" a s (screenFlash a s).scene :=
  .reading fun _ _ => .passes ((Tidy.refl s).call rfl)

/-! ### The saved game -/

lemma mail_conduct (a : Args) (s : Scene α σ) : Conduct "mail" a s (mail a s).scene := by
  refine .reading fun letter _ => ?_
  dsimp only
  split
  · exact .passes (.refl s)
  · exact .passes ((Tidy.refl s).call rfl)

lemma friendship_conduct (a : Args) (s : Scene α σ) :
    Conduct "friendship" a s (friendship a s).scene :=
  .reading fun _ _ => .passes ((Tidy.refl s).call rfl)

lemma addItem_conduct (a : Args) (s : Scene α σ) : Conduct "addItem" a s (addItem a s).scene :=
  .reading fun _ _ => .passes ((Tidy.refl s).call rfl)

lemma loseItems_conduct (a : Args) (s : Scene α σ) :
    Conduct "loseItems" a s (loseItems a s).scene := by
  have hlost : s.Tidy ((s.call (.deathPenalty (Stage.itemsToLose α s.stage))).advance 1) :=
    ((Tidy.refl s).call rfl).advance 1
  unfold loseItems
  dsimp only
  split
  · exact .drops (hlost.trans (.of_eq rfl rfl rfl rfl rfl)) rfl
  · exact .drops hlost rfl

lemma showItemsLost_conduct (a : Args) (s : Scene α σ) :
    Conduct "showItemsLost" a s (showItemsLost a s).scene := by
  unfold showItemsLost
  split
  · split
    · exact .stays s
    · exact .passes (.refl s)
  · exact .awaits ((Tidy.refl s).call rfl) rfl rfl fun _ => rfl

lemma awardFestivalPrize_conduct (a : Args) (s : Scene α σ) :
    Conduct "awardFestivalPrize" a s (awardFestivalPrize a s).scene := by
  unfold awardFestivalPrize
  split
  · exact .passes ((Tidy.refl s).call rfl)
  · split
    · exact .passes ((Tidy.refl s).call rfl)
    · exact .drops ((Tidy.refl s).advance 2) rfl

end Cutscene.Commands
