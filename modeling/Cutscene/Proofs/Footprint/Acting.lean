import Cutscene.Proofs.Footprint.Basic

/-!
# Footprints of the Commands for Cast and Stage

Most of these commands do quiet work and pass. Those that ask the stage for something once hold the
script with a wait of their own or pass at once. A `move` alone may hold the script by the movement
barrier, and `warp`, `halt` and `removeActor` can only take targets away from it.
-/

namespace Cutscene

lemma Barrier.isClosed_remove {b : Barrier} (hb : b.isClosed) (h : Handle) :
    (b.remove h).isClosed := by
  rw [Barrier.isClosed, List.isEmpty_iff] at *
  simp [Barrier.remove, hb]

lemma Scene.Quiet.dropTarget {α σ : Type} {s t : Scene α σ} (h : s.Quiet t) (handle : Handle) :
    s.Quiet { t with barrier := t.barrier.remove handle } :=
  h.trans (.of_eq rfl rfl (Or.imp_left (Barrier.isClosed_remove · handle)))

namespace Commands

open Scene

variable {α σ : Type} [Stage α σ]

/-! ### Moves -/

section Moves

variable [Scalar α]

omit [Stage α σ] in
/-- Whoever is sent off, the helm, the flags and the stage are left alone. -/
lemma sendOff_spec (s : Scene α σ) (groups : List MoveGroup) :
    (sendOff s groups).fault = none ∧
      (sendOff s groups).scene.helm = s.helm ∧
      (sendOff s groups).scene.calls = s.calls ∧
      (sendOff s groups).scene.flags = s.flags := by
  induction groups generalizing s with
  | nil => exact ⟨rfl, rfl, rfl, rfl⟩
  | cons group rest ih =>
    unfold sendOff
    dsimp only
    split
    · split
      · exact ih s
      · exact ih (s.note _)
    · rename_i h hr
      obtain ⟨actor, ha⟩ := Option.isSome_iff_exists.mp (Cast.get?_isSome_of_resolve? hr)
      rw [ha]
      exact ih _

/-- The actors of a well-formed move are off, and the scene knows whether to go on beside them. -/
def setOff (a : Args) (s : Scene α σ) (groups : List MoveGroup) : Scene α σ :=
  let t := (sendOff s groups).scene
  { t with flags := { t.flags with continueAfterMove := moveContinues a } }

omit [Stage α σ] in
lemma move_of_none {a : Args} (h : moveGroups? a = none) (s : Scene α σ) :
    ∃ fault, move a s = (s.passOver fault).done := by
  unfold moveGroups? at h
  unfold move
  split at h
  · rename_i hshape
    exact ⟨_, if_pos hshape⟩
  · rename_i hshape
    generalize hread : List.mapM (MoveGroup.read a) _ = read at h
    cases read with
    | ok groups => simp [Except.toOption] at h
    | error e =>
      refine ⟨.argument e, ?_⟩
      refine (if_neg hshape).trans ?_
      exact congrArg (s.reading · _) hread

omit [Stage α σ] in
/-- A well-formed move sends its actors off, and the pointer stays only where the move is not told
to go on and somebody is on the way. -/
lemma move_of_some {a : Args} {groups : List MoveGroup} (h : moveGroups? a = some groups)
    (s : Scene α σ) :
    move a s = (if moveContinues a || (setOff a s groups).barrier.isClosed then
      (setOff a s groups).advance 1 else setOff a s groups).done := by
  unfold moveGroups? at h
  unfold move
  split at h
  · simp at h
  · rename_i hshape
    generalize hread : List.mapM (MoveGroup.read a) _ = read at h
    cases read with
    | error e => simp [Except.toOption] at h
    | ok value =>
      obtain rfl : value = groups := by simpa [Except.toOption] using h
      refine (if_neg hshape).trans ?_
      refine (congrArg (s.reading · _) hread).trans ?_
      dsimp only [reading]
      rw [(sendOff_spec s value).1]
      rfl

lemma move_obeys (a : Args) (s : Scene α σ) : Obeys "move" a s (move a s) := by
  cases hg : moveGroups? a with
  | none =>
    obtain ⟨fault, hmove⟩ := move_of_none hg s
    rw [hmove]
    exact .passOver (.refl s) fault
  | some groups =>
    obtain ⟨-, hhelm, hcalls, -⟩ := sendOff_spec s groups
    rw [move_of_some hg]
    split
    · rename_i hgo
      refine .uncalled hcalls (fun _ => ?_) (.passes (congrArg (Helm.advance · 1) hhelm))
      exact (Bool.or_eq_true_iff.mp hgo).symm
    · rename_i hstay
      rw [Bool.or_eq_true, not_or] at hstay
      have hsame : (setOff a s groups).oneTimes = s.oneTimes :=
        congrArg (List.countP Call.isOneTime) hcalls
      refine .of_calls (hcalls.trans (List.append_nil _).symm) rfl (Nat.zero_le _) (fun _ => rfl)
        (fun _ => .inr ⟨⟨rfl, ?_, by simpa using hstay.1⟩, hhelm⟩)
        (.holds s.wait hhelm (fun hlt => absurd hsame (Nat.ne_of_gt hlt)) id)
      rw [hg]
      rfl

omit [Stage α σ] in
lemma notePair_quiet (s : Scene α σ) (pair : Int × Int) : s.Quiet (notePair s pair) := by
  unfold notePair
  split
  · exact .refl s
  · split
    · exact .refl s
    · exact (Quiet.refl s).note _

lemma advancedMove_obeys (a : Args) (s : Scene α σ) :
    Obeys "advancedMove" a s (advancedMove a s) := by
  refine .reading fun v _ => ?_
  obtain ⟨token, looping, pairs⟩ := v
  have hq : s.Quiet (pairs.foldl notePair s) := Quiet.foldl notePair_quiet (.refl s) pairs
  exact .withActor hq fun _ _ _ => .passes (hq.trans (.of_eq rfl rfl id))

omit [Scalar α] in
lemma stopAdvancedMoves_obeys (a : Args) (s : Scene α σ) :
    Obeys "stopAdvancedMoves" a s (stopAdvancedMoves a s) := by
  refine .passes (.foldl (fun t h => ?_) ?_ _)
  · exact .of_eq rfl rfl id
  · exact .of_eq rfl rfl id

lemma walkInSquare_obeys (a : Args) (s : Scene α σ) :
    Obeys "walkInSquare" a s (walkInSquare a s) :=
  .reading fun _ _ => .withActor (.refl s) fun _ _ _ => .passes (.of_eq rfl rfl id)

lemma warp_obeys (a : Args) (s : Scene α σ) : Obeys "warp" a s (warp a s) := by
  refine .reading fun _ _ => .withActor (.refl s) fun h _ _ => ?_
  exact .chains (((Quiet.refl s).putActor h _).dropTarget h) _

lemma positionOffset_obeys (a : Args) (s : Scene α σ) :
    Obeys "positionOffset" a s (positionOffset a s) :=
  .reading fun _ _ => .withActor (.refl s) fun h _ _ => .chains ((Quiet.refl s).putActor h _) _

lemma speed_obeys (a : Args) (s : Scene α σ) : Obeys "speed" a s (speed a s) :=
  .reading fun _ _ => .withActor (.refl s) fun h _ _ => .passes ((Quiet.refl s).putActor h _)

omit [Scalar α] in
lemma halt_obeys (a : Args) (s : Scene α σ) : Obeys "halt" a s (halt a s) :=
  .passes (.of_eq rfl rfl fun _ => .inl rfl)

end Moves

/-! ### Poses -/

lemma faceDirection_obeys (a : Args) (s : Scene α σ) :
    Obeys "faceDirection" a s (faceDirection a s) :=
  .reading fun _ _ => .withActor (.refl s) fun h _ _ => .chains ((Quiet.refl s).putActor h _) _

lemma showFrame_obeys (a : Args) (s : Scene α σ) : Obeys "showFrame" a s (showFrame a s) := by
  refine .reading fun v _ => ?_
  obtain ⟨token, frame, flip⟩ := v
  dsimp only
  split
  · exact .passOver (.refl s) _
  · exact .withActor (.refl s) fun h _ _ => .passes ((Quiet.refl s).putActor h _)

lemma animate_obeys [Scalar α] (a : Args) (s : Scene α σ) : Obeys "animate" a s (animate a s) :=
  .reading fun _ _ => .withActor (.refl s) fun h _ _ => .passes ((Quiet.refl s).putActor h _)

lemma stopAnimation_obeys (a : Args) (s : Scene α σ) :
    Obeys "stopAnimation" a s (stopAnimation a s) :=
  .reading fun _ _ => .withActor (.refl s) fun h _ _ => .passes ((Quiet.refl s).putActor h _)

lemma jump_obeys (a : Args) (s : Scene α σ) : Obeys "jump" a s (jump a s) :=
  .reading fun _ _ => .withActor (.refl s) fun h _ _ => .passes ((Quiet.refl s).putActor h _)

lemma shake_obeys [Scalar α] (a : Args) (s : Scene α σ) : Obeys "shake" a s (shake a s) :=
  .reading fun _ _ => .withActor (.refl s) fun h _ _ => .passes ((Quiet.refl s).putActor h _)

lemma emote_obeys (a : Args) (s : Scene α σ) : Obeys "emote" a s (emote a s) := by
  unfold emote
  split
  · split
    · exact .holds (.refl s)
    · exact .passes (.refl s)
  · rename_i hw
    have hnot : ¬ Held "emote" a s.wait := by
      rintro ⟨v, hv, hof⟩
      cases v <;> simp_all [Wait.IsOf]
    refine .reading fun v _ => ?_
    obtain ⟨token, number⟩ := v
    refine .withActor (.refl s) fun h actor _ => ?_
    split
    · dsimp only
      split
      · exact .called rfl rfl (fun _ => hnot) id (.passes rfl)
      · exact .called rfl rfl (fun _ => hnot) id
          (.holds _ rfl (fun _ => ⟨_, rfl, rfl⟩) (absurd · hnot))
    · exact .passOver (.refl s) _

lemma addActor_obeys [Scalar α] (a : Args) (s : Scene α σ) : Obeys "addActor" a s (addActor a s) :=
  .reading fun _ _ => .passes (.of_eq rfl rfl id)

lemma removeActor_obeys (a : Args) (s : Scene α σ) :
    Obeys "removeActor" a s (removeActor a s) :=
  .reading fun _ _ => .withActor (.refl s) fun h _ _ =>
    .passes (((Quiet.refl s).dropTarget h).trans (.of_eq rfl rfl id))

/-! ### Sound, camera, fades and effects -/

/-- A command that never waits asks for one thing and passes. -/
lemma asks {name : String} (hn : name ∉ waiting) {a : Args} {s t : Scene α σ} {c : Call α}
    (hc : t.calls = s.calls ++ [c]) (he : c.isEnd = false) (hf : s.Free → t.Free)
    (hh : t.helm = s.helm.advance 1) : Obeys name a s t.done :=
  .called hc he (fun _ => not_held hn a s.wait) hf (.passes hh)

lemma playSound_obeys (a : Args) (s : Scene α σ) : Obeys "playSound" a s (playSound a s) :=
  .reading fun _ _ => asks (by decide) rfl rfl id rfl

lemma playMusic_obeys (a : Args) (s : Scene α σ) : Obeys "playMusic" a s (playMusic a s) :=
  .reading fun _ _ => .passes ((Quiet.refl s).call rfl rfl)

lemma stopMusic_obeys (a : Args) (s : Scene α σ) : Obeys "stopMusic" a s (stopMusic a s) :=
  .passes ((Quiet.refl s).call rfl rfl)

lemma viewport_obeys (a : Args) (s : Scene α σ) : Obeys "viewport" a s (viewport a s) :=
  .reading fun _ _ => .passes ((Quiet.refl s).call rfl rfl)

lemma fade_obeys [Scalar α] {name : String} (hn : name = "globalFade" ∨ name = "globalFadeToClear")
    (toBlack : Bool) (a : Args) (s : Scene α σ) : Obeys name a s (fade toBlack a s) := by
  unfold fade
  split
  · split
    · exact .passes (.refl s)
    · exact .holds (.refl s)
  · rename_i hw
    have hnot : ¬ Held name a s.wait := by
      rintro ⟨v, hv, hof⟩
      rcases hn with rfl | rfl <;> cases v <;> simp_all [Wait.IsOf]
    refine .reading fun v _ => ?_
    obtain ⟨speed, continues⟩ := v
    dsimp only
    split
    · exact .called rfl rfl (fun _ => hnot) id (.passes rfl)
    · exact .called rfl rfl (fun _ => hnot) id
        (.holds _ rfl (fun _ => ⟨_, rfl, hn⟩) (absurd · hnot))

lemma globalFade_obeys [Scalar α] (a : Args) (s : Scene α σ) :
    Obeys "globalFade" a s (globalFade a s) :=
  fade_obeys (.inl rfl) true a s

lemma globalFadeToClear_obeys [Scalar α] (a : Args) (s : Scene α σ) :
    Obeys "globalFadeToClear" a s (globalFadeToClear a s) :=
  fade_obeys (.inr rfl) false a s

lemma spawnEffect_obeys (a : Args) (s : Scene α σ) :
    Obeys "spawnEffect" a s (spawnEffect a s) :=
  .reading fun _ _ => asks (by decide) rfl rfl id rfl

lemma screenFlash_obeys [Scalar α] (a : Args) (s : Scene α σ) :
    Obeys "screenFlash" a s (screenFlash a s) :=
  .reading fun _ _ => .passes ((Quiet.refl s).call rfl rfl)

/-! ### The saved game -/

lemma mail_obeys (a : Args) (s : Scene α σ) : Obeys "mail" a s (mail a s) := by
  refine .reading fun letter _ => ?_
  dsimp only
  split
  · exact .passes (.refl s)
  · exact .passes ((Quiet.refl s).call rfl rfl)

lemma friendship_obeys (a : Args) (s : Scene α σ) : Obeys "friendship" a s (friendship a s) :=
  .reading fun _ _ => asks (by decide) rfl rfl id rfl

lemma addItem_obeys (a : Args) (s : Scene α σ) : Obeys "addItem" a s (addItem a s) :=
  .reading fun _ _ => asks (by decide) rfl rfl id rfl

lemma loseItems_obeys (a : Args) (s : Scene α σ) : Obeys "loseItems" a s (loseItems a s) := by
  have hnot : ¬ Held "loseItems" a s.wait := not_held (by decide) a s.wait
  unfold loseItems
  dsimp only
  split
  · exact .called rfl rfl (fun _ => hnot) id (.splices _ rfl)
  · exact .called rfl rfl (fun _ => hnot) id (.passes rfl)

lemma showItemsLost_obeys (a : Args) (s : Scene α σ) :
    Obeys "showItemsLost" a s (showItemsLost a s) := by
  unfold showItemsLost
  split
  · split
    · exact .holds (.refl s)
    · exact .passes (.refl s)
  · rename_i hw
    have hnot : ¬ Held "showItemsLost" a s.wait := by
      rintro ⟨v, hv, hof⟩
      cases v <;> simp_all [Wait.IsOf]
    exact .called rfl rfl (fun _ => hnot) id
      (.holds _ rfl (fun _ => ⟨_, rfl, rfl⟩) (absurd · hnot))

lemma awardFestivalPrize_obeys (a : Args) (s : Scene α σ) :
    Obeys "awardFestivalPrize" a s (awardFestivalPrize a s) := by
  unfold awardFestivalPrize
  split
  · exact asks (by decide) rfl rfl id rfl
  · rename_i hget
    split
    · exact asks (by decide) rfl rfl id rfl
    · rename_i hlost
      exact .uncalled rfl id (.leaps rfl hget (by simpa using hlost) rfl)

end Commands

end Cutscene
