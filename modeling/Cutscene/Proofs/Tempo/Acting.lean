import Cutscene.Proofs.Reading.Acting
import Cutscene.Proofs.Tempo.Basic

/-!
# The Commands for Cast and Stage Are Timeless

A command that poses an actor or sends it somewhere leaves its name and its kind. No command asks
where an actor stands, apart from a `move`, which makes a target of it. What a `move` does once its
actors have landed depends on its groups alone.
-/

namespace Cutscene.Commands

open Scene

variable {α : Type} [Scalar α]

/-! ### Moves -/

/-- Where the actors are sent does not matter, and neither do the actors. -/
lemma sendOff_twin {s u : Scene α Rehearsal} (h : s.Twin u) (groups : List MoveGroup) :
    (sendOff s groups).scene.Twin (sendOff u groups).scene := by
  induction groups generalizing s u with
  | nil => exact h
  | cons group rest ih =>
    unfold sendOff
    dsimp only
    rw [h.alike.resolve? (ActorRef.parse group.token)]
    cases u.cast.resolve? (ActorRef.parse group.token) with
    | none =>
      dsimp only
      split
      · exact ih h
      · exact ih h.note
    | some handle =>
      have hget := h.alike.get? handle
      dsimp only
      cases hs : s.cast.get? handle <;> cases hu : u.cast.get? handle <;> rw [hs, hu] at hget
      · exact h
      · cases hget
      · cases hget
      · exact ih (.sendTo (.putActor h hs hu rfl rfl))

lemma setOff_twin {s u : Scene α Rehearsal} (h : s.Twin u) (a : Args) (groups : List MoveGroup) :
    (setOff a s groups).Twin (setOff a u groups) := by
  have hoff := sendOff_twin h groups
  exact ⟨⟨hoff.left.cast, hoff.left.paths⟩, ⟨hoff.right.cast, hoff.right.paths⟩, hoff.alike⟩

/-- A move whose actors land at once. -/
def moveOver (a : Args) (s : Scene α Rehearsal) : Reply α Rehearsal :=
  if misshapen a then (s.passOver .moveShape).done
  else s.reading (readMove a) fun groups => ((setOff a s groups).advance 1).done

lemma move_timed : Timed (move : Handler α Rehearsal) moveOver := by
  intro a s hs hfree
  have hpass : ∀ fault, (s.passOver fault).Tame ∧
      (s.passOver fault).untimed = (s.bare.passOver fault).bare := by
    intro fault
    have hfree' : (s.passOver fault).Free := hfree.of_eq rfl rfl
    rw [untimed_of_free hfree']
    exact ⟨⟨hs.cast, hs.paths⟩, (Twin.of_tame hs).passOver.alike⟩
  by_cases hshape : misshapen a
  · rw [move_of_misshapen hshape, moveOver, if_pos hshape]
    exact (hpass .moveShape).imp_right .inr
  · rw [move_of_not_misshapen hshape, moveOver, if_neg hshape]
    cases readMove a with
    | error e => exact (hpass (.argument e)).imp_right .inr
    | ok groups =>
      have htwin := setOff_twin (.of_tame hs) a groups
      have hover := htwin.advance (n := 1)
      dsimp only [reading]
      split
      · rename_i hgo
        have hlanded : ((setOff a s groups).advance 1).Free := (Bool.or_eq_true_iff.mp hgo).symm
        refine ⟨hover.left, .inr ?_⟩
        exact (untimed_of_free hlanded).trans hover.alike
      · rename_i hstay
        rw [Bool.or_eq_true, not_or] at hstay
        have hheld : ¬ (setOff a s groups).Free := fun h => h.elim hstay.2 hstay.1
        refine ⟨htwin.left, .inr ?_⟩
        exact (untimed_of_not_free hheld).trans hover.alike

lemma notePair_twin {s u : Scene α Rehearsal} (pair : Int × Int) (h : s.Twin u) :
    (notePair s pair).Twin (notePair u pair) := by
  unfold notePair
  split
  · exact h
  · split
    · exact h
    · exact h.note

lemma advancedMove_timeless : Timeless (advancedMove : Handler α Rehearsal) advancedMove := by
  intro a s hs
  refine .reading (.of_tame hs) fun v => ?_
  obtain ⟨token, looping, pairs⟩ := v
  have hnoted := Twin.foldl notePair_twin (.of_tame hs) pairs
  refine .withActor hnoted fun handle a b ha hb _ => .twin ?_
  refine .advance (.addPath ?_ ?_ ?_)
  · exact .putActor hnoted ha hb rfl rfl
  · intro f hf
    obtain rfl := Option.some.inj hf
    exact fun _ => rfl
  · intro f hf
    obtain rfl := Option.some.inj hf
    exact fun _ => rfl

/-- Only moves on. -/
def pass (_ : Args) (s : Scene α Rehearsal) : Reply α Rehearsal := (s.advance 1).done

lemma release_alike {s v : Scene α Rehearsal} (hv : v.Tame ∧ v.Alike s) (h : Handle)
    {f : Actor α → Actor α} (hf : ∀ a, (f a).bare = a.bare) :
    (v.onEvent (·.modifyActor h f)).Tame ∧ (v.onEvent (·.modifyActor h f)).Alike s := by
  have hcast := Cast.bare_modify_of_bare hf v.cast h
  exact ⟨⟨hv.1.cast.modify h f, hv.1.paths⟩, .trans (.of_cast hcast) hv.2⟩

lemma stopAdvancedMoves_timeless : Timeless (stopAdvancedMoves : Handler α Rehearsal) pass := by
  intro a s hs
  have hstart : Tame ({ s with paths := [] } : Scene α Rehearsal) ∧
      Alike ({ s with paths := [] } : Scene α Rehearsal) s := ⟨⟨hs.cast, by simp⟩, .refl s⟩
  obtain ⟨htame, halike⟩ := List.foldlRecOn
    (motive := fun v : Scene α Rehearsal => v.Tame ∧ v.Alike s) (s.paths.map Path.actor)
    (fun (v : Scene α Rehearsal) h =>
      v.onEvent (·.modifyActor h fun a => { a.halt with scripted := false })) hstart
    fun v hv h _ => release_alike hv h fun _ => rfl
  exact .twin (.advance ⟨htame, hs.bare, halike.trans (.of_bare s)⟩)

lemma walkInSquare_timeless : Timeless (walkInSquare : Handler α Rehearsal) walkInSquare := by
  intro a s hs
  refine .reading (.of_tame hs) fun v => ?_
  refine .withActor (.of_tame hs) fun handle a b ha hb _ => .twin ?_
  refine .advance (.addPath ?_ ?_ ?_)
  · exact .putActor (.of_tame hs) ha hb rfl rfl
  · exact fun f hf => nomatch hf
  · exact fun f hf => nomatch hf

lemma warp_timeless : Timeless (warp : Handler α Rehearsal) warp := by
  intro a s hs
  refine .reading (.of_tame hs) fun v => ?_
  refine .withActor (.of_tame hs) fun handle a b ha hb _ => .twin ?_
  exact .chained (.sendTo (.putActor (.of_tame hs) ha hb rfl rfl))

lemma positionOffset_timeless : Timeless (positionOffset : Handler α Rehearsal) positionOffset := by
  intro a s hs
  refine .reading (.of_tame hs) fun v => ?_
  refine .withActor (.of_tame hs) fun handle a b ha hb _ => .twin ?_
  exact .chained (.putActor (.of_tame hs) ha hb rfl rfl)

lemma speed_timeless : Timeless (speed : Handler α Rehearsal) speed :=
  fun _ _ hs => .reading (.of_tame hs) fun _ => .posed (.of_tame hs) (fun _ => rfl) fun _ => rfl

lemma halt_timeless : Timeless (halt : Handler α Rehearsal) pass := by
  intro a s hs
  have hcast : s.cast.haltAll.bare = s.cast.bare := Cast.bare_modifyAll (fun a => by rfl) s.cast
  have halike : ({ s with cast := s.cast.haltAll } : Scene α Rehearsal).Alike s.bare :=
    .trans (.of_cast hcast) (.of_bare s)
  exact .twin (.advance ⟨⟨hs.cast.modifyAll Actor.halt, hs.paths⟩, hs.bare, halike⟩)

/-! ### Poses -/

lemma faceDirection_timeless : Timeless (faceDirection : Handler α Rehearsal) faceDirection := by
  intro a s hs
  refine .reading (.of_tame hs) fun v => ?_
  refine .withActor (.of_tame hs) fun handle a b ha hb _ => .twin ?_
  exact .chained (.putActor (.of_tame hs) ha hb rfl rfl)

lemma showFrame_timeless : Timeless (showFrame : Handler α Rehearsal) showFrame := by
  intro a s hs
  refine .reading (.of_tame hs) fun v => ?_
  obtain ⟨token, frame, flip⟩ := v
  dsimp only
  split
  · exact .twin (Twin.of_tame hs).passOver
  · exact .posed (.of_tame hs) (fun _ => rfl) fun _ => rfl

lemma animate_timeless : Timeless (animate : Handler α Rehearsal) animate :=
  fun _ _ hs => .reading (.of_tame hs) fun _ => .posed (.of_tame hs) (fun _ => rfl) fun _ => rfl

lemma stopAnimation_timeless : Timeless (stopAnimation : Handler α Rehearsal) stopAnimation :=
  fun _ _ hs => .reading (.of_tame hs) fun _ => .posed (.of_tame hs) (fun _ => rfl) fun _ => rfl

lemma jump_timeless : Timeless (jump : Handler α Rehearsal) jump :=
  fun _ _ hs => .reading (.of_tame hs) fun _ => .posed (.of_tame hs) (fun _ => rfl) fun _ => rfl

lemma shake_timeless : Timeless (shake : Handler α Rehearsal) shake :=
  fun _ _ hs => .reading (.of_tame hs) fun _ => .posed (.of_tame hs) (fun _ => rfl) fun _ => rfl

/-- No emote is on show where the clock is left out. -/
lemma emotePlays_bare (s : Scene α Rehearsal) (h : Handle) : emotePlays s.bare h = false := by
  have hget : s.bare.cast.get? h = (s.cast.get? h).map Actor.bare := s.cast.get?_bare h
  unfold emotePlays
  rw [hget]
  cases s.cast.get? h <;> rfl

lemma emote_timeless : Timeless (emote : Handler α Rehearsal) emote := by
  intro a s hs
  unfold emote
  split
  · rename_i h hw
    rw [(wait_bare_iff (by simp)).mpr hw]
    dsimp only
    rw [emotePlays_bare]
    split
    · exact .stays hs
    · exact .twin (Twin.of_tame hs).advance
  · rename_i hw
    have hw' : ∀ h, s.bare.wait ≠ some (.emote h) := fun h h' =>
      hw h ((wait_bare_iff (by simp)).mp h')
    simp only
    refine .reading (.of_tame hs) fun v => ?_
    refine .withActor (.of_tame hs) fun handle a b ha hb hab => ?_
    have hname : a.bare.name = b.bare.name := congrArg Actor.name hab
    have hkind : a.bare.kind = b.bare.kind := congrArg Actor.kind hab
    rw [show a.name = b.name from hname, show a.kind = b.kind from hkind]
    split
    · split
      · dsimp only [done]
        exact .twin (.chained (.call (.putActor (.of_tame hs) ha hb hab.symm rfl)))
      · exact .twin (.await (.call (.putActor (.of_tame hs) ha hb hab.symm rfl)))
    · exact .twin (Twin.of_tame hs).passOver

lemma addActor_timeless : Timeless (addActor : Handler α Rehearsal) addActor := by
  intro a s hs
  refine .reading (.of_tame hs) fun v => .twin (.advance ?_)
  obtain ⟨kind, name, tile, facing⟩ := v
  exact (Twin.of_tame hs).spawn rfl

lemma removeActor_timeless : Timeless (removeActor : Handler α Rehearsal) removeActor := by
  intro a s hs
  refine .reading (.of_tame hs) fun token => ?_
  refine .withActor (.of_tame hs) fun handle _ _ _ _ _ => .twin ?_
  exact (Twin.of_tame hs).remove.advance

/-! ### Sound, camera, fades and effects -/

lemma playSound_timeless : Timeless (playSound : Handler α Rehearsal) playSound :=
  fun _ _ hs => .reading (.of_tame hs) fun _ => .twin (Twin.of_tame hs).call.advance

lemma playMusic_timeless : Timeless (playMusic : Handler α Rehearsal) playMusic :=
  fun _ _ hs => .reading (.of_tame hs) fun _ => .twin (Twin.of_tame hs).call.advance

lemma stopMusic_timeless : Timeless (stopMusic : Handler α Rehearsal) stopMusic :=
  fun _ _ hs => .twin (Twin.of_tame hs).call.advance

lemma viewport_timeless : Timeless (viewport : Handler α Rehearsal) viewport :=
  fun _ _ hs => .reading (.of_tame hs) fun _ => .twin (Twin.of_tame hs).call.advance

lemma fade_timeless (toBlack : Bool) :
    Timeless (fade toBlack : Handler α Rehearsal) (fade toBlack) := by
  intro a s hs
  have hover : Stage.fadeComplete α s.bare.stage = Stage.fadeComplete α s.stage := rfl
  unfold fade
  rw [hover]
  split
  · rename_i hw
    rw [(wait_bare_iff (by simp)).mpr hw]
    dsimp only
    split
    · exact .twin (Twin.of_tame hs).advance
    · exact .stays hs
  · rename_i hw
    have hw' : s.bare.wait ≠ some .fade := fun h' => hw ((wait_bare_iff (by simp)).mp h')
    simp only
    refine .reading (.of_tame hs) fun v => ?_
    obtain ⟨speed, continues⟩ := v
    cases continues with
    | false => exact .twin (Twin.of_tame hs).call.await
    | true => exact .twin (Twin.of_tame hs).call.advance

lemma globalFade_timeless : Timeless (globalFade : Handler α Rehearsal) globalFade :=
  fade_timeless true

lemma globalFadeToClear_timeless :
    Timeless (globalFadeToClear : Handler α Rehearsal) globalFadeToClear :=
  fade_timeless false

lemma spawnEffect_timeless : Timeless (spawnEffect : Handler α Rehearsal) spawnEffect :=
  fun _ _ hs => .reading (.of_tame hs) fun _ => .twin (Twin.of_tame hs).call.advance

lemma screenFlash_timeless : Timeless (screenFlash : Handler α Rehearsal) screenFlash :=
  fun _ _ hs => .reading (.of_tame hs) fun _ => .twin (Twin.of_tame hs).call.advance

/-! ### The saved game -/

lemma mail_timeless : Timeless (mail : Handler α Rehearsal) mail := by
  intro a s hs
  refine .reading (.of_tame hs) fun letter => ?_
  have hflag : Stage.hasFlag α s.bare.stage letter = Stage.hasFlag α s.stage letter := rfl
  rw [hflag]
  cases Stage.hasFlag α s.stage letter with
  | true => exact .twin (Twin.of_tame hs).advance
  | false => exact .twin (Twin.of_tame hs).call.advance

lemma friendship_timeless : Timeless (friendship : Handler α Rehearsal) friendship :=
  fun _ _ hs => .reading (.of_tame hs) fun _ => .twin (Twin.of_tame hs).call.advance

lemma addItem_timeless : Timeless (addItem : Handler α Rehearsal) addItem :=
  fun _ _ hs => .reading (.of_tame hs) fun _ => .twin (Twin.of_tame hs).call.advance

lemma loseItems_timeless : Timeless (loseItems : Handler α Rehearsal) loseItems := by
  intro a s hs
  have hlost : Stage.itemsToLose α s.bare.stage = Stage.itemsToLose α s.stage := rfl
  unfold loseItems
  rw [hlost]
  dsimp only
  split
  · exact .twin (Twin.of_tame hs).call.advance.queue
  · exact .twin (Twin.of_tame hs).call.advance

lemma showItemsLost_timeless : Timeless (showItemsLost : Handler α Rehearsal) showItemsLost := by
  intro a s hs
  unfold showItemsLost
  split
  · rename_i hw
    rw [(wait_bare_iff (by simp)).mpr hw]
    dsimp only
    split
    · exact .stays hs
    · exact .twin (Twin.of_tame hs).advance
  · rename_i hw
    have hw' : s.bare.wait ≠ some .menu := fun h' => hw ((wait_bare_iff (by simp)).mp h')
    simp only
    exact .twin (Twin.of_tame hs).call.await

lemma awardFestivalPrize_timeless :
    Timeless (awardFestivalPrize : Handler α Rehearsal) awardFestivalPrize := by
  intro a s hs
  have hwinner : Stage.festivalWinner α s.bare.stage = Stage.festivalWinner α s.stage := rfl
  unfold awardFestivalPrize
  rw [hwinner]
  split
  · exact .twin (Twin.of_tame hs).call.advance
  · split
    · exact .twin (Twin.of_tame hs).call.advance
    · exact .twin (Twin.of_tame hs).advance

end Cutscene.Commands
