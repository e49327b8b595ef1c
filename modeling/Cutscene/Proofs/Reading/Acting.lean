import Cutscene.Proofs.Reading.Basic

/-!
# What the Commands for Cast and Stage Read

A command for one actor reads all its tokens before it looks the actor up, and it changes nothing
before that.
-/

namespace Cutscene.Commands

open Scene

variable {α σ : Type}

/-! ### Moves -/

section Moves

variable [Scalar α]

lemma sendOff_notes (s : Scene α σ) (groups : List MoveGroup) :
    ∃ refs : List ActorRef,
      (sendOff s groups).scene.reports = s.reports ++ (refs.map .missingMover).map s.noteOf := by
  induction groups generalizing s with
  | nil => exact ⟨[], (List.append_nil _).symm⟩
  | cons group rest ih =>
    unfold sendOff
    dsimp only
    split
    · split
      · exact ih s
      · obtain ⟨refs, h⟩ := ih (s.note (.missingMover (ActorRef.parse group.token)))
        refine ⟨ActorRef.parse group.token :: refs, h.trans ?_⟩
        exact List.append_assoc s.reports [_] _
    · split
      · exact ⟨[], (List.append_nil _).symm⟩
      · exact ih _

/-- A number of tokens that do not make groups of a move. -/
def misshapen (a : Args) : Prop := moveStop a < 5 ∨ (moveStop a - 1) % 4 ≠ 0

instance (a : Args) : Decidable (misshapen a) := inferInstanceAs (Decidable (_ ∨ _))

/-- The groups of a move, if their number is right. -/
def readMove (a : Args) : Args.Read (List MoveGroup) :=
  if misshapen a then .ok []
  else ((List.range ((moveStop a - 1) / 4)).map fun k => 1 + 4 * k).mapM (MoveGroup.read a)

lemma move_of_misshapen {a : Args} (h : misshapen a) (s : Scene α σ) :
    move a s = (s.passOver .moveShape).done :=
  if_pos h

lemma move_of_not_misshapen {a : Args} (h : ¬ misshapen a) (s : Scene α σ) :
    move a s = s.reading (readMove a) fun groups =>
      (if moveContinues a || (setOff a s groups).barrier.isClosed then
        (setOff a s groups).advance 1 else setOff a s groups).done := by
  rw [readMove, if_neg h]
  refine (if_neg h).trans (congrArg (s.reading _) (funext fun groups => ?_))
  dsimp only
  rw [(sendOff_spec s groups).1]
  rfl

lemma move_reads : Reads (move : Handler α σ) (.plain readMove) := by
  intro a s
  by_cases hshape : misshapen a
  · rw [move_of_misshapen hshape, Reader.plain, readMove, if_pos hshape]
    exact .passOver trivial
  · rw [move_of_not_misshapen hshape]
    refine .reading (fun _ => none) (by simp [Reader.plain]) fun groups _ => ?_
    obtain ⟨refs, hrefs⟩ := sendOff_notes s groups
    refine .unread ⟨refs.map .missingMover, Eq.trans ?_ hrefs, by simp [Fits]⟩
    dsimp only [Scene.done]
    split <;> rfl

/-- The fault of a pair that is no step, unless it is nothing at all. -/
def strayPair (α : Type) [Scalar α] (p : Int × Int) : Option Fault :=
  match (PathStep.ofPair? p.1 p.2 : Option (PathStep α)) with
  | some _ => none
  | none => if p = (0, 0) then none else some (.badPathPair p.1 p.2)

lemma eq_badPathPair {p : Int × Int} {f : Fault} (h : strayPair α p = some f) :
    f = .badPathPair p.1 p.2 := by
  unfold strayPair at h
  split at h
  · cases h
  · split at h
    · cases h
    · exact (Option.some.inj h).symm

lemma notePair_eq (s : Scene α σ) (p : Int × Int) :
    notePair s p = s.noteAll (strayPair α p).toList := by
  unfold notePair strayPair
  cases (PathStep.ofPair? p.1 p.2 : Option (PathStep α)) with
  | some step => exact s.noteAll_nil.symm
  | none =>
    dsimp only
    split
    · exact s.noteAll_nil.symm
    · rfl

lemma foldl_notePair (s : Scene α σ) (pairs : List (Int × Int)) :
    pairs.foldl notePair s = s.noteAll (pairs.filterMap (strayPair α)) := by
  induction pairs generalizing s with
  | nil => exact s.noteAll_nil.symm
  | cons p rest ih =>
    rw [List.foldl_cons, ih, notePair_eq, noteAll_noteAll, List.filterMap_cons]
    cases strayPair α p <;> rfl

/-- What an `advancedMove` reads. It has noted the stray pairs when it looks its actor up. -/
def readPath : Reader α σ := fun a _ => do
  let actor ← a.get 1 "actor"
  let _ ← a.bool 2 "loop"
  let pairs ← readPairs a 3 (a.rest 3)
  return some ⟨actor, pairs.filterMap (strayPair α)⟩

lemma advancedMove_reads : Reads (advancedMove : Handler α σ) readPath := by
  intro a s
  refine .reading (fun v => some ⟨v.1, v.2.2.filterMap (strayPair α)⟩) (by simp [readPath]) ?_
  rintro ⟨token, looping, pairs⟩ -
  have hstrays : ∀ f ∈ pairs.filterMap (strayPair α), ∃ x y, f = .badPathPair x y := by
    intro f hf
    obtain ⟨p, -, hp⟩ := List.mem_filterMap.mp hf
    exact ⟨p.1, p.2, eq_badPathPair hp⟩
  refine .withActor (foldl_notePair s pairs) hstrays fun handle actor => ?_
  refine ⟨_, congrArg Scene.reports (foldl_notePair s pairs), fun f hf => ?_⟩
  obtain ⟨x, y, rfl⟩ := hstrays f hf
  trivial

omit [Scalar α] in
lemma stopAdvancedMoves_reads : Reads (stopAdvancedMoves : Handler α σ) .silent := by
  refine .silent fun a s => ?_
  refine List.foldlRecOn (motive := fun t : Scene α σ => t.reports = s.reports)
    (s.paths.map Path.actor) _ rfl ?_
  intro t ht h _
  exact ht

lemma walkInSquare_reads : Reads (walkInSquare : Handler α σ) (.actor fun a => do
    let _ ← a.int 2 "width"
    let _ ← a.int 3 "height"
    (a.optFloat 4 "pause" 0 : Args.Read α)) :=
  .actor rfl (by simp [Reader.actor]) fun _ _ _ _ _ => .silent rfl

lemma warp_reads : Reads (warp : Handler α σ) (.actor (·.point 2 "tile")) :=
  .actor rfl (by simp [Reader.actor]) fun _ _ _ _ _ => .silent (reports_advanceChained _ _)

lemma positionOffset_reads : Reads (positionOffset : Handler α σ)
    (.actor fun a => (a.vector 2 "offset" : Args.Read (Vec α))) :=
  .actor rfl (by simp [Reader.actor]) fun _ _ _ _ _ => .silent (reports_advanceChained _ _)

lemma speed_reads : Reads (speed : Handler α σ) (.actor fun a => do
    let speed : α ← a.float 2 "speed"
    if speed ≤ 0 then throw (.invalid 2 "speed" (Scalar.text speed) .positiveSpeed)) := by
  refine .actor rfl (fun a s => ?_) fun _ _ _ _ _ => .silent rfl
  simp only [Reader.actor, map_bind, bind_assoc]
  refine congrArg _ (funext fun token => congrArg _ (funext fun speed => ?_))
  split <;> rfl

omit [Scalar α] in
lemma halt_reads : Reads (halt : Handler α σ) .silent := .silent fun _ _ => rfl

end Moves

/-! ### Poses -/

lemma faceDirection_reads :
    Reads (faceDirection : Handler α σ) (.actor (·.direction 2 "direction")) :=
  .actor rfl (by simp [Reader.actor]) fun _ _ _ _ _ => .silent (reports_advanceChained _ _)

/-- What a `showFrame` reads. It looks nobody up for a frame that is negative. -/
def readFrame : Reader α σ := fun a _ => do
  let actor ← a.get 1 "actor"
  let frame ← a.int 2 "frame"
  let _ ← a.optBool 3 "flip" false
  return if frame < 0 then none else some ⟨actor, []⟩

lemma readFrame_clear : (readFrame : Reader α σ).Clear := by
  intro a s cue h
  simp only [readFrame, bind_eq_ok, pure, Except.pure, Except.ok.injEq] at h
  obtain ⟨_, -, _, -, _, -, h⟩ := h
  split at h
  · cases h
  · obtain rfl := Option.some.inj h
    rfl

lemma showFrame_reads : Reads (showFrame : Handler α σ) readFrame := by
  intro a s
  refine .reading (fun v => if v.2.1 < 0 then none else some ⟨v.1, []⟩) (by simp [readFrame]) ?_
  rintro ⟨token, frame, flip⟩ -
  dsimp only
  split
  · exact .passOver trivial
  · exact .actor fun _ _ => .silent rfl

lemma animate_reads [Scalar α] : Reads (animate : Handler α σ) (.actor fun a => do
    let _ ← a.bool 2 "flip"
    let _ ← a.bool 3 "loop"
    let _ : α ← a.float 4 "frame duration"
    let _ ← frameNumber a 5
    ((List.range (a.size - 6)).map (6 + ·)).mapM (frameNumber a)) :=
  .actor rfl (by simp [Reader.actor]) fun _ _ _ _ _ => .silent rfl

lemma stopAnimation_reads : Reads (stopAnimation : Handler α σ)
    (.actor fun a => a.orDefault 2 none ((frameNumber a 2).map some)) :=
  .actor rfl (by simp [Reader.actor]) fun _ _ _ _ _ => .silent rfl

lemma jump_reads : Reads (jump : Handler α σ) (.actor (·.optInt 2 "intensity" 8)) :=
  .actor rfl (by simp [Reader.actor]) fun _ _ _ _ _ => .silent rfl

lemma shake_reads [Scalar α] : Reads (shake : Handler α σ)
    (.actor fun a => (a.float 2 "duration" : Args.Read α)) :=
  .actor rfl (by simp [Reader.actor]) fun _ _ _ _ _ => .silent rfl

lemma emote_reads [Stage α σ] :
    Reads (emote : Handler α σ) (.unheld "emote" (.actor (·.int 2 "emote"))) := by
  intro a s
  unfold emote
  split
  · rename_i h hw
    rw [Reader.unheld, if_pos ⟨_, hw, rfl⟩]
    exact .silent (by split <;> rfl)
  · rename_i hw
    have hnot : ¬ Held "emote" a s.wait := by
      rintro ⟨v, hv, hof⟩
      cases v <;> simp_all [Wait.IsOf]
    rw [Reader.unheld, if_neg hnot]
    refine .reading (fun v => some ⟨v.1, []⟩) (by simp [Reader.actor]) ?_
    rintro ⟨token, number⟩ -
    refine .actor fun h actor => ?_
    split
    · refine .silent ?_
      dsimp only
      split
      · exact reports_advanceChained _ _
      · rfl
    · exact .one (show Fits _ s (.cannotEmote actor.name) from trivial) rfl

lemma addActor_reads [Scalar α] : Reads (addActor : Handler α σ) (.plain fun a => do
    let kind ← a.parsed 1 "kind" .actorKind ActorKind.ofToken?
    let name ← a.get 2 "name"
    let tile ← a.point 3 "tile"
    let facing ← a.direction 5 "facing"
    return (kind, name, tile, facing)) :=
  .plain rfl fun _ _ _ => .silent rfl

lemma removeActor_reads : Reads (removeActor : Handler α σ) (.actor fun _ => pure ()) := by
  intro a s
  refine .reading (fun token => some ⟨token, []⟩) (by simp [Reader.actor]) fun token _ => ?_
  exact .actor fun _ _ => .silent rfl

/-! ### Sound, camera, fades and effects -/

section Staging

variable [Stage α σ]

lemma playSound_reads : Reads (playSound : Handler α σ) (.plain (·.get 1 "sound")) :=
  .plain rfl fun _ _ _ => .silent rfl

lemma playMusic_reads : Reads (playMusic : Handler α σ) (.plain (·.get 1 "track")) :=
  .plain rfl fun _ _ _ => .silent rfl

lemma stopMusic_reads : Reads (stopMusic : Handler α σ) .silent := .silent fun _ _ => rfl

lemma viewport_reads : Reads (viewport : Handler α σ) (.plain readCamera) :=
  .plain rfl fun _ _ _ => .silent rfl

/-- What a fade reads: a speed, and whether the script goes on. -/
def readFade [Scalar α] : Reader α σ := fun a s => do
  let _ : α ← a.optFloat 1 "fade speed" s.settings.fadeSpeed
  let _ ← a.optBool 2 "continue" false
  return none

omit [Stage α σ] in
lemma readFade_clear [Scalar α] : (readFade : Reader α σ).Clear := by
  intro a s cue h
  simp [readFade, bind_eq_ok, pure, Except.pure] at h

lemma fade_reads [Scalar α] {name : String} (hn : name = "globalFade" ∨ name = "globalFadeToClear")
    (toBlack : Bool) : Reads (fade toBlack : Handler α σ) (.unheld name readFade) := by
  intro a s
  unfold fade
  split
  · rename_i hw
    rw [Reader.unheld, if_pos ⟨_, hw, hn⟩]
    exact .silent (by dsimp only [Scene.done]; split <;> rfl)
  · rename_i hw
    have hnot : ¬ Held name a s.wait := by
      rintro ⟨v, hv, hof⟩
      rcases hn with rfl | rfl <;> cases v <;> simp_all [Wait.IsOf]
    rw [Reader.unheld, if_neg hnot]
    refine .reading (fun _ => none) (by simp [readFade]) ?_
    rintro ⟨speed, continues⟩ -
    exact .silent (by dsimp only [Scene.done]; split <;> rfl)

lemma globalFade_reads [Scalar α] :
    Reads (globalFade : Handler α σ) (.unheld "globalFade" readFade) :=
  fade_reads (.inl rfl) true

lemma globalFadeToClear_reads [Scalar α] :
    Reads (globalFadeToClear : Handler α σ) (.unheld "globalFadeToClear" readFade) :=
  fade_reads (.inr rfl) false

lemma spawnEffect_reads : Reads (spawnEffect : Handler α σ) (.plain fun a => do
    let _ ← a.get 1 "effect"
    let _ ← a.point 2 "tile"
    readOptions a 4) := by
  intro a s
  exact .reading (fun _ => none) (by simp [Reader.plain]) fun _ _ => .silent rfl

lemma screenFlash_reads [Scalar α] : Reads (screenFlash : Handler α σ)
    (.plain fun a => (a.float 1 "alpha" : Args.Read α)) :=
  .plain rfl fun _ _ _ => .silent rfl

/-! ### The saved game -/

lemma mail_reads : Reads (mail : Handler α σ) (.plain (·.get 1 "mail id")) :=
  .plain rfl fun a s letter => .silent (by dsimp only [Scene.done]; split <;> rfl)

lemma friendship_reads : Reads (friendship : Handler α σ) (.plain fun a => do
    let _ ← a.get 1 "npc"
    a.int 2 "amount") := by
  intro a s
  exact .reading (fun _ => none) (by simp [Reader.plain]) fun _ _ => .silent rfl

lemma addItem_reads : Reads (addItem : Handler α σ) (.plain fun a => do
    let _ ← a.get 1 "item"
    a.optInt 2 "count" 1) := by
  intro a s
  exact .reading (fun _ => none) (by simp [Reader.plain]) fun _ _ => .silent rfl

lemma loseItems_reads : Reads (loseItems : Handler α σ) .silent :=
  .silent fun a s => by unfold loseItems; dsimp only [Scene.done]; split <;> rfl

lemma showItemsLost_reads : Reads (showItemsLost : Handler α σ) .silent :=
  .silent fun a s => by
    unfold showItemsLost
    split
    · dsimp only [Scene.done]
      split <;> rfl
    · rfl

lemma awardFestivalPrize_reads : Reads (awardFestivalPrize : Handler α σ) .silent :=
  .silent fun a s => by
    unfold awardFestivalPrize
    split
    · rfl
    · split <;> rfl

end Staging

end Cutscene.Commands
