import Cutscene.Proofs.Troupe.Basic

/-!
# One Actor, One Tick

What a tick does to one actor: the sprite goes on, a target takes the actor one step further or
lands it, and a path makes its step or is over. A path that is sound never looks for a step that it
does not have, unless it has none at all (`Path.Sound`).
-/

namespace Cutscene

variable {α : Type} [Scalar α]

/-! ### Actors -/

namespace Actor

omit [Scalar α] in
lemma Walks.refl (a : Actor α) : a.Walks a := ⟨rfl, rfl, rfl, rfl⟩

omit [Scalar α] in
lemma Walks.trans {a b c : Actor α} (h : a.Walks b) (h' : b.Walks c) : a.Walks c :=
  ⟨h'.name.trans h.name, h'.kind.trans h.kind, h'.speedOverride.trans h.speedOverride,
    h'.scripted.trans h.scripted⟩

omit [Scalar α] in
lemma Walks.freed {a b : Actor α} (h : a.Walks b) : a.freed.Walks b.freed :=
  ⟨h.name, h.kind, h.speedOverride, rfl⟩

omit [Scalar α] in
lemma Walks.speed {a b : Actor α} (h : a.Walks b) (g : Settings α) : b.speed g = a.speed g := by
  rw [Actor.speed, Actor.speed, h.speedOverride, h.kind]

lemma update_poses (a : Actor α) (time : α) : a.Poses (a.update time) := by
  have hanimate : a.Poses (a.animate time) := by
    unfold animate
    split
    · exact ⟨⟨rfl, rfl, rfl, rfl⟩, rfl⟩
    · split <;> exact ⟨⟨rfl, rfl, rfl, rfl⟩, rfl⟩
  exact ⟨⟨hanimate.name, hanimate.kind, hanimate.speedOverride, hanimate.scripted⟩,
    hanimate.position⟩

lemma stepToward_walks (a : Actor α) (target : Vec α) (speed : α) :
    a.Walks (a.stepToward target speed).1 := by
  unfold stepToward
  dsimp only
  split_ifs <;> exact ⟨rfl, rfl, rfl, rfl⟩

/-- An actor on its way lands, or walks on. -/
lemma approach_cases (g : Settings α) (a : Actor α) (t : Target) :
    hasArrived g a t.tile = true ∧ a.approach g t = (a.land g t, true) ∨
      hasArrived g a t.tile = false ∧ a.approach g t =
        ((a.stepToward (tileOrigin g.tileSize t.tile) (a.speed g)).1, false) := by
  unfold approach
  cases hasArrived g a t.tile with
  | true => exact .inl ⟨rfl, rfl⟩
  | false => exact .inr ⟨rfl, rfl⟩

end Actor

/-! ### Paths -/

namespace Path

/-- The step that a path is at is there, or the path has no steps; and once a path that is not for
ever is over, the script lets its actor go. -/
structure Sound (p : Path α) : Prop where
  inside : p.index < p.steps.length ∨ p.steps = [] ∧ p.index = 0
  ending : p.atEnd = some Actor.freed ∨ p.atEnd = none ∧ p.looping = true ∧ p.steps ≠ []

omit [Scalar α] in
lemma Sound.getElem? {p : Path α} (hp : p.Sound) (h : p.steps[p.index]? = none) :
    p.steps = [] := by
  rcases hp.inside with hlt | ⟨hnil, -⟩
  · exact absurd (List.getElem?_eq_none_iff.mp h) (Nat.not_le.mpr hlt)
  · exact hnil

lemma start_inside (h : Handle) (steps : List (PathStep α)) (looping : Bool) :
    0 < steps.length ∨ steps = [] ∧ (start h steps looping).index = 0 := by
  cases steps with
  | nil => exact .inr ⟨rfl, rfl⟩
  | cons step rest => exact .inl (Nat.succ_pos _)

lemma sound_of_start (h : Handle) (steps : List (PathStep α)) (looping : Bool) :
    Sound { start h steps looping with atEnd := some Actor.freed } :=
  ⟨start_inside h steps looping, .inl rfl⟩

lemma sound_square (h : Handle) (width height : Int) (pause : α) :
    (square h width height pause).Sound := by
  have hsteps : (square h width height pause).steps ≠ [] := by
    simp only [square, start]
    split <;> simp
  exact ⟨.inl (List.length_pos_iff.mpr hsteps), .inr ⟨rfl, rfl, hsteps⟩⟩

/-- The path walks its actor, at one step of it at least. -/
def Wanders (p : Path α) : Prop := ∃ offset, .walk offset ∈ p.steps

/-- A path and its actor before and after a turn that may have ended it. -/
structure Moved (p : Path α) (a : Actor α) (q : Path α) (b : Actor α) (ended : Bool) : Prop where
  actor : q.actor = p.actor
  steps : q.steps = p.steps
  sound : ended = false → q.Sound
  walks : ended = false → a.Walks b
  frees : ended = true → a.freed.Walks b
  stays : ¬ p.Wanders → b.position = a.position

/-- What a step leaves alone, whether it is made or not. -/
structure Makes (p : Path α) (a : Actor α) (q : Path α) (b : Actor α) : Prop where
  actor : q.actor = p.actor
  steps : q.steps = p.steps
  looping : q.looping = p.looping
  index : q.index = p.index
  atEnd : q.atEnd = p.atEnd
  walks : a.Walks b

variable {p : Path α} {a : Actor α} {time : α} {g : Settings α}

lemma make_makes (step : PathStep α) :
    p.Makes a (p.make step a time g).1 (p.make step a time g).2.1 := by
  cases step with
  | walk offset => exact ⟨rfl, rfl, rfl, rfl, rfl, a.stepToward_walks _ _⟩
  | face d pause => exact ⟨rfl, rfl, rfl, rfl, rfl, ⟨rfl, rfl, rfl, rfl⟩⟩
  | wait pause => exact ⟨rfl, rfl, rfl, rfl, rfl, ⟨rfl, rfl, rfl, rfl⟩⟩

lemma make_position {step : PathStep α} (h : ∀ offset, step ≠ .walk offset) :
    (p.make step a time g).2.1.position = a.position := by
  cases step with
  | walk offset => exact absurd rfl (h offset)
  | face d pause => rfl
  | wait pause => rfl

omit [Scalar α] in
lemma complete_walks (hp : p.atEnd = some Actor.freed) :
    a.freed.Walks (p.complete a).2.1 ∧ (p.complete a).2.1.position = a.position := by
  simp only [complete, hp, Option.getD_some]
  exact ⟨⟨rfl, rfl, rfl, rfl⟩, rfl⟩

omit [Scalar α] in
/-- Only a path that is not for ever comes to its end, and its actor is let go then. -/
lemma complete_moved (hp : p.atEnd = some Actor.freed) :
    p.Moved a (p.complete a).1 (p.complete a).2.1 true where
  actor := rfl
  steps := rfl
  sound := nofun
  walks := nofun
  frees := fun _ => (complete_walks hp).1
  stays := fun _ => (complete_walks hp).2

section Makes

variable {q r : Path α} {b : Actor α}

omit [Scalar α] in
/-- The path goes on, with this step or with another one. -/
lemma Makes.goes (h : p.Makes a q b) (hp : p.Sound)
    (hstays : ¬ p.Wanders → b.position = a.position) (hactor : r.actor = q.actor)
    (hsteps : r.steps = q.steps) (hlooping : r.looping = q.looping) (hend : r.atEnd = q.atEnd)
    (hindex : r.index < p.steps.length) : p.Moved a r b false where
  actor := hactor.trans h.actor
  steps := hsteps.trans h.steps
  sound := fun _ =>
    { inside := .inl (by rwa [hsteps, h.steps])
      ending := by
        rw [hend, h.atEnd, hlooping, h.looping, hsteps, h.steps]
        exact hp.ending }
  walks := fun _ => h.walks
  frees := nofun
  stays := hstays

omit [Scalar α] in
/-- The last step is made, and the path is over. -/
lemma Makes.ends (h : p.Makes a q b) (hp : p.Sound)
    (hstays : ¬ p.Wanders → b.position = a.position) (honce : ¬ q.looping = true)
    (hactor : r.actor = q.actor) (hsteps : r.steps = q.steps) (hend : r.atEnd = q.atEnd) :
    p.Moved a (r.complete b).1 (r.complete b).2.1 true := by
  have hfreed : r.atEnd = some Actor.freed := by
    rw [hend, h.atEnd]
    refine hp.ending.resolve_right fun hsquare => honce ?_
    rw [h.looping, hsquare.2.1]
  obtain ⟨hwalks, hposition⟩ := complete_walks (a := b) hfreed
  exact
    { actor := hactor.trans h.actor
      steps := hsteps.trans h.steps
      sound := nofun
      walks := nofun
      frees := fun _ => h.walks.freed.trans hwalks
      stays := fun hno => hposition.trans (hstays hno) }

end Makes

/-- One tick of a sound path. -/
theorem update_moved (hp : p.Sound) :
    p.Moved a (p.update a time g).1 (p.update a time g).2.1 (p.update a time g).2.2 := by
  unfold update
  split
  · rename_i hnone
    refine complete_moved (hp.ending.resolve_right fun h => ?_)
    exact h.2.2 (hp.getElem? hnone)
  · rename_i step hstep
    have hin : p.index < p.steps.length := (List.getElem?_eq_some_iff.mp hstep).1
    have hmakes : p.Makes a (p.make step a time g).1 (p.make step a time g).2.1 :=
      make_makes step
    have hstays : ¬ p.Wanders → (p.make step a time g).2.1.position = a.position := by
      intro hno
      refine make_position fun offset heq => hno ⟨offset, ?_⟩
      exact heq ▸ List.mem_of_getElem? hstep
    generalize p.make step a time g = made at hmakes hstays ⊢
    obtain ⟨q, b, made⟩ := made
    dsimp only at hmakes hstays ⊢
    split
    · exact hmakes.goes hp hstays rfl rfl rfl rfl (hmakes.index ▸ hin)
    · split
      · rename_i hlater
        exact hmakes.goes hp hstays rfl rfl rfl rfl (hmakes.steps ▸ hlater)
      · split
        · exact hmakes.goes hp hstays rfl rfl rfl rfl (Nat.zero_lt_of_lt hin)
        · rename_i honce
          exact hmakes.ends hp hstays honce rfl rfl rfl

/-- A path keeps its actor, sound or not. -/
lemma update_actor (p : Path α) (a : Actor α) (time : α) (g : Settings α) :
    (p.update a time g).1.actor = p.actor := by
  unfold update
  split
  · rfl
  · rename_i step _
    have hactor : (p.make step a time g).1.actor = p.actor := (make_makes step).actor
    generalize p.make step a time g = made at hactor ⊢
    obtain ⟨q, b, made⟩ := made
    dsimp only at hactor ⊢
    split_ifs <;> exact hactor

end Path

end Cutscene
