import Cutscene.Cast

/-!
Paths: an actor walks through a list of steps beside the script, once or for ever. A path never
holds the script back.
-/

namespace Cutscene

/-- One step of a path. -/
inductive PathStep (α : Type) where
  /-- Walk by some tiles. -/
  | walk (offset : Tile)
  /-- Turn and stand still for a time. -/
  | face (direction : Direction) (time : α)
  /-- Stand still for a time. -/
  | wait (time : α)
  deriving DecidableEq, Repr

/-- The direction that has a number. -/
def Direction.ofNumber? (n : Int) : Option Direction :=
  if n = 0 then some .up
  else if n = 1 then some .right
  else if n = 2 then some .down
  else if n = 3 then some .left
  else none

variable {α : Type} [Scalar α]

/-- The step that a pair of integers means: a walk along one axis, or, when both are set, a
direction and a time. -/
def PathStep.ofPair? (x y : Int) : Option (PathStep α) :=
  if x = 0 ∧ y = 0 then none
  else if y = 0 then some (.walk ⟨x, 0⟩)
  else if x = 0 then some (.walk ⟨0, y⟩)
  else (Direction.ofNumber? x).map fun d => .face d (Scalar.ofInt y)

/-- A path that is under way. -/
structure Path (α : Type) where
  actor : Handle
  steps : List (PathStep α)
  looping : Bool
  /-- The step being made. -/
  index : Nat
  /-- Where the walk being made ends. -/
  target : Option (Vec α)
  /-- What is left of the pause being made; none is under way at zero. -/
  pauseLeft : α
  /-- What happens to the actor once a path that does not loop is over. -/
  atEnd : Option (Actor α → Actor α)

namespace Path

/-- A path about to make its first step. -/
def start (actor : Handle) (steps : List (PathStep α)) (looping : Bool) : Path α :=
  ⟨actor, steps, looping, 0, none, 0, none⟩

/-- A rectangle walked clockwise for ever, with a pause at each corner if it has a time. -/
def square (actor : Handle) (width height : Int) (pause : α) : Path α :=
  let legs : List Tile := [⟨width, 0⟩, ⟨0, height⟩, ⟨-width, 0⟩, ⟨0, -height⟩]
  let steps := legs.flatMap fun leg =>
    if 0 < pause then [.walk leg, .wait pause] else [.walk leg]
  start actor steps true

/-- Counts a pause down, from its full time if none is under way, and says whether it is over. -/
def countDown (p : Path α) (pause elapsed : α) : Path α × Bool :=
  let left := (if p.pauseLeft ≤ 0 then pause else p.pauseLeft) - elapsed
  ({ p with pauseLeft := left }, left ≤ 0)

/-- One tick of a step, and whether the step is made. -/
def make (p : Path α) (step : PathStep α) (a : Actor α) (elapsed : α) (s : Settings α) :
    Path α × Actor α × Bool :=
  match step with
  | .walk offset =>
    let target := p.target.getD
      ⟨a.position.x + Scalar.ofInt (offset.x * s.tileSize),
       a.position.y + Scalar.ofInt (offset.y * s.tileSize)⟩
    let (a, there) := a.stepToward target (a.speed s)
    ({ p with target := some target }, a, there)
  | .face d time =>
    let (p, ended) := p.countDown time elapsed
    (p, a.halt.face d, ended)
  | .wait time =>
    let (p, ended) := p.countDown time elapsed
    (p, a.halt, ended)

/-- The end of a path: the actor halts, and what was to happen to it happens. -/
def complete (p : Path α) (a : Actor α) : Path α × Actor α × Bool :=
  ({ p with atEnd := none }, (p.atEnd.getD id) a.halt, true)

/-- One tick of a path, and whether it is over. -/
def update (p : Path α) (a : Actor α) (elapsed : α) (s : Settings α) : Path α × Actor α × Bool :=
  match p.steps[p.index]? with
  | none => p.complete a
  | some step =>
    let (p, a, made) := p.make step a elapsed s
    if !made then (p, a, false)
    else
      let p := { p with target := none, pauseLeft := 0, index := p.index + 1 }
      if p.index < p.steps.length then (p, a, false)
      else if p.looping then ({ p with index := 0 }, a, false)
      else p.complete a

/-- One tick of several paths, one after the other. A path that is over goes, and so does one
whose actor is not live. -/
def updateAll (elapsed : α) (s : Settings α) : List (Path α) → Cast α → List (Path α) × Cast α
  | [], c => ([], c)
  | p :: rest, c =>
    match c.get? p.actor with
    | none => updateAll elapsed s rest c
    | some a =>
      let (p, a, ended) := p.update a elapsed s
      let (going, c) := updateAll elapsed s rest (c.modify p.actor fun _ => a)
      (if ended then going else p :: going, c)

end Path

end Cutscene
