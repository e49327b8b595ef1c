import Cutscene.Commands.Moving

/-!
The commands by which actors come on and go off, turn, show frames and emotes.
-/

namespace Cutscene.Commands

variable {α σ : Type} [Scalar α] [Stage α σ]

/-- Turns an actor: `faceDirection <actor> <direction> [continue]`. -/
def faceDirection (a : Args) (s : Scene α σ) : Reply α σ :=
  let read : Args.Read (String × Direction) := do
    let actor ← a.get 1 "actor"
    let direction ← a.direction 2 "direction"
    return (actor, direction)
  s.reading read fun (token, direction) =>
    s.withActor token fun h actor =>
      ((s.putActor h (actor.face direction)).advanceChained (a.wantsContinue 3)).done

/-- Shows one frame in place of any animation: `showFrame <actor> <frame> [flip]`. -/
def showFrame (a : Args) (s : Scene α σ) : Reply α σ :=
  let read : Args.Read (String × Int × Bool) := do
    let actor ← a.get 1 "actor"
    let frame ← a.int 2 "frame"
    let flip ← a.optBool 3 "flip" false
    return (actor, frame, flip)
  s.reading read fun (token, frame, flip) =>
    if frame < 0 then (s.passOver (.negativeFrame frame)).done
    else
      s.withActor token fun h actor =>
        let posed := { actor with animation := none, frame := frame.toNat, flipped := flip }
        ((s.putActor h posed).advance 1).done

/-- A frame number that is not negative. -/
def frameNumber (a : Args) (index : Nat) : Args.Read Nat := do
  let value ← a.int index "frame"
  if value < 0 then throw (.invalid index "frame" (Numeral.ofInt value) .frameNumber)
  return value.toNat

/-- Plays frames, at least one: `animate <actor> <flip> <loop> <frameMs> <frame>...`. -/
def animate (a : Args) (s : Scene α σ) : Reply α σ :=
  let read : Args.Read (String × Bool × Bool × α × Nat × List Nat) := do
    let actor ← a.get 1 "actor"
    let flip ← a.bool 2 "flip"
    let looping ← a.bool 3 "loop"
    let time ← a.float 4 "frame duration"
    let first ← frameNumber a 5
    let others ← ((List.range (a.size - 6)).map (6 + ·)).mapM (frameNumber a)
    return (actor, flip, looping, time, first, others)
  s.reading read fun (token, flip, looping, time, first, others) =>
    s.withActor token fun h actor =>
      let posed := { actor with
        flipped := flip
        frame := first
        animation := some (.start (first :: others) time looping) }
      ((s.putActor h posed).advance 1).done

/-- Stops an animation, on a frame if one is named: `stopAnimation <actor> [frame]`. -/
def stopAnimation (a : Args) (s : Scene α σ) : Reply α σ :=
  let read : Args.Read (String × Option Nat) := do
    let actor ← a.get 1 "actor"
    let frame ← a.orDefault 2 none ((frameNumber a 2).map some)
    return (actor, frame)
  s.reading read fun (token, frame) =>
    s.withActor token fun h actor =>
      let actor := actor.halt
      ((s.putActor h { actor with frame := frame.getD actor.frame }).advance 1).done

/-- Lets an actor jump: `jump <actor> [intensity]`. -/
def jump (a : Args) (s : Scene α σ) : Reply α σ :=
  let read : Args.Read (String × Int) := do
    let actor ← a.get 1 "actor"
    let intensity ← a.optInt 2 "intensity" 8
    return (actor, intensity)
  s.reading read fun (token, intensity) =>
    s.withActor token fun h actor =>
      let jumping := { actor with jump := some ⟨s.settings.jumpTime, intensity⟩ }
      ((s.putActor h jumping).advance 1).done

/-- Shakes an actor: `shake <actor> <ms>`. -/
def shake (a : Args) (s : Scene α σ) : Reply α σ :=
  let read : Args.Read (String × α) := do
    let actor ← a.get 1 "actor"
    let time ← a.float 2 "duration"
    return (actor, time)
  s.reading read fun (token, time) =>
    s.withActor token fun h actor =>
      ((s.putActor h { actor with shake := some ⟨time, 1⟩ }).advance 1).done

/-- The emote of an actor is still on show. -/
def emotePlays (s : Scene α σ) (h : Handle) : Bool :=
  match s.cast.get? h with
  | some actor => actor.emote.isSome
  | none => false

/-- Shows an emote and holds the script until it has played, unless it is told to go on:
`emote <actor> <emote> [continue]`. -/
def emote (a : Args) (s : Scene α σ) : Reply α σ :=
  match s.wait with
  | some (.emote h) => (if emotePlays s h then s else s.advance 1).done
  | _ =>
    let read : Args.Read (String × Int) := do
      let actor ← a.get 1 "actor"
      let emote ← a.int 2 "emote"
      return (actor, emote)
    s.reading read fun (token, number) =>
      s.withActor token fun h actor =>
        if actor.kind.canEmote then
          let s := s.putActor h { actor with emote := some ⟨s.settings.emoteTime, number⟩ }
          let s := s.call (.emote actor.name number)
          (if a.wantsContinue 3 then s.advanceChained true else s.await (.emote h)).done
        else (s.passOver (.cannotEmote actor.name)).done

/-- Brings an actor on: `addActor <npc|pet|monster|prop> <name> <x> <y> <direction>`. -/
def addActor (a : Args) (s : Scene α σ) : Reply α σ :=
  let read : Args.Read (ActorKind × String × Tile × Direction) := do
    let kind ← a.parsed 1 "kind" .actorKind ActorKind.ofToken?
    let name ← a.get 2 "name"
    let tile ← a.point 3 "tile"
    let facing ← a.direction 5 "facing"
    return (kind, name, tile, facing)
  s.reading read fun (kind, name, tile, facing) =>
    let actor := Actor.place name kind tile facing s.settings.tileSize
    ({ s with cast := (s.cast.spawn actor).2 }.advance 1).done

/-- Takes an actor off: `removeActor <actor>`. -/
def removeActor (a : Args) (s : Scene α σ) : Reply α σ :=
  s.reading (a.get 1 "actor") fun token =>
    s.withActor token fun h _ => ((s.onEvent (·.removeActor h)).advance 1).done

end Cutscene.Commands
