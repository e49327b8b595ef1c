import Cutscene.Event.Scene

/-!
The commands by which actors change their place. Only `move` holds the script: its actors go to
the movement barrier, and the pointer stays until the last of them has landed.
-/

namespace Cutscene

/-- The token at an index asks for the next command in this same tick. -/
def Args.wantsContinue (a : Args) (index : Nat) : Bool :=
  match a.get? index with
  | some token => Text.alike token "continue" || Text.alike token "true"
  | none => false

namespace Commands

variable {α σ : Type} [Scalar α] [Stage α σ]

/-- One group of a move: who goes, how far, and facing where. -/
structure MoveGroup where
  token : String
  offset : Tile
  facing : Direction
  deriving DecidableEq, Repr

/-- The group of a move that begins at an index. -/
def MoveGroup.read (a : Args) (start : Nat) : Args.Read MoveGroup := do
  let dx ← a.int (start + 1) "dx"
  let dy ← a.int (start + 2) "dy"
  let facing ← a.direction (start + 3) "facing"
  return ⟨(a.get? start).getD "", ⟨dx, dy⟩, facing⟩

/-- Sends the actors of the groups off, each from the tile where it stands. One that is not there
is left out, with a report unless its token is optional. -/
def sendOff (s : Scene α σ) : List MoveGroup → Reply α σ
  | [] => s.done
  | group :: rest =>
    let ref := ActorRef.parse group.token
    match s.cast.resolve? ref with
    | none => sendOff (if ref.optional then s else s.note (.missingMover ref)) rest
    | some h =>
      match s.cast.get? h with
      | none => ⟨s, some (.vanished h)⟩
      | some actor =>
        let target : Target := ⟨actor.tile s.settings.tileSize + group.offset, group.facing⟩
        let s := s.putActor h { actor with scripted := true }
        sendOff { s with barrier := s.barrier.insert h target } rest

/-- Sends actors off by some tiles: `move <actor> <dx> <dy> <facing> ... [continue]`. -/
def move (a : Args) (s : Scene α σ) : Reply α σ :=
  let continues := 1 < a.size && a.wantsContinue (a.size - 1)
  let stop := if continues then a.size - 1 else a.size
  if stop < 5 ∨ (stop - 1) % 4 ≠ 0 then (s.passOver .moveShape).done
  else
    let starts := (List.range ((stop - 1) / 4)).map fun k => 1 + 4 * k
    s.reading (starts.mapM (MoveGroup.read a)) fun groups =>
      let reply := sendOff s groups
      match reply.fault with
      | some _ => reply
      | none =>
        let s := reply.scene
        let s := { s with flags := { s.flags with continueAfterMove := continues } }
        (if continues || s.barrier.isClosed then s.advance 1 else s).done

/-- The pairs of a path from an index on, one for every two of the tokens that are left. -/
def readPairs (a : Args) (index : Nat) : List String → Args.Read (List (Int × Int))
  | [] => return []
  | [_] => do
    let x ← a.int index "x"
    let y ← a.int (index + 1) "y"
    return [(x, y)]
  | _ :: _ :: rest => do
    let x ← a.int index "x"
    let y ← a.int (index + 1) "y"
    let pairs ← readPairs a (index + 2) rest
    return (x, y) :: pairs

/-- Reports a pair that is no step; a pair of zeros is nothing at all. -/
def notePair (s : Scene α σ) (pair : Int × Int) : Scene α σ :=
  match (PathStep.ofPair? pair.1 pair.2 : Option (PathStep α)) with
  | some _ => s
  | none => if pair = (0, 0) then s else s.note (.badPathPair pair.1 pair.2)

/-- Lets an actor follow a path beside the script: `advancedMove <actor> <loop> <x y>...`. -/
def advancedMove (a : Args) (s : Scene α σ) : Reply α σ :=
  let read : Args.Read (String × Bool × List (Int × Int)) := do
    let actor ← a.get 1 "actor"
    let looping ← a.bool 2 "loop"
    let pairs ← readPairs a 3 (a.rest 3)
    return (actor, looping, pairs)
  s.reading read fun (token, looping, pairs) =>
    let steps := pairs.filterMap fun p => PathStep.ofPair? p.1 p.2
    let s := pairs.foldl notePair s
    s.withActor token fun h actor =>
      let path := { Path.start h steps looping with
        atEnd := some fun (a : Actor α) => { a with scripted := false } }
      let s := s.putActor h { actor with scripted := true }
      ((s.onEvent (·.addPath path)).advance 1).done

/-- Ends all paths where their actors stand: `stopAdvancedMoves`. -/
def stopAdvancedMoves (_ : Args) (s : Scene α σ) : Reply α σ :=
  let walkers := s.paths.map Path.actor
  let s := { s with paths := [] }
  let release (s : Scene α σ) (h : Handle) : Scene α σ :=
    s.onEvent (·.modifyActor h fun a => { a.halt with scripted := false })
  ((walkers.foldl release s).advance 1).done

/-- Lets an actor walk around a rectangle: `walkInSquare <actor> <width> <height> [pauseMs]`. -/
def walkInSquare (a : Args) (s : Scene α σ) : Reply α σ :=
  let read : Args.Read (String × Int × Int × α) := do
    let actor ← a.get 1 "actor"
    let width ← a.int 2 "width"
    let height ← a.int 3 "height"
    let pause ← a.optFloat 4 "pause" 0
    return (actor, width, height, pause)
  s.reading read fun (token, width, height, pause) =>
    s.withActor token fun h actor =>
      let s := s.putActor h { actor with scripted := true }
      ((s.onEvent (·.addPath (.square h width height pause))).advance 1).done

/-- Puts an actor on another tile at once: `warp <actor> <x> <y> [continue]`. -/
def warp (a : Args) (s : Scene α σ) : Reply α σ :=
  let read : Args.Read (String × Tile) := do
    let actor ← a.get 1 "actor"
    let tile ← a.point 2 "tile"
    return (actor, tile)
  s.reading read fun (token, tile) =>
    s.withActor token fun h actor =>
      let s := s.putActor h (actor.setTile tile s.settings.tileSize).halt
      let s := { s with barrier := s.barrier.remove h }
      (s.advanceChained (a.wantsContinue 4)).done

/-- Shifts an actor by pixels: `positionOffset <actor> <dx> <dy> [continue]`. -/
def positionOffset (a : Args) (s : Scene α σ) : Reply α σ :=
  let read : Args.Read (String × Vec α) := do
    let actor ← a.get 1 "actor"
    let offset ← a.vector 2 "offset"
    return (actor, offset)
  s.reading read fun (token, offset) =>
    s.withActor token fun h actor =>
      let s := s.putActor h { actor with position := actor.position + offset }
      (s.advanceChained (a.wantsContinue 4)).done

/-- Sets how fast an actor walks until it lands a move: `speed <actor> <pixelsPerTick>`. -/
def speed (a : Args) (s : Scene α σ) : Reply α σ :=
  let read : Args.Read (String × α) := do
    let actor ← a.get 1 "actor"
    let speed : α ← a.float 2 "speed"
    if speed ≤ 0 then throw (.invalid 2 "speed" (Scalar.text speed) .positiveSpeed)
    return (actor, speed)
  s.reading read fun (token, speed) =>
    s.withActor token fun h actor =>
      ((s.putActor h { actor with speedOverride := some speed }).advance 1).done

/-- Stops everybody where they stand and drops all targets: `halt`. -/
def halt (_ : Args) (s : Scene α σ) : Reply α σ :=
  let s := { s with
    cast := s.cast.haltAll
    barrier := .closed
    flags := { s.flags with continueAfterMove := false } }
  (s.advance 1).done

end Commands

end Cutscene
