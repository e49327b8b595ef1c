import Cutscene.Actor.Animation
import Cutscene.Actor.Kind
import Cutscene.Geometry
import Cutscene.Settings

/-!
Actors: everything on the stage that a script can name, move and animate.
-/

namespace Cutscene

/-- The pixel of the upper left corner of a tile. -/
def tileOrigin {α : Type} [Scalar α] (size : Int) (t : Tile) : Vec α :=
  ⟨Scalar.ofInt (t.x * size), Scalar.ofInt (t.y * size)⟩

/-- One actor. -/
structure Actor (α : Type) where
  name : String
  kind : ActorKind
  /-- The upper left pixel of the cell in which it stands. -/
  position : Vec α
  facing : Direction
  frame : Nat
  flipped : Bool
  animation : Option (Animation α)
  emote : Option (Countdown α)
  jump : Option (Countdown α)
  shake : Option (Countdown α)
  /-- A speed that a script has set in place of the usual one. -/
  speedOverride : Option α
  /-- A script is moving it. -/
  scripted : Bool
  walking : Bool
  deriving DecidableEq, Repr

namespace Actor

variable {α : Type} [Scalar α]

/-- An actor that stands on a tile. -/
def place (name : String) (kind : ActorKind) (tile : Tile) (facing : Direction) (size : Int) :
    Actor α where
  name := name
  kind := kind
  position := tileOrigin size tile
  facing := facing
  frame := 0
  flipped := false
  animation := none
  emote := none
  jump := none
  shake := none
  speedOverride := none
  scripted := false
  walking := false

/-- The avatar of a player. -/
def avatar (number : Nat) (tile : Tile) (facing : Direction) (size : Int) : Actor α :=
  place ("farmer" ++ Numeral.ofNat number) (.avatar number) tile facing size

/-- The box that collides: three quarters of a tile wide, half a tile high, low in the cell. -/
def box (a : Actor α) (size : Int) : Rect where
  x := Scalar.round a.position.x + size.tdiv 8
  y := Scalar.round a.position.y + size.tdiv 4
  width := (size * 3).tdiv 4
  height := size.tdiv 2

/-- The tile under the middle of the box. -/
def tile (a : Actor α) (size : Int) : Tile :=
  let b := a.box size
  ⟨(b.x + b.width.tdiv 2) / size, (b.y + b.height.tdiv 2) / size⟩

def setTile (a : Actor α) (tile : Tile) (size : Int) : Actor α :=
  { a with position := tileOrigin size tile }

def face (a : Actor α) (d : Direction) : Actor α := { a with facing := d }

/-- Stops walking and any animation. -/
def halt (a : Actor α) : Actor α := { a with walking := false, animation := none }

/-- Drops what a script has set about its motion. -/
def clearOverrides (a : Actor α) : Actor α := { a with speedOverride := none, scripted := false }

/-- Pixels that it walks in one tick. -/
def speed (a : Actor α) (s : Settings α) : α :=
  a.speedOverride.getD (if a.kind.isAvatar then s.farmerSpeed else s.npcSpeed)

/-- Walks one step towards a point, first along the row and then along the column. The answer is
true when it was there already. -/
def stepToward (a : Actor α) (target : Vec α) (speed : α) : Actor α × Bool :=
  let dx := target.x - a.position.x
  let dy := target.y - a.position.y
  if Scalar.tolerance < Scalar.abs dx then
    let step := Scalar.least (Scalar.abs dx) speed
    if 0 < dx then
      ({ a with walking := true, facing := .right,
                position := ⟨a.position.x + step, a.position.y⟩ }, false)
    else
      ({ a with walking := true, facing := .left,
                position := ⟨a.position.x - step, a.position.y⟩ }, false)
  else if Scalar.tolerance < Scalar.abs dy then
    let step := Scalar.least (Scalar.abs dy) speed
    if 0 < dy then
      ({ a with walking := true, facing := .down,
                position := ⟨a.position.x, a.position.y + step⟩ }, false)
    else
      ({ a with walking := true, facing := .up,
                position := ⟨a.position.x, a.position.y - step⟩ }, false)
  else ({ a with walking := false }, true)

/-- The sprite after some time: a running animation shows its frame, one that is over leaves its
last frame behind. -/
def animate (a : Actor α) (elapsed : α) : Actor α :=
  match a.animation with
  | none => a
  | some running =>
    match running.advance elapsed with
    | some later => { a with animation := some later, frame := later.current?.getD a.frame }
    | none => { a with animation := none, frame := running.frames.getLast?.getD a.frame }

/-- The sprite and the countdowns after some time. -/
def update (a : Actor α) (elapsed : α) : Actor α :=
  let a := a.animate elapsed
  { a with
    emote := a.emote.bind (·.tick elapsed)
    jump := a.jump.bind (·.tick elapsed)
    shake := a.shake.bind (·.tick elapsed) }

end Actor

end Cutscene
