import Cutscene.Scalar.Basic
import Cutscene.Text.Letter

/-!
Directions, tiles, points, rectangles and colours. Scripts count in whole tiles, actors move in
pixels, and a rectangle is of either kind.
-/

namespace Cutscene

/-- The four ways an actor can face, numbered clockwise from up. -/
inductive Direction where
  | up
  | right
  | down
  | left
  deriving DecidableEq, Repr, Inhabited

namespace Direction

/-- A direction by its name in any letter case, or by its number. -/
def ofToken? (token : String) : Option Direction :=
  let t := Text.lower token
  if t = "0" ∨ t = "up" then some .up
  else if t = "1" ∨ t = "right" then some .right
  else if t = "2" ∨ t = "down" then some .down
  else if t = "3" ∨ t = "left" then some .left
  else none

/-- The name of a direction. -/
def text : Direction → String
  | up => "up"
  | right => "right"
  | down => "down"
  | left => "left"

theorem ofToken?_text (d : Direction) : ofToken? d.text = some d := by
  cases d <;> decide +kernel

end Direction

/-- A tile of the stage. -/
structure Tile where
  x : Int
  y : Int
  deriving DecidableEq, Repr, Inhabited

namespace Tile

instance : Add Tile := ⟨fun a b => ⟨a.x + b.x, a.y + b.y⟩⟩

@[simp] theorem add_x (a b : Tile) : (a + b).x = a.x + b.x := rfl
@[simp] theorem add_y (a b : Tile) : (a + b).y = a.y + b.y := rfl

/-- A tile as it is shown to people. -/
def text (t : Tile) : String := s!"({Numeral.ofInt t.x}, {Numeral.ofInt t.y})"

end Tile

/-- A point, or a step between points, in pixels. -/
structure Vec (α : Type) where
  x : α
  y : α
  deriving DecidableEq, Repr

instance {α : Type} [Add α] : Add (Vec α) := ⟨fun a b => ⟨a.x + b.x, a.y + b.y⟩⟩

/-- A rectangle with sides along the axes. -/
structure Rect where
  x : Int
  y : Int
  width : Int
  height : Int
  deriving DecidableEq, Repr

namespace Rect

def left (r : Rect) : Int := r.x
def right (r : Rect) : Int := r.x + r.width
def top (r : Rect) : Int := r.y
def bottom (r : Rect) : Int := r.y + r.height

/-- The rectangle with every side moved outwards; inwards for negative amounts. -/
def inflate (r : Rect) (horizontal vertical : Int) : Rect :=
  ⟨r.x - horizontal, r.y - vertical, r.width + horizontal * 2, r.height + vertical * 2⟩

/-- The second rectangle lies within the first; edges may touch. -/
def contains (outer inner : Rect) : Bool :=
  outer.left ≤ inner.left && inner.right ≤ outer.right && outer.top ≤ inner.top &&
    inner.bottom ≤ outer.bottom

end Rect

/-- A colour with its opacity, each part from 0 to 255. -/
structure Color where
  r : Nat
  g : Nat
  b : Nat
  a : Nat
  deriving DecidableEq, Repr

namespace Color

/-- An opaque colour. -/
def rgb (r g b : Nat) : Color := ⟨r, g, b, 255⟩

/-- The colours that have a name. -/
def named : List (String × Color) :=
  [("black", rgb 0 0 0), ("white", rgb 255 255 255), ("red", rgb 255 0 0),
   ("green", rgb 0 128 0), ("lime", rgb 0 255 0), ("blue", rgb 0 0 255),
   ("yellow", rgb 255 255 0), ("orange", rgb 255 165 0), ("purple", rgb 128 0 128),
   ("pink", rgb 255 192 203), ("gray", rgb 128 128 128), ("grey", rgb 128 128 128),
   ("brown", rgb 165 42 42), ("cyan", rgb 0 255 255), ("gold", rgb 255 215 0),
   ("transparent", ⟨0, 0, 0, 0⟩)]

/-- A colour by its name in any letter case. -/
def ofName? (name : String) : Option Color := named.lookup (Text.lower name)

end Color

end Cutscene
