import Cutscene.Scalar.Basic

/-!
The numbers that tune the staging of events. A setting that is not named keeps its usual value.
-/

namespace Cutscene

/-- Sizes, speeds and durations. -/
structure Settings (α : Type) where
  /-- Pixels of a tile. -/
  tileSize : Int
  /-- Pixels that a scripted actor walks in one tick. -/
  npcSpeed : α
  /-- Pixels that a scripted player walks in one tick. -/
  farmerSpeed : α
  /-- Pixels by which the target tile is widened when arrival is tested. -/
  arrivalSlop : Int
  /-- The number of header commands. -/
  headerLength : Nat
  /-- A command that begins with this mark is a comment, unless the mark is empty. -/
  commentMarker : String
  emoteTime : α
  /-- The speed of a fade that names none. -/
  fadeSpeed : α
  jumpTime : α
  deriving DecidableEq, Repr

namespace Settings

variable {α : Type} [Scalar α]

/-- The usual settings. -/
def standard : Settings α where
  tileSize := 64
  npcSpeed := Scalar.ofInt 2
  farmerSpeed := Scalar.ofInt 3
  arrivalSlop := 4
  headerLength := 3
  commentMarker := "--"
  emoteTime := Scalar.ofInt 640
  fadeSpeed := (Scalar.ofDecimal? ⟨false, 7, -3⟩).getD 0
  jumpTime := Scalar.ofInt 400

/-- The command is a comment. -/
def isComment (s : Settings α) (command : String) : Bool :=
  let mark := s.commentMarker.toList
  !mark.isEmpty && mark.isPrefixOf command.toList

end Settings

end Cutscene
