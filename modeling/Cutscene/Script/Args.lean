import Cutscene.Geometry
import Cutscene.Text.Cut

/-!
Typed reading of the tokens of a command. Token 0 is the name of the command, so its first
argument is token 1. A read names the field it wants, and a failed read names the first token
that is absent or malformed.
-/

namespace Cutscene

/-- What a token was expected to be. -/
inductive Expected where
  | integer
  | number
  | boolean
  | direction
  | color
  | forkTag
  | frameNumber
  | positiveSpeed
  | actorKind
  | endBehavior
  deriving DecidableEq, Repr

/-- What was expected, in words. -/
def Expected.text : Expected → String
  | integer => "an integer"
  | number => "a finite number"
  | boolean => "a boolean (true/false)"
  | direction => "a direction (up/down/left/right or 0-3)"
  | color => "a color name"
  | forkTag => "forkN or null"
  | frameNumber => "a non-negative frame number"
  | positiveSpeed => "a positive speed"
  | actorKind => "npc, pet, monster, or prop"
  | endBehavior => "warpOut, newDay, position, dialogue, or invisible"

/-- Why an argument could not be read. -/
inductive ArgError where
  /-- The list ends before the token; `last` is its greatest index. -/
  | missing (index : Nat) (field : String) (last : Nat)
  /-- The token is there and is not what it should be. -/
  | invalid (index : Nat) (field : String) (value : String) (expected : Expected)
  deriving DecidableEq, Repr

namespace ArgError

/-- The position of the token at fault. -/
def index : ArgError → Nat
  | missing i _ _ => i
  | invalid i _ _ _ => i

/-- The error in words. -/
def message : ArgError → String
  | missing i field last =>
    s!"required index {i} ({field}) not found (list has indexes 0 through {last})"
  | invalid i field value expected =>
    s!"required index {i} ({field}) has value '{value}', which can't be parsed as {expected.text}"

end ArgError

/-- The tokens of a command, read by position. -/
structure Args where
  tokens : List String
  deriving DecidableEq, Repr

namespace Args

/-- The outcome of a read. -/
abbrev Read (β : Type) := Except ArgError β

variable (a : Args)

/-- The number of tokens. -/
def size : Nat := a.tokens.length

/-- The name of the command, empty if there is no token. -/
def name : String := a.tokens.headD ""

/-- The tokens from an index on. -/
def rest (index : Nat) : List String := a.tokens.drop index

/-- The token at an index, if there is one. -/
def get? (index : Nat) : Option String := a.tokens[index]?

/-- The token at an index. -/
def get (index : Nat) (field : String) : Read String :=
  match a.get? index with
  | some token => .ok token
  | none => .error (.missing index field (a.size - 1))

/-- The token at an index, understood by a reader. -/
def parsed {β : Type} (index : Nat) (field : String) (expected : Expected)
    (reader : String → Option β) : Read β := do
  let token ← a.get index field
  match reader token with
  | some value => .ok value
  | none => .error (.invalid index field token expected)

/-- A read that yields a default where the token is absent; a malformed token is still an error. -/
def orDefault {β : Type} (index : Nat) (default : β) (read : Read β) : Read β :=
  match a.get? index with
  | none => .ok default
  | some _ => read

/-- A token of thirty-two bits. -/
def int (index : Nat) (field : String) : Read Int :=
  a.parsed index field .integer Numeral.int32?

def optInt (index : Nat) (field : String) (default : Int) : Read Int :=
  a.orDefault index default (a.int index field)

/-- The finite number that a token denotes. -/
def finite? {α : Type} [Scalar α] (token : String) : Option α :=
  match RealText.read? token with
  | some (.finite d) => Scalar.ofDecimal? d
  | _ => none

/-- A finite number. -/
def float {α : Type} [Scalar α] (index : Nat) (field : String) : Read α :=
  a.parsed index field .number finite?

def optFloat {α : Type} [Scalar α] (index : Nat) (field : String) (default : α) : Read α :=
  a.orDefault index default (a.float index field)

/-- The words for true and false, in any letter case. -/
def bool? (token : String) : Option Bool :=
  if Text.alike token "true" then some true
  else if Text.alike token "false" then some false
  else none

def bool (index : Nat) (field : String) : Read Bool :=
  a.parsed index field .boolean bool?

def optBool (index : Nat) (field : String) (default : Bool) : Read Bool :=
  a.orDefault index default (a.bool index field)

/-- Two integers, one after the other. -/
def point (index : Nat) (field : String) : Read Tile := do
  let x ← a.int index s!"{field} X"
  let y ← a.int (index + 1) s!"{field} Y"
  return ⟨x, y⟩

/-- Two numbers, one after the other. -/
def vector {α : Type} [Scalar α] (index : Nat) (field : String) : Read (Vec α) := do
  let x ← a.float index s!"{field} X"
  let y ← a.float (index + 1) s!"{field} Y"
  return ⟨x, y⟩

def direction (index : Nat) (field : String) : Read Direction :=
  a.parsed index field .direction Direction.ofToken?

/-- Four integers: the corner, the width and the height. -/
def rect (index : Nat) (field : String) : Read Rect := do
  let x ← a.int index s!"{field} X"
  let y ← a.int (index + 1) s!"{field} Y"
  let width ← a.int (index + 2) s!"{field} width"
  let height ← a.int (index + 3) s!"{field} height"
  return ⟨x, y, width, height⟩

def color (index : Nat) (field : String) : Read Color :=
  a.parsed index field .color Color.ofName?

/-- All tokens from an index on, with single spaces between them; there must be one. -/
def remainder (index : Nat) (field : String) : Read String := do
  let _ ← a.get index field
  return Text.spaced (a.rest index)

end Args

end Cutscene
