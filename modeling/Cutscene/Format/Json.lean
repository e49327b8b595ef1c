import Cutscene.Decimal.Basic

/-!
The values of the JSON format. A number keeps its decimal value and whether it is written as a
whole number; the members of an object keep their order and may repeat a name.
-/

namespace Cutscene

/-- A JSON value. -/
inductive Json where
  | null
  | bool (value : Bool)
  | number (value : Decimal) (whole : Bool)
  | text (value : String)
  | array (items : List Json)
  | object (members : List (String × Json))
  /-- A text that holds half of a character, or an object with such a name. It may stand where nobody
  reads it. -/
  | unreadable

namespace Json

/-- A natural number. -/
def ofNat (n : Nat) : Json := .number ⟨false, n, 0⟩ true

/-- An integer. -/
def ofInt (n : Int) : Json := .number ⟨decide (n < 0), n.natAbs, 0⟩ true

/-- A value, or null where there is none. -/
def ofOption {β : Type} (encode : β → Json) : Option β → Json
  | some value => encode value
  | none => .null

/-- A list of texts. -/
def ofTexts (ts : List String) : Json := .array (ts.map .text)

/-- The natural number below a bound that a whole number is. A minus sign is refused even before
zero. -/
def natBelow? (bound : Nat) : Json → Option Nat
  | .number ⟨false, n, 0⟩ true => some n |>.filter (· < bound)
  | _ => none

def text? : Json → Option String
  | .text s => some s
  | _ => none

def items? : Json → Option (List Json)
  | .array items => some items
  | _ => none

/-- The members of an object with the given names, in their order. Names that are not among them
are passed over, one that is missing yields nothing, and one that is repeated is refused. Instead
of an object, an array gives the members by position; it must not be too long. -/
def fields? (names : List String) : Json → Option (List (Option Json))
  | .object members =>
    names.mapM fun name =>
      match members.filter fun m => m.1 = name with
      | [] => some none
      | [m] => some (some m.2)
      | _ => none
  | .array items =>
    if items.length ≤ names.length then
      some (items.map some ++ List.replicate (names.length - items.length) none)
    else none
  | _ => none

/-- The name and the content of a choice: an object with one member. -/
def choice? : Json → Option (String × Json)
  | .object [m] => some m
  | _ => none

end Json

end Cutscene
