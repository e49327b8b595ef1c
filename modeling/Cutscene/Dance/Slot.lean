import Cutscene.Dance.Dancer
import Cutscene.Text.Word

/-!
The slots of a dance template. A slot is named by a run of word characters that is a role and a
number, such as `Leader1`; inside a longer word it is no name.
-/

namespace Cutscene

/-- A slot as a template names it. -/
structure SlotName where
  role : Role
  digits : List Char
  deriving DecidableEq, Repr

namespace SlotName

/-- The digits that make the name of a slot out of a role. -/
def digitsAfter? (role : Role) (cs : List Char) : Option (List Char) :=
  (Text.after? role.word.toList cs).filter fun ds => !ds.isEmpty && ds.all Text.isDecimal

/-- The slot that a run of characters names. -/
def ofRun? (cs : List Char) : Option SlotName :=
  ((digitsAfter? .leader cs).map (⟨.leader, ·⟩)).or
    ((digitsAfter? .follower cs).map (⟨.follower, ·⟩))

/-- The slot that a whole token names. -/
def ofToken? (token : String) : Option SlotName := ofRun? token.toList

/-- The slots that a text names, from left to right. -/
def allIn (text : String) : List SlotName := (Text.runs text.toList).filterMap ofRun?

/-- The number of a slot, if its digits are a numeral of sixty-four bits. -/
def number? (s : SlotName) : Option Nat := Numeral.nat64? (String.ofList s.digits)

/-- The slot has one of the first pairs, counted from one. -/
def isFilled (filled : Nat) (s : SlotName) : Bool :=
  match s.number? with
  | some n => 1 ≤ n && n ≤ filled
  | none => false

/-- Who dances in a slot. -/
def dancer? (pairs : List DancePair) (s : SlotName) : Option Dancer :=
  match s.number? with
  | some (k + 1) => pairs[k]?.map (·.dancer s.role)
  | _ => none

end SlotName

/-- The greatest number of a slot in a template; zero if it names none. -/
def slotCount (template : List String) : Nat :=
  ((template.flatMap SlotName.allIn).filterMap SlotName.number?).foldl max 0

example : slotCount ["warp Leader12 1 2/x", "preLeader9", "Follower3?"] = 12 := by decide +kernel

end Cutscene
