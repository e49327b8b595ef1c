import Cutscene.Decimal.Layout

/-!
The numbers in which positions, speeds and durations are measured. Everything that moves or counts
down is written over this class: it runs on thirty-two-bit floating point and can be reasoned
about in exact arithmetic.
-/

namespace Cutscene

/-- What the staging of an event asks of its numbers. -/
class Scalar (α : Type) extends Add α, Sub α, LT α, LE α, Zero α where
  decLt : ∀ a b : α, Decidable (a < b)
  decLe : ∀ a b : α, Decidable (a ≤ b)
  /-- The distance from zero. -/
  abs : α → α
  /-- The number nearest to an integer. -/
  ofInt : Int → α
  /-- The integer nearest to a number; a half goes away from zero. -/
  round : α → Int
  /-- A distance too small to walk. -/
  tolerance : α
  /-- The finite number nearest to a decimal, unless it is out of range. -/
  ofDecimal? : Decimal → Option α
  /-- The number written by position. -/
  text : α → String

namespace Scalar

variable {α : Type} [Scalar α]

instance (a b : α) : Decidable (a < b) := decLt a b

instance (a b : α) : Decidable (a ≤ b) := decLe a b

/-- The smaller of two numbers, the first if they do not compare. -/
def least (a b : α) : α := if b < a then b else a

/-- The number, held between two others. -/
def clamp (lo hi a : α) : α := if a < lo then lo else if hi < a then hi else a

end Scalar

end Cutscene
