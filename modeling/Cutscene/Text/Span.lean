/-!
Classes of characters given by spans of code points.
-/

namespace Cutscene.Text

/-- The code points from the first number to the second, both included. -/
abbrev Span := Nat × Nat

/-- The character is in one of the spans. -/
def inSpans (spans : List Span) (c : Char) : Bool :=
  spans.any fun s => s.1 ≤ c.toNat && c.toNat ≤ s.2

end Cutscene.Text
