import Cutscene.Scalar.Basic

/-!
Fractions as the numbers of the stage. Nothing is lost in them, so actors end exactly where their
steps add up to.
-/

namespace Cutscene

namespace Exact

/-- The integer nearest to a fraction; a half goes away from zero. -/
def round (x : Rat) : Int := if x < 0 then -(1 / 2 - x).floor else (x + 1 / 2).floor

/-- The value of a decimal. -/
def ofDecimal (d : Decimal) : Rat :=
  let size : Rat :=
    if 0 ≤ d.exponent then (d.digits * Nat.pow 10 d.exponent.toNat : Nat)
    else (d.digits : Rat) / (Nat.pow 10 (-d.exponent).toNat : Nat)
  if d.negative then -size else size

/-- The digits behind the point of a proper fraction, so many at most. -/
def places : Nat → Nat → Nat → List Char
  | 0, _, _ => []
  | k + 1, n, d =>
    if n = 0 then [] else Numeral.digitChar (10 * n / d) :: places k (10 * n % d) d

/-- A fraction by position, cut off behind the fortieth place. -/
def write (x : Rat) : String :=
  let size := x.num.natAbs
  let whole := (if x < 0 then "-" else "") ++ Numeral.ofNat (size / x.den)
  match places 40 (size % x.den) x.den with
  | [] => whole
  | digits => whole ++ "." ++ String.ofList digits

example : round (5 / 2) = 3 ∧ round (-5 / 2) = -3 ∧ round (-7 / 3) = -2 := by decide +kernel
example : write (ofDecimal ⟨true, 1205, -2⟩) = "-12.05" := by decide +kernel

end Exact

/-- The tolerance is that of thirty-two-bit floating point. -/
instance : Scalar Rat where
  zero := 0
  decLt := fun a b => inferInstanceAs (Decidable (a < b))
  decLe := fun a b => inferInstanceAs (Decidable (a ≤ b))
  abs := fun x => if x < 0 then -x else x
  ofInt := fun n => n
  round := Exact.round
  tolerance := 1 / 0x800000
  ofDecimal? := fun d => some (Exact.ofDecimal d)
  text := Exact.write

end Cutscene
