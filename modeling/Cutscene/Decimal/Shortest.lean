import Cutscene.Decimal.Binary

/-!
The shortest decimal of a binary number: the fewest digits that round back to it, and of those the
digits nearest to it.
-/

namespace Cutscene.BinaryFormat

/-- A positive binary number and the reals that round to it, all over one denominator. -/
structure Neighbourhood where
  value : Nat
  low : Nat
  high : Nat
  den : Nat
  closed : Bool
  deriving Repr

variable (f : BinaryFormat)

/-- The reals halfway to the two neighbours of `m · 2 ^ q`. Below a power of two the lower
neighbour is only half as far. The ends belong to the number when its significand is even. -/
def neighbourhood (m : Nat) (q : Int) : Neighbourhood :=
  let (unit, den) : Nat × Nat := if 0 ≤ q then (Nat.pow 2 q.toNat, 1) else (1, Nat.pow 2 (-q).toNat)
  let below := if m = Nat.pow 2 f.fractionBits ∧ f.lowest < q then 1 else 2
  { value := 4 * m * unit
    low := (4 * m - below) * unit
    high := (4 * m + 2) * unit
    den := 4 * den
    closed := m % 2 = 0 }

/-- The places of a number below one that are zero after the point. -/
def zerosAfterPoint (num den : Nat) : Nat → Nat
  | 0 => 0
  | fuel + 1 => if den ≤ num * 10 then 0 else 1 + zerosAfterPoint (num * 10) den fuel

/-- The place of the leading digit: `10 ^ (k - 1) ≤ num / den < 10 ^ k`. -/
def leadingPlace (num den : Nat) : Int :=
  if den ≤ num then (Numeral.digits (num / den)).length
  else -(zerosAfterPoint num den 400 : Int)

/-- The decimal `d · 10 ^ e` rounds to the number. -/
def Neighbourhood.holds (b : Neighbourhood) (d : Nat) (e : Int) : Bool :=
  let (x, y) : Nat × Nat :=
    if 0 ≤ e then (d * Nat.pow 10 e.toNat * b.den, 1) else (d * b.den, Nat.pow 10 (-e).toNat)
  if b.closed then b.low * y ≤ x && x ≤ b.high * y else b.low * y < x && x < b.high * y

/-- Which of two equally near decimals is taken. -/
inductive Tie where
  | up
  | even
  deriving DecidableEq, Repr

/-- The multiples of `10 ^ e` on either side of the number: the nearer one that rounds back. -/
def Neighbourhood.onGrid? (b : Neighbourhood) (tie : Tie) (e : Int) : Option Nat :=
  let (x, y) : Nat × Nat :=
    if 0 ≤ e then (b.value, b.den * Nat.pow 10 e.toNat)
    else (b.value * Nat.pow 10 (-e).toNat, b.den)
  let d := x / y
  match b.holds d e, b.holds (d + 1) e with
  | true, true =>
    let stays := 2 * (x % y) < y ∨ (2 * (x % y) = y ∧ tie = .even ∧ d % 2 = 0)
    if stays then some d else some (d + 1)
  | true, false => some d
  | false, true => some (d + 1)
  | false, false => none

/-- Tries one more digit at a time. -/
def Neighbourhood.search (b : Neighbourhood) (tie : Tie) (place : Int) : Nat → Nat → Nat × Int
  | _, 0 => (0, 0)
  | count, fuel + 1 =>
    match b.onGrid? tie (place - count) with
    | some d => (d, place - count)
    | none => b.search tie place (count + 1) fuel

/-- Drops zeros at the end of the digits. -/
def dropZeros (d : Nat) (e : Int) : Nat → Nat × Int
  | 0 => (d, e)
  | fuel + 1 => if d ≠ 0 ∧ d % 10 = 0 then dropZeros (d / 10) (e + 1) fuel else (d, e)

/-- The shortest digits of an unsigned finite pattern, and the power of ten of the last. -/
def shortest (tie : Tie) (bits : Nat) : Nat × Int :=
  if bits = 0 then (0, 0)
  else
    let (m, q) := f.decode bits
    let b := f.neighbourhood m q
    let (d, e) := b.search tie (leadingPlace b.value b.den) 1 18
    dropZeros d e 20

example : single.shortest .up 0x3dcccccd = (1, -1) ∧ single.shortest .up 1 = (1, -45) := by decide +kernel
example : double.shortest .even 1 = (5, -324) := by decide +kernel

end Cutscene.BinaryFormat
