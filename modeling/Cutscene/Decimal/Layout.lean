import Cutscene.Decimal.Shortest

/-!
How a binary number is laid out as text. A layout decides which numbers are written by position,
the others get a power of ten, and whether a whole number keeps a zero after its point.
-/

namespace Cutscene

/-- The decisions of a layout. The place of a number is `k` where `10 ^ (k - 1) ≤ x < 10 ^ k`. -/
structure RealLayout where
  /-- The least and the greatest place written by position; without it every place is. -/
  positional : Option (Int × Int)
  /-- A whole number ends in `.0`. -/
  keepsPoint : Bool
  /-- The choice between two equally near decimals. -/
  tie : BinaryFormat.Tie
  deriving DecidableEq, Repr

namespace RealLayout

/-- By position at any size, whole numbers without a point. -/
def plain : RealLayout := ⟨none, false, .up⟩

/-- From 0.0001 up to below 10^16 by position, with a point. -/
def debug : RealLayout := ⟨some (-3, 16), true, .up⟩

/-- From 0.00001 up to below 10^16 by position, with a point. -/
def json : RealLayout := ⟨some (-4, 16), true, .even⟩

/-- Digits with the point where their power of ten puts it. -/
def byPosition (keepsPoint : Bool) (ds : List Char) (e : Int) : List Char :=
  if 0 ≤ e then
    ds ++ List.replicate e.toNat '0' ++ (if keepsPoint then ['.', '0'] else [])
  else
    let places := (-e).toNat
    if places < ds.length then
      ds.take (ds.length - places) ++ '.' :: ds.drop (ds.length - places)
    else '0' :: '.' :: (List.replicate (places - ds.length) '0' ++ ds)

/-- One digit, the others after a point, and the power of ten. -/
def byPower (ds : List Char) (place : Int) : List Char :=
  let tail := match ds.drop 1 with
    | [] => []
    | more => '.' :: more
  ds.take 1 ++ tail ++ 'e' :: (Numeral.ofInt (place - 1)).toList

/-- The number `d · 10 ^ e` without its sign. -/
def writeDecimal (l : RealLayout) (d : Nat) (e : Int) : List Char :=
  if d = 0 then byPosition l.keepsPoint ['0'] 0
  else
    let ds := Numeral.digits d
    let place : Int := ds.length + e
    match l.positional with
    | none => byPosition l.keepsPoint ds e
    | some (least, greatest) =>
      if least ≤ place ∧ place ≤ greatest then byPosition l.keepsPoint ds e
      else byPower ds place

/-- The text of a number of a binary format, given by its pattern. -/
def write (l : RealLayout) (f : BinaryFormat) (bits : Nat) : String :=
  let negative := f.signBit ≤ bits
  let magnitude := bits % f.signBit
  if f.infinity < magnitude then "NaN"
  else
    let body :=
      if magnitude = f.infinity then "inf".toList
      else
        let (d, e) := f.shortest l.tie magnitude
        l.writeDecimal d e
    String.ofList (if negative then '-' :: body else body)

example : debug.write .single 0x3be56042 = "0.007" ∧ debug.write .single 0x3f800000 = "1.0" := by
  decide +kernel
example : debug.write .single 0x33d6bf95 = "1e-7" ∧ plain.write .single 0x33d6bf95 = "0.0000001" := by
  decide +kernel

end RealLayout

end Cutscene
