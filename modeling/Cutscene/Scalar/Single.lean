import Cutscene.Scalar.Basic

/-!
Thirty-two-bit floating point as the numbers of the stage.
-/

namespace Cutscene

namespace BinaryFormat

variable (f : BinaryFormat)

/-- The integer nearest to a pattern's number, halves away from zero, held between `lo` and `hi`;
zero for a pattern that is no number. -/
def toInt (lo hi : Int) (bits : Nat) : Int :=
  let magnitude := bits % f.signBit
  let sign : Int := if f.signBit ≤ bits then -1 else 1
  if f.infinity < magnitude then 0
  else if magnitude = f.infinity then (if sign < 0 then lo else hi)
  else
    let (m, q) := f.decode magnitude
    let whole : Nat :=
      if 0 ≤ q then m * Nat.pow 2 q.toNat
      else (2 * m + Nat.pow 2 (-q).toNat) / (2 * Nat.pow 2 (-q).toNat)
    max lo (min hi (sign * whole))

end BinaryFormat

namespace Single

/-- The number with a pattern of bits. -/
def ofPattern (bits : Nat) : Float32 := Float32.ofBits (UInt32.ofNat bits)

/-- The pattern of a number. -/
def pattern (x : Float32) : Nat := x.toBits.toNat

/-- Neither infinite nor undefined. -/
def isFinite (x : Float32) : Bool := BinaryFormat.single.isFinite (pattern x)

/-- The number nearest to a decimal; infinite beyond the range. -/
def ofDecimal (d : Decimal) : Float32 := ofPattern (BinaryFormat.single.ofDecimal d)

/-- The number that a text denotes. -/
def ofText : RealText → Float32
  | .finite d => ofDecimal d
  | .infinite false => ofPattern BinaryFormat.single.infinity
  | .infinite true => ofPattern (BinaryFormat.single.signBit + BinaryFormat.single.infinity)
  | .undefined => ofPattern (BinaryFormat.single.infinity + 0x400000)

/-- The text of a number in a layout. -/
def write (l : RealLayout) (x : Float32) : String := l.write .single (pattern x)

end Single

instance : Scalar Float32 where
  zero := Single.ofPattern 0
  decLt := fun a b => inferInstanceAs (Decidable (a < b))
  decLe := fun a b => inferInstanceAs (Decidable (a ≤ b))
  abs := Float32.abs
  ofInt := Float32.ofInt
  round := fun x => BinaryFormat.single.toInt (-0x80000000) 0x7fffffff (Single.pattern x)
  tolerance := Single.ofPattern 0x34000000
  ofDecimal? := fun d =>
    let x := Single.ofDecimal d
    if Single.isFinite x then some x else none
  text := Single.write .plain

end Cutscene
