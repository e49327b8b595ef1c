import Cutscene.Decimal.Basic

/-!
Binary floating-point formats: how a real number rounds to one, and which number a bit pattern
stands for. A finite pattern is a significand and a power of two.
-/

namespace Cutscene

/-- The layout of a binary format: bits of the fraction and bits of the exponent. -/
structure BinaryFormat where
  fractionBits : Nat
  exponentBits : Nat
  deriving DecidableEq, Repr

namespace BinaryFormat

/-- Thirty-two bits. -/
def single : BinaryFormat := ⟨23, 8⟩

/-- Sixty-four bits. -/
def double : BinaryFormat := ⟨52, 11⟩

variable (f : BinaryFormat)

/-- The power of two of the last place of the smallest numbers. -/
def lowest : Int := 2 - Nat.pow 2 (f.exponentBits - 1) - (f.fractionBits : Int)

/-- The pattern of infinity; every finite pattern is below it. -/
def infinity : Nat := (Nat.pow 2 f.exponentBits - 1) * Nat.pow 2 f.fractionBits

/-- The bit that holds the sign. -/
def signBit : Nat := Nat.pow 2 (f.fractionBits + f.exponentBits)

/-- The significand and the power of two of an unsigned finite pattern. -/
def decode (bits : Nat) : Nat × Int :=
  let fraction := bits % Nat.pow 2 f.fractionBits
  let biased := bits / Nat.pow 2 f.fractionBits
  if biased = 0 then (fraction, f.lowest)
  else (fraction + Nat.pow 2 f.fractionBits, f.lowest + (biased : Int) - 1)

/-- The whole number nearest to a quotient; of two the even one. -/
def nearest (num den : Nat) : Nat :=
  let q := num / den
  let twice := 2 * (num % den)
  if twice < den then q
  else if den < twice then q + 1
  else q + q % 2

/-- The quotient with a power of two taken out. -/
def scaled (num den : Nat) (power : Int) : Nat × Nat :=
  if 0 ≤ power then (num, den * Nat.pow 2 power.toNat) else (num * Nat.pow 2 (-power).toNat, den)

/-- The unsigned pattern nearest to a quotient, ties to even; infinity from halfway past the
largest finite number on. -/
def ofQuotient (num den : Nat) : Nat :=
  let guess : Int := (num.log2 : Int) - (den.log2 : Int) - 1 - f.fractionBits
  let coarse := max f.lowest guess
  let (n, d) := scaled num den coarse
  let power := if Nat.pow 2 (f.fractionBits + 1) ≤ n / d then coarse + 1 else coarse
  let (n, d) := scaled num den power
  min f.infinity ((power - f.lowest).toNat * Nat.pow 2 f.fractionBits + nearest n d)

/-- The pattern nearest to a decimal number. Exponents far outside the format are cut short. -/
def ofDecimal (x : Decimal) : Nat :=
  let size : Int := (Numeral.digits x.digits).length + x.exponent
  let magnitude :=
    if x.digits = 0 ∨ size < -400 then 0
    else if 400 < size then f.infinity
    else if 0 ≤ x.exponent then f.ofQuotient (x.digits * Nat.pow 10 x.exponent.toNat) 1
    else f.ofQuotient x.digits (Nat.pow 10 (-x.exponent).toNat)
  if x.negative then f.signBit + magnitude else magnitude

/-- The pattern in another format that is nearest to the number of a pattern. Infinity and what is
no number stay so. -/
def convert (target : BinaryFormat) (bits : Nat) : Nat :=
  let magnitude := bits % f.signBit
  let converted :=
    if f.infinity < magnitude then target.infinity + Nat.pow 2 (target.fractionBits - 1)
    else if magnitude = f.infinity then target.infinity
    else if magnitude = 0 then 0
    else
      let (m, q) := f.decode magnitude
      if 0 ≤ q then target.ofQuotient (m * Nat.pow 2 q.toNat) 1
      else target.ofQuotient m (Nat.pow 2 (-q).toNat)
  if f.signBit ≤ bits then target.signBit + converted else converted

/-- The pattern is below infinity once its sign is dropped. -/
def isFinite (bits : Nat) : Bool := bits % f.signBit < f.infinity

example : single.ofDecimal ⟨false, 1, -1⟩ = 0x3dcccccd := by decide +kernel
example : single.ofDecimal ⟨false, 16777217, 0⟩ = 0x4b800000 := by decide +kernel
example : single.convert double 0x3dcccccd = 0x3fb99999a0000000 ∧
    double.convert single 0x3fb999999999999a = 0x3dcccccd := by decide +kernel
example : single.ofDecimal ⟨true, 1, 39⟩ = single.signBit + single.infinity := by decide +kernel

end BinaryFormat

end Cutscene
