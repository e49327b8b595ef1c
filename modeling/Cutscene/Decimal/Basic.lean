import Cutscene.Text.Numeral

/-!
Decimal numbers as they are written: a sign, a whole number of digits and a power of ten. Reading
keeps the value exactly; what a machine number makes of it is decided elsewhere.
-/

namespace Cutscene

/-- The number `±digits · 10 ^ exponent`. -/
structure Decimal where
  negative : Bool
  digits : Nat
  exponent : Int
  deriving DecidableEq, Repr

/-- What a text of a real number denotes. -/
inductive RealText where
  | finite (value : Decimal)
  | infinite (negative : Bool)
  | undefined
  deriving DecidableEq, Repr

namespace RealText

open Numeral

/-- The leading decimal digits of a text, and the rest. -/
def spanDigits (cs : List Char) : List Char × List Char :=
  cs.span fun c => (digit? c).isSome

/-- The power of ten that ends a number: nothing, or `e` and a signed numeral. -/
def exponent? : List Char → Option Int
  | [] => some 0
  | c :: rest =>
    if c = 'e' ∨ c = 'E' then
      match rest with
      | '-' :: ds => (digits? ds).map fun n => -(n : Int)
      | '+' :: ds => (digits? ds).map fun n => (n : Int)
      | ds => (digits? ds).map fun n => (n : Int)
    else none

/-- Digits with an optional point, at least one of them, and an optional power of ten. -/
def unsigned? (negative : Bool) (cs : List Char) : Option Decimal :=
  let (whole, rest) := spanDigits cs
  let (fraction, rest) := match rest with
    | '.' :: more => spanDigits more
    | _ => ([], rest)
  match digits? (whole ++ fraction), exponent? rest with
  | some n, some e => some ⟨negative, n, e - (fraction.length : Int)⟩
  | _, _ => none

/-- The words for what is not finite, in any letter case. -/
def word? (negative : Bool) (cs : List Char) : Option RealText :=
  let word := cs.map Char.toLower
  if word = "inf".toList ∨ word = "infinity".toList then some (.infinite negative)
  else if word = "nan".toList then some .undefined
  else none

/-- Reads a real number: an optional sign, then a word or an unsigned number. -/
def read? (s : String) : Option RealText :=
  let (negative, cs) := match s.toList with
    | '-' :: rest => (true, rest)
    | '+' :: rest => (false, rest)
    | cs => (false, cs)
  match word? negative cs with
  | some value => some value
  | none => (unsigned? negative cs).map .finite

example : read? "-1.5e3" = some (.finite ⟨true, 15, 2⟩) := by decide +kernel
example : read? ".5" = some (.finite ⟨false, 5, -1⟩) ∧ read? "." = none ∧ read? "1e" = none := by
  decide +kernel

end RealText

end Cutscene
