/-!
Hexadecimal digits.
-/

namespace Cutscene.Text

/-- The value of a hexadecimal digit of either case. -/
def hexDigit? (c : Char) : Option Nat :=
  if '0' ≤ c ∧ c ≤ '9' then some (c.toNat - '0'.toNat)
  else if 'a' ≤ c ∧ c ≤ 'f' then some (c.toNat - 'a'.toNat + 10)
  else if 'A' ≤ c ∧ c ≤ 'F' then some (c.toNat - 'A'.toNat + 10)
  else none

/-- The number that digits of a base below sixteen stand for. -/
def inBase? (base : Nat) (cs : List Char) : Option Nat :=
  cs.foldlM (fun n c => ((hexDigit? c).filter (· < base)).map (n * base + ·)) 0

/-- The number that hexadecimal digits stand for. -/
def hex? (cs : List Char) : Option Nat := inBase? 16 cs

/-- The character with a code point; none for half of a pair and beyond the last. -/
def codePoint? (n : Nat) : Option Char :=
  if n.isValidChar then some (Char.ofNat n) else none

/-- The digit of a number below sixteen, in small letters. -/
def hexChar (n : Nat) : Char :=
  if n < 10 then Char.ofNat ('0'.toNat + n) else Char.ofNat ('a'.toNat + n - 10)

theorem hexDigit?_hexChar {n : Nat} (h : n < 16) : hexDigit? (hexChar n) = some n := by
  have : ∀ d : Fin 16, hexDigit? (hexChar d) = some (d : Nat) := by decide
  exact this ⟨n, h⟩

example : hex? "1fF".toList = some 0x1ff ∧ inBase? 8 "78".toList = none := by decide +kernel

end Cutscene.Text
