/-!
Letter case. Only the twenty-six letters of ASCII have a case here; every other character stands
for itself.
-/

namespace Cutscene.Text

/-- The text with its ASCII capitals made small. -/
def lower (s : String) : String := String.ofList (s.toList.map Char.toLower)

/-- The two texts differ at most in the case of ASCII letters. -/
def alike (a b : String) : Bool := lower a == lower b

@[simp] theorem alike_self (a : String) : alike a a := by simp [alike]

theorem alike_iff {a b : String} : alike a b ↔ lower a = lower b := by simp [alike]

example : alike "FarmER" "fARMer" ∧ ¬ alike "É" "é" := by decide +kernel

end Cutscene.Text
