/-!
Blank characters: the characters with the white-space property, and the two ways a text sheds
them: trimming its ends and taking its first word.
-/

namespace Cutscene.Text

/-- The white-space property, twenty-five characters in all. -/
def isBlank (c : Char) : Bool :=
  let n := c.toNat
  (0x09 ≤ n && n ≤ 0x0D) || n == 0x20 || n == 0x85 || n == 0xA0 || n == 0x1680 ||
    (0x2000 ≤ n && n ≤ 0x200A) || n == 0x2028 || n == 0x2029 || n == 0x202F || n == 0x205F ||
    n == 0x3000

/-- Drops the blank characters in front. -/
def trimFront (cs : List Char) : List Char := cs.dropWhile isBlank

/-- Drops the blank characters at the end. -/
def trimBack (cs : List Char) : List Char := (trimFront cs.reverse).reverse

/-- Drops the blank characters at both ends. -/
def trimChars (cs : List Char) : List Char := trimBack (trimFront cs)

/-- The text without the blank characters at its ends. -/
def trim (s : String) : String := String.ofList (trimChars s.toList)

/-- Nothing but blank characters. -/
def allBlank (s : String) : Bool := s.toList.all isBlank

/-- The first run of characters that are not blank, if there is one. -/
def firstWord? (s : String) : Option String :=
  match (trimFront s.toList).takeWhile (fun c => !isBlank c) with
  | [] => none
  | word => some (String.ofList word)

/-- Every character that core calls white space is blank. -/
theorem isBlank_of_isWhitespace {c : Char} (h : c.isWhitespace) : isBlank c := by
  simp only [Char.isWhitespace, Bool.or_eq_true, decide_eq_true_eq] at h
  rcases h with ((h | h) | h) | h <;> subst h <;> rfl

example : trim " \t a b\u3000\n" = "a b" := by decide +kernel

end Cutscene.Text
