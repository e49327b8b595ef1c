/-!
Cutting a text into the pieces between marks. A text without a mark is one piece, and joining
the pieces with the mark gives the text back.
-/

namespace Cutscene.Text

/-- Puts a character in front of the first piece. -/
def grow (c : Char) : List (List Char) → List (List Char)
  | [] => [[c]]
  | piece :: rest => (c :: piece) :: rest

/-- The pieces between the occurrences of a character. -/
def cutChars (mark : Char) : List Char → List (List Char)
  | [] => [[]]
  | c :: rest => if c = mark then [] :: cutChars mark rest else grow c (cutChars mark rest)

/-- The pieces between the occurrences of a word, found from the left without overlap. The number
counts the characters of a found word that are still to be dropped. -/
def cutWords (mark : List Char) : Nat → List Char → List (List Char)
  | _, [] => [[]]
  | k + 1, _ :: rest => cutWords mark k rest
  | 0, c :: rest =>
    if mark.isPrefixOf (c :: rest) then [] :: cutWords mark (mark.length - 1) rest
    else grow c (cutWords mark 0 rest)

/-- The pieces of a text between the occurrences of a character. -/
def pieces (mark : Char) (s : String) : List String :=
  (cutChars mark s.toList).map String.ofList

/-- The pieces of a text between the occurrences of a non-empty word. -/
def piecesBetween (mark s : String) : List String :=
  (cutWords mark.toList 0 s.toList).map String.ofList

/-- The text before the first occurrence of a character, and the text after it. -/
def halves? (mark : Char) (s : String) : Option (String × String) :=
  let front := s.toList.takeWhile (· ≠ mark)
  match s.toList.dropWhile (· ≠ mark) with
  | [] => none
  | _ :: back => some (String.ofList front, String.ofList back)

/-- What follows a word at the front of a text. -/
def after? : List Char → List Char → Option (List Char)
  | [], cs => some cs
  | m :: mark, c :: cs => if m = c then after? mark cs else none
  | _ :: _, [] => none

/-- The texts, one after the other with single spaces between them. -/
def spaced (ts : List String) : String := " ".intercalate ts

@[simp] theorem grow_ne_nil (c : Char) (ps : List (List Char)) : grow c ps ≠ [] := by
  cases ps <;> simp [grow]

theorem cutChars_ne_nil (mark : Char) (cs : List Char) : cutChars mark cs ≠ [] := by
  cases cs with
  | nil => simp [cutChars]
  | cons c rest => rw [cutChars]; split <;> simp

theorem after?_eq_some {mark cs rest : List Char} :
    after? mark cs = some rest ↔ cs = mark ++ rest := by
  induction mark generalizing cs with
  | nil => simp [after?]
  | cons m mark ih =>
    cases cs with
    | nil => simp [after?]
    | cons c cs =>
      by_cases h : m = c
      · simp [after?, h, ih]
      · have h' : c ≠ m := fun e => h e.symm
        simp [after?, h, h']

example : pieces '#' "a##b" = ["a", "", "b"] := by decide +kernel
example : piecesBetween "(break)" "a(break)(brea(break)b" = ["a", "(brea", "b"] := by decide +kernel

end Cutscene.Text
