import Cutscene.Text.Quoted
import Cutscene.Text.Cut

/-!
Cutting a command into tokens. Spaces and tabs separate tokens; a quoted run is part of its token,
keeps its spaces and loses its quotes. A command with an unclosed quote has no tokens at all.
-/

namespace Cutscene.Script

open Text (grow)

/-- The characters between tokens. -/
def isGap (c : Char) : Bool := c == ' ' || c == '\t'

/-- Where the reading stands: between tokens, in a token, or in a quoted run of a token. -/
inductive Place where
  | gap
  | word
  | quoted
  deriving DecidableEq, Repr

/-- The tokens from a place on; inside a token the first of them continues it. A quoted run that
does not end has none. -/
def tokensFrom? : Place → List Char → Option (List (List Char))
  | .gap, [] => some []
  | .word, [] => some [[]]
  | .quoted, [] => none
  | .gap, c :: rest =>
    if isGap c then tokensFrom? .gap rest
    else if c = '"' then tokensFrom? .quoted rest
    else (tokensFrom? .word rest).map (grow c)
  | .word, c :: rest =>
    if isGap c then (tokensFrom? .gap rest).map ([] :: ·)
    else if c = '"' then tokensFrom? .quoted rest
    else (tokensFrom? .word rest).map (grow c)
  | .quoted, '\\' :: '"' :: rest => (tokensFrom? .quoted rest).map (grow '"')
  | .quoted, '\\' :: '\\' :: rest => (tokensFrom? .quoted rest).map (grow '\\')
  | .quoted, '\\' :: c :: rest => (tokensFrom? .quoted rest).map fun ts => grow '\\' (grow c ts)
  | .quoted, c :: rest =>
    if c = '"' then tokensFrom? .word rest else (tokensFrom? .quoted rest).map (grow c)

/-- The tokens of a command; none if a quote in it is not closed. -/
def tokens? (command : String) : Option (List String) :=
  (tokensFrom? .gap command.toList).map (·.map String.ofList)

example : tokens? "speak  Sam \"a \\\"b\\\" c\"d" = some ["speak", "Sam", "a \"b\" cd"] := by
  decide +kernel
example : tokens? "a \"b" = none ∧ tokens? "a \"\"" = some ["a", ""] := by decide +kernel

end Cutscene.Script
