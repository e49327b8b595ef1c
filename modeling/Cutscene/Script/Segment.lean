import Cutscene.Text.Blank
import Cutscene.Text.Cut

/-!
Cutting a script into commands. A slash ends a command unless it stands inside a closed quoted
run. A quote without a partner runs only to the next slash, so it spoils no command but its own.
Inside a quoted run a backslash protects the next character.
-/

namespace Cutscene.Script

open Text (grow)

/-- A quoted run that begins here is closed: a quote follows that no backslash protects. -/
def closes : List Char → Bool
  | [] => false
  | '\\' :: _ :: rest => closes rest
  | '"' :: _ => true
  | _ :: rest => closes rest

/-- Where the reading stands: in plain text, in a closed quoted run, or after a quote that never
closes. -/
inductive Run where
  | plain
  | quoted
  | stray
  deriving DecidableEq, Repr

/-- The run that a quote opens, given what follows it. -/
def Run.opened (rest : List Char) : Run := if closes rest then .quoted else .stray

/-- The segments of a script from a run on; the first may continue one already begun. -/
def segmentsFrom : Run → List Char → List (List Char)
  | _, [] => [[]]
  | .quoted, '\\' :: c :: rest => grow '\\' (grow c (segmentsFrom .quoted rest))
  | .stray, '\\' :: c :: rest => grow '\\' (grow c (segmentsFrom .stray rest))
  | .quoted, c :: rest =>
    if c = '"' then grow c (segmentsFrom .plain rest) else grow c (segmentsFrom .quoted rest)
  | run, c :: rest =>
    if c = '/' then [] :: segmentsFrom .plain rest
    else if c = '"' then grow c (segmentsFrom (.opened rest) rest)
    else grow c (segmentsFrom run rest)

/-- The segments of a script, as they stand between the slashes. -/
def segments (cs : List Char) : List (List Char) := segmentsFrom .plain cs

/-- The commands of a script: its segments, trimmed, without the empty ones. -/
def split (text : String) : List String :=
  ((segments text.toList).map Text.trimChars).filterMap fun cs =>
    if cs = [] then none else some (String.ofList cs)

example : split "a/b \"c/d\"//e\"f/g/ " = ["a", "b \"c/d\"", "e\"f", "g"] := by decide +kernel

end Cutscene.Script
