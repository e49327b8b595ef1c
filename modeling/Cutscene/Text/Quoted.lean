import Cutscene.Text.Blank

/-!
Quoted text. Inside double quotes a backslash protects a quote or a backslash; before any other
character it stands for itself. `encode` writes a text so that reading gives it back.
-/

namespace Cutscene.Text

/-- Resolves the protected quotes and backslashes; a backslash before anything else is kept. -/
def unescape : List Char → List Char
  | [] => []
  | '\\' :: '"' :: rest => '"' :: unescape rest
  | '\\' :: '\\' :: rest => '\\' :: unescape rest
  | '\\' :: c :: rest => '\\' :: c :: unescape rest
  | c :: rest => c :: unescape rest

/-- Protects every quote and every backslash. -/
def escape : List Char → List Char
  | [] => []
  | c :: rest => if c = '"' ∨ c = '\\' then '\\' :: c :: escape rest else c :: escape rest

/-- The text between quotes, with its quotes and backslashes protected. -/
def encode (cs : List Char) : List Char := '"' :: (escape cs ++ ['"'])

/-- The inside of a text that begins and ends with a quote. -/
def inside? : List Char → Option (List Char)
  | '"' :: rest => if rest.getLast? = some '"' then some rest.dropLast else none
  | _ => none

/-- Trims a text, and if a pair of quotes stands around it, removes and resolves them. -/
def unquote (s : String) : String :=
  let cs := trimChars s.toList
  match inside? cs with
  | some inner => String.ofList (unescape inner)
  | none => String.ofList cs

theorem unescape_escape (cs : List Char) : unescape (escape cs) = cs := by
  induction cs with
  | nil => rfl
  | cons c rest ih =>
    by_cases hq : c = '"'
    · subst hq; simp [escape, unescape, ih]
    by_cases hb : c = '\\'
    · subst hb; simp [escape, unescape, ih]
    simp only [escape, hq, hb, or_self, if_false]
    rw [unescape]
    · rw [ih]
    · intro _ h; exact absurd h hb
    · intro _ h; exact absurd h hb
    · intro _ _ h; exact absurd h hb

example : unquote "\"say \\\"hi\\\"\"" = "say \"hi\"" := by decide +kernel
example : unquote "\"" = "\"" := by decide +kernel

end Cutscene.Text
