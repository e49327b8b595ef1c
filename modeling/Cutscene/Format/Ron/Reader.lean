import Cutscene.Format.Ron
import Cutscene.Format.Ron.Number
import Cutscene.Format.Ron.Quoted

/-!
Reading RON. White space and comments, which nest between slashes with stars, may stand between any
two parts; a comma may stand after the last of several.
-/

namespace Cutscene.Ron

/-! ### White space and comments -/

/-- The white space of RON: the blank characters and marks that steer the reading of a line. -/
def isSpace (c : Char) : Bool :=
  let n := c.toNat
  (0x09 ≤ n && n ≤ 0x0D) || n == 0x20 || n == 0x85 || n == 0x200E || n == 0x200F ||
    n == 0x2028 || n == 0x2029

/-- Where a reader stands between two parts. -/
inductive Gap where
  | space
  /-- In a comment that ends with the line. -/
  | line
  /-- In a comment between slashes with stars, inside so many others. -/
  | starred (others : Nat)
  deriving DecidableEq, Repr

/-- The text after white space and comments; a comment with stars must end. -/
def Gap.skip : Gap → List Char → Option (List Char)
  | starred _, [] => none
  | _, [] => some []
  | space, '/' :: '/' :: rest => line.skip rest
  | space, '/' :: '*' :: rest => (starred 0).skip rest
  | space, c :: rest =>
    if c = '/' then none else if isSpace c then space.skip rest else some (c :: rest)
  | line, c :: rest => if c = '\n' then space.skip rest else line.skip rest
  | starred others, '/' :: '*' :: rest => (starred (others + 1)).skip rest
  | starred 0, '*' :: '/' :: rest => space.skip rest
  | starred (others + 1), '*' :: '/' :: rest => (starred others).skip rest
  | starred others, _ :: rest => (starred others).skip rest

/-- The text after white space and comments. -/
def skip (cs : List Char) : Option (List Char) := Gap.space.skip cs

example : skip " /* a /* b */ */ // c\n\td".toList = some ['d'] ∧ skip "/*/".toList = none ∧
    skip "/ ".toList = none ∧ skip "//".toList = some [] := by decide +kernel

/-- The text after an optional comma, and whether there was one. -/
def readComma (cs : List Char) : Option (Bool × List Char) := do
  match ← skip cs with
  | ',' :: rest => return (true, ← skip rest)
  | cs => return (false, cs)

/-! ### Names -/

/-- A character of a name that is marked as such. -/
def inMarkedName (c : Char) : Bool := Text.isNamePart c || c == '.' || c == '+' || c == '-'

/-- A quoted text or bytes begin here, and not a name. -/
def beginsQuoted (cs : List Char) : Bool :=
  ["r\"", "b\"", "b'", "br\"", "br#"].any fun mark => (Text.after? mark.toList cs).isSome

/-- A name. After `r#` it may hold points and signs, which must not follow it otherwise. -/
def readName (cs : List Char) : Option (String × List Char) :=
  match cs with
  | 'r' :: '#' :: rest =>
    match rest.span inMarkedName with
    | ([], _) => none
    | (name, rest) => some (String.ofList name, rest)
  | c :: _ =>
    if Text.isNameStart c && !beginsQuoted cs then
      let (name, rest) := cs.span Text.isNamePart
      match rest with
      | d :: _ => if inMarkedName d then none else some (String.ofList name, rest)
      | [] => some (String.ofList name, rest)
    else none
  | [] => none

/-! ### Values -/

/-- The text after a character, which white space may precede. -/
def expect (mark : Char) (cs : List Char) : Option (List Char) := do
  match ← skip cs with
  | c :: rest => if c = mark then some rest else none
  | [] => none

/-- The name of a field and the text after its colon; none if no field begins here. -/
def readFieldName (cs : List Char) : Option (String × List Char) := do
  let (name, rest) ← readName cs
  return (name, ← expect ':' rest)

/-- The words for values that are not kept. -/
def plainWords : List String := ["true", "false"] ++ notFinite

mutual

/-- One value of a dialect. A word with a meaning of its own is no name, and nothing belongs to it
but the value of `Some`. -/
def readValue (d : RonDialect) : Nat → List Char → Option (Ron × List Char)
  | 0, _ => none
  | fuel + 1, cs => do
    let cs ← skip cs
    let word := wordAt cs
    if plainWords.contains word then return (.other, cs.drop word.length)
    else if word = "None" then return (.absent, cs.drop word.length)
    else if word = "Some" then readPresent d fuel (← skip (cs.drop word.length))
    else
      match readName cs with
      | some (name, rest) =>
        match ← skip rest with
        | '(' :: rest => readParens d (some name) fuel rest
        | rest => return (.word name, rest)
      | none =>
        match cs with
        | '(' :: ')' :: rest => return (.unit, rest)
        | '(' :: rest => readParens d none fuel rest
        | '[' :: rest =>
          let (items, rest) ← readItems d ']' fuel rest
          return (.list items, rest)
        | '\x7b' :: rest =>
          let (entries, rest) ← readEntries d fuel rest
          return (.map entries, rest)
        | '\x27' :: _ => return (.other, ← skipChar cs)
        | 'b' :: '\x27' :: rest => return (.other, ← skipByte ('\x27' :: rest))
        | 'b' :: rest => return (.other, ← skipBytes rest)
        | c :: _ =>
          if c = '"' ∨ c = 'r' then (readText cs).map fun (s, rest) => (.text s, rest)
          else if c.isDigit ∨ c = '+' ∨ c = '-' ∨ c = '.' then
            return (.other, ← readNumber cs)
          else none
        | [] => none

/-- What follows the word `Some`: a value in parentheses, or the value alone where the dialect lets
it stand for itself. The parentheses may be those of the value. -/
def readPresent (d : RonDialect) : Nat → List Char → Option (Ron × List Char)
  | 0, _ => none
  | fuel + 1, cs => do
    match cs with
    | '(' :: rest =>
      match ← readParens d none fuel rest with
      | (.tuple _ [value], rest) =>
        return (if d.bareChoices then .presentBare value else .present value, rest)
      | (.tuple _ [], rest) =>
        if d.bareChoices then return (.presentBare .unit, rest) else none
      | (.record _ fields, rest) =>
        if d.bareChoices then return (.presentFields fields, rest) else none
      | (parts, rest) => if d.bareChoices then return (.presentBare parts, rest) else none
    | _ =>
      if d.implicitSome then
        let (value, rest) ← readValue d fuel cs
        return (.present value, rest)
      else none

/-- What stands in parentheses: fields if it begins with a field, else values. -/
def readParens (d : RonDialect) : Option String → Nat → List Char → Option (Ron × List Char)
  | _, 0, _ => none
  | name, fuel + 1, cs => do
    let cs ← skip cs
    match readFieldName cs with
    | some _ =>
      let (fields, rest) ← readFields d fuel cs
      return (.record name fields, rest)
    | none =>
      let (items, rest) ← readItems d ')' fuel cs
      return (.tuple name items, rest)

/-- Values up to a closing mark. -/
def readItems (d : RonDialect) : Char → Nat → List Char → Option (List Ron × List Char)
  | _, 0, _ => none
  | mark, fuel + 1, cs => do
    match expect mark cs with
    | some rest => return ([], rest)
    | none =>
      let (item, rest) ← readValue d fuel cs
      let (comma, rest) ← readComma rest
      if comma then
        let (more, rest) ← readItems d mark fuel rest
        return (item :: more, rest)
      else return ([item], ← expect mark rest)

/-- The entries of a map up to its end. -/
def readEntries (d : RonDialect) : Nat → List Char → Option (List (Ron × Ron) × List Char)
  | 0, _ => none
  | fuel + 1, cs => do
    match expect '\x7d' cs with
    | some rest => return ([], rest)
    | none =>
      let (key, rest) ← readValue d fuel cs
      let (value, rest) ← readValue d fuel (← expect ':' rest)
      let (comma, rest) ← readComma rest
      if comma then
        let (more, rest) ← readEntries d fuel rest
        return ((key, value) :: more, rest)
      else return ([(key, value)], ← expect '\x7d' rest)

/-- The fields of a record up to its end. -/
def readFields (d : RonDialect) : Nat → List Char → Option (List (String × Ron) × List Char)
  | 0, _ => none
  | fuel + 1, cs => do
    match expect ')' cs with
    | some rest => return ([], rest)
    | none =>
      let (name, rest) ← readFieldName cs
      let (value, rest) ← readValue d fuel rest
      let (comma, rest) ← readComma rest
      if comma then
        let (more, rest) ← readFields d fuel rest
        return ((name, value) :: more, rest)
      else return ([(name, value)], ← expect ')' rest)

end

/-! ### Documents -/

/-- The dialect that a wish in front of a document asks for. -/
def dialectOf? (wish : String) : Option RonDialect :=
  if wish = "implicit_some" then some { RonDialect.plain with implicitSome := true }
  else if wish = "unwrap_newtypes" then some .plain
  else if wish = "unwrap_variant_newtypes" then some { RonDialect.plain with bareChoices := true }
  else if wish = "explicit_struct_names" then some { RonDialect.plain with namedRecords := true }
  else none

/-- The dialects between the parentheses of wishes. -/
def readWishes : Nat → List Char → Option (RonDialect × List Char)
  | 0, _ => none
  | fuel + 1, cs => do
    let (wish, rest) ← readName (← skip cs)
    let dialect ← dialectOf? wish
    let (comma, rest) ← readComma rest
    match rest with
    | ')' :: rest => return (dialect, rest)
    | _ =>
      if comma then
        let (more, rest) ← readWishes fuel rest
        return (dialect.join more, rest)
      else none

/-- The dialect that the wishes in front of a document ask for, and the text after them. -/
def readDialect : Nat → List Char → Option (RonDialect × List Char)
  | 0, _ => none
  | fuel + 1, cs => do
    match ← skip cs with
    | '#' :: rest =>
      let rest ← expect '[' (← expect '!' rest)
      let rest ← Text.after? "enable".toList (← skip rest)
      let (dialect, rest) ← readWishes rest.length (← expect '(' rest)
      let (more, rest) ← readDialect fuel (← expect ']' rest)
      return (dialect.join more, rest)
    | cs => return (.plain, cs)

/-- Reads a document: wishes for a dialect, and one value that does not lie too deep. No four steps
inwards or onwards go without using up a character, which gives fuel enough. -/
def parse? (s : String) : Option (RonDialect × Ron) := do
  let cs := s.toList
  let (dialect, rest) ← readDialect (cs.length + 1) cs
  let (value, rest) ← readValue dialect (4 * rest.length + 4) rest
  if (← skip rest).isEmpty ∧ value.depth ≤ deepest then return (dialect, value) else none

end Cutscene.Ron
