import Cutscene.Format.Toml.Scalar

/-!
Reading a TOML document: lines that define a key, lines that open a table, blank lines and
comments.
-/

namespace Cutscene.Toml

open Entry (Members)

/-- A character of a key without quotes. -/
def isBare (c : Char) : Bool :=
  ('a' ≤ c && c ≤ 'z') || ('A' ≤ c && c ≤ 'Z') || ('0' ≤ c && c ≤ '9') || c == '_' || c == '-'

/-- One part of a key. -/
def readPart (cs : List Char) : Option (String × List Char) :=
  match cs with
  | '"' :: rest => do
    let (chars, rest) ← readBasic (rest.length + 1) rest
    return (String.ofList chars, rest)
  | '\x27' :: rest => do
    let (chars, rest) ← readLiteral rest
    return (String.ofList chars, rest)
  | _ =>
    match cs.span isBare with
    | ([], _) => none
    | (part, rest) => some (String.ofList part, rest)

/-- The parts of a key with points between them, as the path to the last part and that part. Space
may stand around every part. -/
def readParts : Nat → List Char → Option ((List String × String) × List Char)
  | 0, _ => none
  | fuel + 1, cs => do
    let (part, rest) ← readPart (skipGap cs)
    match skipGap rest with
    | '.' :: rest => do
      let ((path, name), rest) ← readParts fuel rest
      return ((part :: path, name), rest)
    | rest => return (([], part), rest)

/-- There are fewer parts to a key than this number, and fewer brackets around a value. -/
def depthLimit : Nat := 80

/-- A key that is not too deep. -/
def readKey (cs : List Char) : Option ((List String × String) × List Char) := do
  let ((path, name), rest) ← readParts cs.length cs
  if path.length + 1 < depthLimit then return ((path, name), rest) else none

/-- The rest after a comment, if there is one; a comment holds no control characters. -/
def skipComment (cs : List Char) : List Char :=
  match cs with
  | '#' :: rest => rest.dropWhile isPlain
  | _ => cs

/-- The rest after space, line ends and comments. -/
def skipAll : Nat → List Char → List Char
  | 0, cs => cs
  | fuel + 1, cs =>
    match afterLineEnd? (skipComment (skipGap cs)) with
    | some rest => skipAll fuel rest
    | none => skipGap cs

/-- The rest after the end of a line, before which space and a comment may stand. -/
def endLine? (cs : List Char) : Option (List Char) :=
  match skipComment (skipGap cs) with
  | [] => some []
  | rest => afterLineEnd? rest

/-- A truth value. -/
def readBool : List Char → Option (Toml × List Char)
  | 't' :: 'r' :: 'u' :: 'e' :: rest => some (.bool true, rest)
  | 'f' :: 'a' :: 'l' :: 's' :: 'e' :: rest => some (.bool false, rest)
  | _ => none

mutual

/-- One value inside so many brackets. -/
def readValue : Nat → Nat → List Char → Option (Toml × List Char)
  | 0, _, _ => none
  | fuel + 1, level, cs =>
    match cs with
    | '[' :: rest => do
      if depthLimit ≤ level + 1 then none
      let (items, rest) ← readItems fuel (level + 1) rest
      return (.array items, rest)
    | '\x7b' :: rest => do
      if depthLimit ≤ level + 1 then none
      match skipGap rest with
      | '\x7d' :: rest => return (.table [], rest)
      | rest =>
        let (ms, rest) ← readMembers fuel (level + 1) [] rest
        return (.table (Entry.finishedMembers ms), rest)
    | '"' :: _ => (readString cs).map fun (s, rest) => (.text s, rest)
    | '\x27' :: _ => (readString cs).map fun (s, rest) => (.text s, rest)
    | _ => (readBool cs).or (readNumber cs)

/-- The items of an array up to its end; a comma may stand after the last. -/
def readItems : Nat → Nat → List Char → Option (List Toml × List Char)
  | 0, _, _ => none
  | fuel + 1, level, cs =>
    match skipAll cs.length cs with
    | ']' :: rest => some ([], rest)
    | cs => do
      let (item, rest) ← readValue fuel level cs
      match skipAll rest.length rest with
      | ',' :: rest => do
        let (more, rest) ← readItems fuel level rest
        return (item :: more, rest)
      | ']' :: rest => return ([item], rest)
      | _ => none

/-- The members of a table in braces up to its end. -/
def readMembers : Nat → Nat → Members → List Char → Option (Members × List Char)
  | 0, _, _, _ => none
  | fuel + 1, level, ms, cs => do
    let ((path, name), rest) ← readKey cs
    let (value, rest) ← readValue fuel level (skipGap (← after? '=' rest))
    let ms ← Entry.define path name value .header ms
    match skipGap rest with
    | ',' :: rest => readMembers fuel level ms rest
    | '\x7d' :: rest => some (ms, rest)
    | _ => none

end

/-- A document up to some line: its tables, and the path of the open one. -/
structure Draft where
  root : Members
  path : List String

namespace Draft

/-- Adds a value to the open table. -/
def define (d : Draft) (path : List String) (name : String) (value : Toml) : Option Draft := do
  let root ← Entry.within false (Entry.define path name value) d.path .header d.root
  return { d with root := root }

/-- Opens a table. -/
def openTable (d : Draft) (path : List String) (name : String) : Option Draft := do
  return ⟨← Entry.openTable path name d.root, path ++ [name]⟩

/-- Opens the next of several tables of one name. -/
def openNext (d : Draft) (path : List String) (name : String) : Option Draft := do
  return ⟨← Entry.openNext path name d.root, path ++ [name]⟩

/-- Reads one line that is not blank. -/
def readLine (d : Draft) (cs : List Char) : Option (Draft × List Char) :=
  match cs with
  | '[' :: '[' :: rest => do
    let ((path, name), rest) ← readKey rest
    return (← d.openNext path name, ← endLine? (← after? ']' (← after? ']' rest)))
  | '[' :: rest => do
    let ((path, name), rest) ← readKey rest
    return (← d.openTable path name, ← endLine? (← after? ']' rest))
  | _ => do
    let ((path, name), rest) ← readKey cs
    let rest := skipGap (← after? '=' rest)
    let (value, rest) ← readValue (2 * rest.length + 2) 0 rest
    return (← d.define path name value, ← endLine? rest)

/-- Reads the lines up to the end of the text. -/
def readLines : Nat → Draft → List Char → Option Draft
  | 0, _, _ => none
  | fuel + 1, d, cs =>
    match skipAll cs.length cs with
    | [] => some d
    | '#' :: rest => if rest.all isPlain then some d else none
    | cs => do
      let (d, rest) ← d.readLine cs
      readLines fuel d rest

end Draft

/-- The members of a document. A byte order mark in front is passed over. Every line uses up a
character, so their number is fuel enough. -/
def parse? (s : String) : Option (List (String × Toml)) := do
  let cs := match s.toList with
    | '\ufeff' :: rest => rest
    | cs => cs
  let d ← Draft.readLines (cs.length + 1) ⟨[], []⟩ cs
  return Entry.finishedMembers d.root

end Cutscene.Toml
