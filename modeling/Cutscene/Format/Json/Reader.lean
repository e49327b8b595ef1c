import Cutscene.Format.Json
import Cutscene.Text.Cut
import Cutscene.Text.Hex

/-!
Reading JSON. A text holds exactly one value; white space is space, tab and the two line ends.
-/

namespace Cutscene.Json

open Text (hex?)

/-- The white space of JSON. -/
def isSpace (c : Char) : Bool := c == ' ' || c == '\t' || c == '\n' || c == '\r'

def skipSpace (cs : List Char) : List Char := cs.dropWhile isSpace

/-- The character that a single letter after a backslash stands for. -/
def escaped? (c : Char) : Option Char :=
  match c with
  | '"' => some '"'
  | '\\' => some '\\'
  | '/' => some '/'
  | 'b' => some '\x08'
  | 'f' => some '\x0c'
  | 'n' => some '\n'
  | 'r' => some '\r'
  | 't' => some '\t'
  | _ => none

/-- A character, or a unit that is half of a pair. -/
abbrev Half := Char ⊕ Nat

/-- What a unit stands for. -/
def Half.ofUnit (unit : Nat) : Half :=
  if 0xD800 ≤ unit ∧ unit < 0xE000 then .inr unit else .inl (Char.ofNat unit)

/-- The character of a leading and a trailing half. -/
def pairChar? (high low : Nat) : Option Char :=
  if 0xD800 ≤ high ∧ high < 0xDC00 ∧ 0xDC00 ≤ low ∧ low < 0xE000 then
    some (Char.ofNat (0x10000 + (high - 0xD800) * 0x400 + (low - 0xDC00)))
  else none

/-- The characters of a text whose halves all come in pairs. -/
def joinHalves : List Half → Option (List Char)
  | [] => some []
  | .inl c :: rest => (joinHalves rest).map (c :: ·)
  | .inr high :: .inr low :: rest => do return (← pairChar? high low) :: (← joinHalves rest)
  | .inr _ :: _ => none

/-- What stands before the closing quote, and the rest after it. A control character is refused. -/
def readHalves : List Char → Option (List Half × List Char)
  | [] => none
  | '"' :: rest => some ([], rest)
  | '\\' :: 'u' :: a :: b :: c :: d :: rest => do
    let unit ← hex? [a, b, c, d]
    let (more, rest) ← readHalves rest
    return (.ofUnit unit :: more, rest)
  | '\\' :: c :: rest => do
    let ch ← escaped? c
    let (more, rest) ← readHalves rest
    return (.inl ch :: more, rest)
  | c :: rest =>
    if c.toNat < 32 then none
    else do
      let (more, rest) ← readHalves rest
      return (.inl c :: more, rest)

/-- A text after its opening quote, unless it holds a half without the other, and the rest. -/
def readText (cs : List Char) : Option (Option String × List Char) := do
  let (halves, rest) ← readHalves cs
  return ((joinHalves halves).map String.ofList, rest)

/-- The longest run of decimal digits, at least one. -/
def readDigits (cs : List Char) : Option (List Char × List Char) :=
  match cs.span Char.isDigit with
  | ([], _) => none
  | found => some found

/-- The digits after a point, if there is one. -/
def readFraction : List Char → Option (List Char × List Char)
  | '.' :: rest => readDigits rest
  | cs => some ([], cs)

/-- The power of ten that ends a number, if there is one. -/
def readPower (cs : List Char) : Option (Option Int × List Char) :=
  let signed : List Char → Bool × List Char
    | '-' :: rest => (true, rest)
    | '+' :: rest => (false, rest)
    | rest => (false, rest)
  match cs with
  | c :: rest =>
    if c = 'e' ∨ c = 'E' then do
      let (negative, rest) := signed rest
      let (ds, rest) ← readDigits rest
      let n ← Numeral.digits? ds
      return (some (if negative then -(n : Int) else (n : Int)), rest)
    else some (none, cs)
  | [] => some (none, [])

/-- A number: no zero before other digits, and digits on both sides of a point. -/
def readNumber (cs : List Char) : Option (Json × List Char) := do
  let (negative, cs) := match cs with
    | '-' :: rest => (true, rest)
    | _ => (false, cs)
  let (whole, cs) ← readDigits cs
  if 1 < whole.length ∧ whole.head? = some '0' then none
  let (fraction, cs) ← readFraction cs
  let (power, cs) ← readPower cs
  let digits ← Numeral.digits? (whole ++ fraction)
  return (.number ⟨negative, digits, power.getD 0 - fraction.length⟩
    (fraction.isEmpty && power.isNone), cs)

/-- A word in place of a value. -/
def readWord (cs : List Char) : Option (Json × List Char) :=
  ((Text.after? "null".toList cs).map (Json.null, ·)).or <|
    ((Text.after? "true".toList cs).map (Json.bool true, ·)).or <|
      (Text.after? "false".toList cs).map (Json.bool false, ·)

mutual

/-- One value. -/
def readValue : Nat → List Char → Option (Json × List Char)
  | 0, _ => none
  | fuel + 1, cs =>
    match skipSpace cs with
    | '"' :: rest => do
      let (s, rest) ← readText rest
      return (s.elim .unreadable .text, rest)
    | '[' :: rest =>
      match skipSpace rest with
      | ']' :: rest => some (.array [], rest)
      | rest => do
        let (items, rest) ← readItems fuel rest
        return (.array items, rest)
    | '\x7b' :: rest =>
      match skipSpace rest with
      | '\x7d' :: rest => some (.object [], rest)
      | rest => do
        let (members, rest) ← readMembers fuel rest
        return (members.elim .unreadable .object, rest)
    | cs => (readWord cs).or (readNumber cs)

/-- The items of an array up to its end. -/
def readItems : Nat → List Char → Option (List Json × List Char)
  | 0, _ => none
  | fuel + 1, cs => do
    let (item, rest) ← readValue fuel cs
    match skipSpace rest with
    | ',' :: rest => do
      let (more, rest) ← readItems fuel rest
      return (item :: more, rest)
    | ']' :: rest => return ([item], rest)
    | _ => none

/-- The members of an object up to its end, unless one of the names cannot be read. -/
def readMembers : Nat → List Char → Option (Option (List (String × Json)) × List Char)
  | 0, _ => none
  | fuel + 1, cs =>
    match skipSpace cs with
    | '"' :: rest => do
      let (name, rest) ← readText rest
      match skipSpace rest with
      | ':' :: rest =>
        let (value, rest) ← readValue fuel rest
        let member := name.map (·, value)
        match skipSpace rest with
        | ',' :: rest => do
          let (more, rest) ← readMembers fuel rest
          return (do return (← member) :: (← more), rest)
        | '\x7d' :: rest => return (member.map ([·]), rest)
        | _ => none
      | _ => none
    | _ => none

end

/-- Reads a text that holds one value. Every step inwards or onwards uses up a character, so twice
their number is fuel enough. -/
def parse? (s : String) : Option Json :=
  let cs := s.toList
  match readValue (2 * cs.length + 2) cs with
  | some (value, rest) => if (skipSpace rest).isEmpty then some value else none
  | none => none

end Cutscene.Json
