import Cutscene.Decimal.Binary
import Cutscene.Format.Toml
import Cutscene.Text.Hex

/-!
Reading the TOML values that have no parts: strings, numbers, truth values, dates and times. Every
reader gives the value and the rest of the text.
-/

namespace Cutscene.Toml

/-- Space and tab. -/
def isGap (c : Char) : Bool := c == ' ' || c == '\t'

def skipGap (cs : List Char) : List Char := cs.dropWhile isGap

/-- The rest after a line end, if the text begins with one. -/
def afterLineEnd? : List Char → Option (List Char)
  | '\n' :: rest => some rest
  | '\r' :: '\n' :: rest => some rest
  | _ => none

/-- A character that may stand for itself within a line: no control character but the tab. -/
def isPlain (c : Char) : Bool := c == '\t' || (32 ≤ c.toNat && c.toNat ≠ 127)

/-! ### Strings -/

/-- The character of an escape after its backslash. -/
def readEscape : List Char → Option (Char × List Char)
  | 'b' :: rest => some ('\x08', rest)
  | 't' :: rest => some ('\t', rest)
  | 'n' :: rest => some ('\n', rest)
  | 'f' :: rest => some ('\x0c', rest)
  | 'r' :: rest => some ('\r', rest)
  | '"' :: rest => some ('"', rest)
  | '\\' :: rest => some ('\\', rest)
  | 'u' :: rest => hexEscape 4 rest
  | 'U' :: rest => hexEscape 8 rest
  | _ => none
where
  hexEscape (count : Nat) (cs : List Char) : Option (Char × List Char) := do
    let digits := cs.take count
    if digits.length < count then none
    return (← Text.codePoint? (← Text.hex? digits), cs.drop count)

/-- The characters of a string in double quotes on one line. -/
def readBasic : Nat → List Char → Option (List Char × List Char)
  | 0, _ => none
  | _, '"' :: rest => some ([], rest)
  | fuel + 1, '\\' :: rest => do
    let (c, rest) ← readEscape rest
    let (more, rest) ← readBasic fuel rest
    return (c :: more, rest)
  | fuel + 1, c :: rest =>
    if isPlain c then do
      let (more, rest) ← readBasic fuel rest
      return (c :: more, rest)
    else none
  | _, [] => none

/-- The characters of a string in single quotes on one line. -/
def readLiteral : List Char → Option (List Char × List Char)
  | '\x27' :: rest => some ([], rest)
  | c :: rest =>
    if isPlain c then do
      let (more, rest) ← readLiteral rest
      return (c :: more, rest)
    else none
  | [] => none

/-- The end of a string between triple quotes. Up to two more quotes in front of the end belong to
the string. -/
def readTripleEnd (quote : Char) (cs : List Char) : Option (List Char × List Char) :=
  let count := (cs.takeWhile (· == quote)).length
  if 3 ≤ count then
    let inside := min (count - 3) 2
    some (List.replicate inside quote, cs.drop (inside + 3))
  else none

/-- The text after the blank characters and line ends that follow a backslash at the end of a line;
nothing if the backslash is not at the end of a line. -/
def afterFoldedLine? (cs : List Char) : Option (List Char) :=
  (afterLineEnd? (skipGap cs)).map (skipLines cs.length)
where
  skipLines : Nat → List Char → List Char
    | 0, cs => cs
    | fuel + 1, cs =>
      match afterLineEnd? (skipGap cs) with
      | some rest => skipLines fuel rest
      | none => skipGap cs

/-- The characters of a string between triple quotes over several lines. -/
def readLines (quote : Char) : Nat → List Char → Option (List Char × List Char)
  | 0, _ => none
  | fuel + 1, cs =>
    match readTripleEnd quote cs with
    | some found => some found
    | none =>
      match afterLineEnd? cs with
      | some rest => do
        let (more, rest) ← readLines quote fuel rest
        return ('\n' :: more, rest)
      | none =>
        match cs with
        | [] => none
        | c :: rest =>
          if c = '\\' ∧ quote = '"' then
            match afterFoldedLine? rest with
            | some rest => readLines quote fuel rest
            | none => do
              let (c, rest) ← readEscape rest
              let (more, rest) ← readLines quote fuel rest
              return (c :: more, rest)
          else if isPlain c then do
            let (more, rest) ← readLines quote fuel rest
            return (c :: more, rest)
          else none

/-- The text after a line end at its front, or all of it. -/
def dropFirstLineEnd (cs : List Char) : List Char := (afterLineEnd? cs).getD cs

/-- A string of any of the four kinds. -/
def readString (cs : List Char) : Option (String × List Char) := do
  let (chars, rest) ← match cs with
    | '"' :: '"' :: '"' :: rest => readLines '"' (rest.length + 1) (dropFirstLineEnd rest)
    | '\x27' :: '\x27' :: '\x27' :: rest => readLines '\x27' (rest.length + 1) (dropFirstLineEnd rest)
    | '"' :: rest => readBasic (rest.length + 1) rest
    | '\x27' :: rest => readLiteral rest
    | _ => none
  return (String.ofList chars, rest)

/-! ### Numbers -/

/-- Digits of a base, at least one, with single underscores between them. -/
def readDigits (base : Nat) (cs : List Char) : Option (List Char × List Char) :=
  let isDigit (c : Char) : Bool := ((Text.hexDigit? c).filter (· < base)).isSome
  match cs.span isDigit with
  | ([], _) => none
  | (ds, rest) => some (more isDigit rest.length ds rest)
where
  more (isDigit : Char → Bool) : Nat → List Char → List Char → List Char × List Char
    | 0, ds, cs => (ds, cs)
    | fuel + 1, ds, cs =>
      match cs with
      | '_' :: rest =>
        match rest.span isDigit with
        | ([], _) => (ds, cs)
        | (next, rest) => more isDigit fuel (ds ++ next) rest
      | _ => (ds, cs)

/-- A sign, true for minus, if there is one. -/
def readSign : List Char → Bool × List Char
  | '-' :: rest => (true, rest)
  | '+' :: rest => (false, rest)
  | cs => (false, cs)

/-- Decimal digits without a zero in front of others. -/
def readWhole (cs : List Char) : Option (List Char × List Char) :=
  match cs with
  | '0' :: rest => some (['0'], rest)
  | _ => readDigits 10 cs

/-- A number within sixty-four bits. -/
def fitting? (negative : Bool) (n : Nat) : Option Toml :=
  if negative then (if n ≤ 0x8000000000000000 then some (.integer (-(n : Int))) else none)
  else if n < 0x8000000000000000 then some (.integer n)
  else none

/-- An integer. Only decimal ones have a sign. -/
def readInteger (cs : List Char) : Option (Toml × List Char) :=
  let inBase (base : Nat) (rest : List Char) : Option (Toml × List Char) := do
    let (ds, rest) ← readDigits base rest
    return (← fitting? false (← Text.inBase? base ds), rest)
  match cs with
  | '0' :: 'x' :: rest => inBase 16 rest
  | '0' :: 'o' :: rest => inBase 8 rest
  | '0' :: 'b' :: rest => inBase 2 rest
  | _ => do
    let (negative, rest) := readSign cs
    let (ds, rest) ← readWhole rest
    return (← fitting? negative (← Numeral.digits? ds), rest)

/-- The digits after a point. -/
def readFraction : List Char → Option (List Char × List Char)
  | '.' :: rest => readDigits 10 rest
  | _ => none

/-- The power of ten after an `e`. -/
def readPower : List Char → Option (Int × List Char)
  | c :: rest =>
    if c = 'e' ∨ c = 'E' then do
      let (negative, rest) := readSign rest
      let (ds, rest) ← readDigits 10 rest
      let n ← Numeral.digits? ds
      return (if negative then -(n : Int) else (n : Int), rest)
    else none
  | [] => none

/-- A number with a fraction, a power of ten or both. -/
def readDecimal (cs : List Char) : Option (Decimal × List Char) := do
  let (negative, rest) := readSign cs
  let (whole, rest) ← readWhole rest
  let (fraction, power, rest) ← match readFraction rest with
    | some (fraction, rest) =>
      match readPower rest with
      | some (power, rest) => some (fraction, power, rest)
      | none => some (fraction, 0, rest)
    | none => (readPower rest).map fun (power, rest) => ([], power, rest)
  let n ← Numeral.digits? (whole ++ fraction)
  return (⟨negative, n, power - fraction.length⟩, rest)

/-- A real number; one that rounds to positive infinity in sixty-four bits is refused. -/
def readReal (cs : List Char) : Option (Toml × List Char) :=
  match readDecimal cs with
  | some (d, rest) =>
    if BinaryFormat.double.ofDecimal d = BinaryFormat.double.infinity then none
    else some (.real (.finite d), rest)
  | none =>
    let (negative, rest) := readSign cs
    match rest with
    | 'i' :: 'n' :: 'f' :: rest => some (.real (.infinite negative), rest)
    | 'n' :: 'a' :: 'n' :: rest => some (.real .undefined, rest)
    | _ => none

/-! ### Dates and times -/

/-- A number of so many digits, from one number to another. -/
def readField (count lo hi : Nat) (cs : List Char) : Option (Nat × List Char) := do
  let ds := cs.take count
  let n ← Numeral.digits? ds
  if ds.length = count ∧ lo ≤ n ∧ n ≤ hi then some (n, cs.drop count) else none

/-- The rest after a character. -/
def after? (mark : Char) : List Char → Option (List Char)
  | c :: rest => if c = mark then some rest else none
  | [] => none

/-- The days of a month. -/
def daysIn (year month : Nat) : Nat :=
  if month = 2 then
    if year % 4 = 0 ∧ (year % 100 ≠ 0 ∨ year % 400 = 0) then 29 else 28
  else if month = 4 ∨ month = 6 ∨ month = 9 ∨ month = 11 then 30
  else 31

/-- A day of the calendar; the rest of the text. -/
def readDate (cs : List Char) : Option (List Char) := do
  let (year, rest) ← readField 4 0 9999 cs
  let (month, rest) ← readField 2 1 12 (← after? '-' rest)
  let (_, rest) ← readField 2 1 (daysIn year month) (← after? '-' rest)
  return rest

/-- A time of the day; the rest of the text. -/
def readTime (cs : List Char) : Option (List Char) := do
  let (_, rest) ← readField 2 0 23 cs
  let (_, rest) ← readField 2 0 59 (← after? ':' rest)
  let (_, rest) ← readField 2 0 60 (← after? ':' rest)
  match rest with
  | '.' :: more =>
    match more.span Char.isDigit with
    | ([], _) => none
    | (_, more) => some more
  | _ => some rest

/-- The distance from universal time, if there is one; the rest of the text. -/
def readOffset (cs : List Char) : List Char :=
  let signed (rest : List Char) : Option (List Char) := do
    let (_, rest) ← readField 2 0 23 rest
    let (_, rest) ← readField 2 0 59 (← after? ':' rest)
    return rest
  match cs with
  | 'Z' :: rest => rest
  | 'z' :: rest => rest
  | '+' :: rest => (signed rest).getD cs
  | '-' :: rest => (signed rest).getD cs
  | _ => cs

/-- A date, a time, or both. -/
def readMoment (cs : List Char) : Option (Toml × List Char) :=
  match readDate cs with
  | some rest =>
    let timed := match rest with
      | 'T' :: more => readTime more
      | 't' :: more => readTime more
      | ' ' :: more => readTime more
      | _ => none
    some (.moment, (timed.map readOffset).getD rest)
  | none => (readTime cs).map (.moment, ·)

/-- A number, a date or a time. -/
def readNumber (cs : List Char) : Option (Toml × List Char) :=
  (readMoment cs).or ((readReal cs).or (readInteger cs))

end Cutscene.Toml
