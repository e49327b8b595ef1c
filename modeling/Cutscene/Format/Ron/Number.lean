import Cutscene.Decimal.Basic
import Cutscene.Text.Hex
import Cutscene.Text.Identifier

/-!
Where a number of a RON document ends. Its value is not kept, but it must be one: a whole number
fits its width, and a real number has digits. A number is read as a real one where more of the text
can belong to a real number than to a whole one; a whole number that is refused is tried as a real
one, which must reach as far.
-/

namespace Cutscene.Ron

/-! ### Whole numbers -/

/-- A width for whole numbers: the word that asks for it behind the digits, and the greatest
distances from zero to either side. -/
structure Width where
  word : String
  below : Nat
  above : Nat
  deriving DecidableEq, Repr

/-- A width with a sign. -/
def Width.signed (word : String) (bits : Nat) : Width :=
  ⟨word, Nat.pow 2 (bits - 1), Nat.pow 2 (bits - 1) - 1⟩

/-- A width without a sign. -/
def Width.unsigned (word : String) (bits : Nat) : Width := ⟨word, 0, Nat.pow 2 bits - 1⟩

/-- The widths that a number may ask for. -/
def widths : List Width :=
  [.signed "i8" 8, .signed "i16" 16, .signed "i32" 32, .signed "i64" 64,
    .unsigned "u8" 8, .unsigned "u16" 16, .unsigned "u32" 32, .unsigned "u64" 64]

/-- The width of a number that asks for none: any that holds it will do. -/
def Width.any : Width := ⟨"", 0x8000000000000000, 0xffffffffffffffff⟩

/-- The greatest distance from zero to one side. -/
def Width.most (w : Width) (negative : Bool) : Nat := if negative then w.below else w.above

/-- The word at the front of a text. -/
def wordAt (cs : List Char) : String := String.ofList (cs.takeWhile Text.isNamePart)

/-- A character of a whole number. -/
def isWholeChar (c : Char) : Bool := (Text.hexDigit? c).isSome || c == '_'

/-- How far the digits of a number in some base reach: to their end, or as an error to the digit
that the base does not have; to their end also where the number is too great. -/
def digitsReach (base most finish : Nat) : Nat → Nat → List Char → Except Nat Nat
  | _, _, [] => .ok finish
  | value, place, '_' :: rest => digitsReach base most finish value (place + 1) rest
  | value, place, c :: rest =>
    if most < value * base then .error finish
    else
      match (Text.hexDigit? c).filter (· < base) with
      | none => .error place
      | some d =>
        if most < value * base + d then .error finish
        else digitsReach base most finish (value * base + d) (place + 1) rest

/-- How far a whole number without its sign reaches: a base, if it is not ten, and digits. -/
def unsignedReach (most : Nat) (cs : List Char) : Except Nat Nat :=
  let (base, start) := match cs with
    | '0' :: 'b' :: _ => (2, 2)
    | '0' :: 'o' :: _ => (8, 2)
    | '0' :: 'x' :: _ => (16, 2)
    | _ => (10, 0)
  match (cs.drop start).takeWhile isWholeChar with
  | [] => .error start
  | '_' :: _ => .error start
  | digits => digitsReach base most (start + digits.length) 0 start digits

/-- The text without a sign in front, whether it is a minus, and its length. -/
def splitSign : List Char → Bool × Nat × List Char
  | '-' :: rest => (true, 1, rest)
  | '+' :: rest => (false, 1, rest)
  | cs => (false, 0, cs)

/-- How far a whole number reaches, and as an error how far what is wrong with it. A number that is
too great for the width that it asks for reaches behind the word for that width. -/
def wholeReach (cs : List Char) : Except Nat Nat :=
  let (negative, sign, cs) := splitSign cs
  let asked := wordAt (cs.dropWhile isWholeChar)
  let reach := match widths.find? (·.word = asked) with
    | none => unsignedReach (Width.any.most negative) cs
    | some w =>
      let finish := (cs.takeWhile isWholeChar).length
      match unsignedReach (w.most negative) cs with
      | .ok _ => .ok (finish + asked.length)
      | .error n => .error (if n = finish then n + asked.length else n)
  match reach with
  | .ok n => .ok (sign + n)
  | .error n => .error (sign + n)

/-! ### Real numbers -/

/-- The words for what is not finite. -/
def notFinite : List String := ["inf", "inff32", "inff64", "NaN", "NaNf32", "NaNf64"]

/-- A character of a real number. -/
def isRealChar (c : Char) : Bool :=
  c.isDigit || c == 'e' || c == 'E' || c == '.' || c == '+' || c == '-' || c == '_'

/-- The text of a real number without its underscores, which may follow a digit or the letter before
the power of ten. -/
def dropUnderscores : Bool → List Char → Option (List Char)
  | _, [] => some []
  | allowed, '_' :: rest => if allowed then dropUnderscores true rest else none
  | allowed, c :: rest =>
    let allowed := if c = '+' ∨ c = '-' then allowed else c ≠ '.'
    (dropUnderscores allowed rest).map (c :: ·)

/-- How far a real number reaches. -/
def realReach? (cs : List Char) : Option Nat :=
  let (_, sign, body) := splitSign cs
  if notFinite.contains (wordAt body) then some (sign + (wordAt body).length)
  else do
    let run := cs.takeWhile isRealChar
    let _ ← RealText.read? (String.ofList (← dropUnderscores false run))
    let width := wordAt (cs.drop run.length)
    return run.length + if width = "f32" ∨ width = "f64" then width.length else 0

/-! ### Either -/

/-- More of the text can belong to a real number than to a whole one. -/
def looksReal (cs : List Char) : Bool :=
  let (_, _, body) := splitSign cs
  (body.takeWhile isWholeChar).length < (body.takeWhile isRealChar).length

/-- How far a number reaches. -/
def numberReach? (cs : List Char) : Option Nat :=
  if looksReal cs then realReach? cs
  else
    match wholeReach cs with
    | .ok n => some n
    | .error n => (realReach? cs).filter (n ≤ ·)

/-- The text after a number. -/
def readNumber (cs : List Char) : Option (List Char) :=
  (numberReach? cs).map cs.drop

example : ["-128i8", "0b1u8", "0xAf32", "1__0", "1E-5", "5.", "-inff32", "+NaN"].all fun s =>
    numberReach? s.toList = some s.length := by decide +kernel
example : ["300u8", "-1u8", "0x_1", "1._5", "-_5", "0b2", ".", "+", "1-2"].all fun s =>
    numberReach? s.toList = none := by decide +kernel
example : ["0o7u8", "12abc", "1i128", "1e3i32"].map (numberReach? ·.toList) =
    [some 3, some 2, some 1, some 3] := by decide +kernel

end Cutscene.Ron
