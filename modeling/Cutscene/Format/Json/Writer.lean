import Cutscene.Format.Json
import Cutscene.Scalar.Single
import Cutscene.Text.Hex

/-!
Writing JSON for people: one member or item a line, two spaces of indentation for each level.
Numbers of the stage are widened to sixty-four bits and written with their shortest digits.
-/

namespace Cutscene.Json

/-- A number of the stage; null if it is not finite. -/
def ofReal (x : Float32) : Json :=
  if Single.isFinite x then
    let bits := BinaryFormat.single.convert .double (Single.pattern x)
    let (digits, exponent) :=
      BinaryFormat.double.shortest .even (bits % BinaryFormat.double.signBit)
    .number ⟨BinaryFormat.double.signBit ≤ bits, digits, exponent⟩ false
  else .null

/-- A character as it stands between quotes. -/
def writeChar (c : Char) : List Char :=
  match c with
  | '"' => ['\\', '"']
  | '\\' => ['\\', '\\']
  | '\x08' => ['\\', 'b']
  | '\x0c' => ['\\', 'f']
  | '\n' => ['\\', 'n']
  | '\r' => ['\\', 'r']
  | '\t' => ['\\', 't']
  | c =>
    if c.toNat < 32 then ['\\', 'u', '0', '0', Text.hexChar (c.toNat / 16), Text.hexChar (c.toNat % 16)]
    else [c]

/-- A text between quotes. -/
def writeText (s : String) : String := String.ofList ('"' :: (s.toList.flatMap writeChar ++ ['"']))

/-- A number by its decimal value. -/
def writeNumber (d : Decimal) (whole : Bool) : String :=
  let body :=
    if whole then Numeral.digits (d.digits * Nat.pow 10 d.exponent.toNat)
    else RealLayout.json.writeDecimal d.digits d.exponent
  String.ofList (if d.negative then '-' :: body else body)

/-- A new line at a level. -/
def newLine (level : Nat) : String := String.ofList ('\n' :: List.replicate (2 * level) ' ')

/-- Written parts between brackets, one a line. -/
def block (opening closing : Char) (level : Nat) (parts : List String) : String :=
  if parts.isEmpty then String.ofList [opening, closing]
  else
    let line := newLine (level + 1)
    opening.toString ++ line ++ ("," ++ line).intercalate parts ++ newLine level ++
      closing.toString

mutual

/-- A value at a level; null for what cannot be read. -/
def writeAt (level : Nat) : Json → String
  | .null => "null"
  | .unreadable => "null"
  | .bool true => "true"
  | .bool false => "false"
  | .number d whole => writeNumber d whole
  | .text s => writeText s
  | .array items => block '[' ']' level (writeItems (level + 1) items)
  | .object members => block '\x7b' '\x7d' level (writeMembers (level + 1) members)

/-- The items of an array. -/
def writeItems (level : Nat) : List Json → List String
  | [] => []
  | item :: rest => writeAt level item :: writeItems level rest

/-- The members of an object. -/
def writeMembers (level : Nat) : List (String × Json) → List String
  | [] => []
  | (name, value) :: rest =>
    (writeText name ++ ": " ++ writeAt level value) :: writeMembers level rest

end

/-- A value as text. -/
def write (j : Json) : String := writeAt 0 j

end Cutscene.Json
