import Cutscene.Text.Cut
import Cutscene.Text.Hex

/-!
What stands between quotes in a RON document: texts, characters and bytes. A text may be raw, or
hold escapes that begin with a backslash.
-/

namespace Cutscene.Ron

/-! ### Escapes -/

/-- What a single letter after a backslash stands for. -/
def escaped? (c : Char) : Option Char :=
  match c with
  | '\x27' => some '\x27'
  | '"' => some '"'
  | '\\' => some '\\'
  | 'n' => some '\n'
  | 'r' => some '\r'
  | 't' => some '\t'
  | '0' => some '\x00'
  | _ => none

/-- The character between the braces of an escape: one to six hexadecimal digits. -/
def readPoint (cs : List Char) : Option (Char × List Char) := do
  let (digits, rest) := cs.span (· ≠ '\x7d')
  if digits.isEmpty ∨ 6 < digits.length then none
  let c ← Text.codePoint? (← Text.hex? digits)
  return (c, ← rest.tail?)

/-- A character from its bytes, each written as `\xHH`: those that are read already, and as many as
it needs of those that follow, if they are fewer than the number. -/
def readBytes : Nat → List UInt8 → List Char → Option (Char × List Char)
  | 0, _, _ => none
  | room + 1, bytes, cs =>
    match String.fromUTF8? ⟨bytes.toArray⟩ with
    | some s => s.toList.head?.map (·, cs)
    | none =>
      match cs with
      | '\\' :: 'x' :: a :: b :: rest => do
        readBytes room (bytes ++ [(← Text.hex? [a, b]).toUInt8]) rest
      | _ => none

/-- The character of an escape in a text, after its backslash, and the rest. A character may be
written as at most so many bytes. -/
def readEscape (most : Nat) (cs : List Char) : Option (Char × List Char) :=
  match cs with
  | 'x' :: a :: b :: rest => do readBytes most [(← Text.hex? [a, b]).toUInt8] rest
  | 'u' :: '\x7b' :: rest => readPoint rest
  | c :: rest => (escaped? c).map (·, rest)
  | [] => none

/-- The text after an escape among bytes, of which one is written as `\xHH`. -/
def skipByteEscape (cs : List Char) : Option (List Char) :=
  match cs with
  | 'x' :: a :: b :: rest => (Text.hex? [a, b]).map fun _ => rest
  | c :: rest => (escaped? c).map fun _ => rest
  | [] => none

/-! ### Texts -/

/-- What stands before the closing quote, and the rest after it. The character after a backslash
does not close. -/
def cutQuoted : List Char → Option (List Char × List Char)
  | [] => none
  | '"' :: rest => some ([], rest)
  | '\\' :: c :: rest => (cutQuoted rest).map fun (inside, after) => ('\\' :: c :: inside, after)
  | c :: rest => (cutQuoted rest).map fun (inside, after) => (c :: inside, after)

/-- The characters that are written between quotes; every step uses up one of what is written. -/
def readChars : Nat → List Char → Option (List Char)
  | _, [] => some []
  | 0, _ => none
  | fuel + 1, '\\' :: rest => do
    let (c, rest) ← readEscape 4 rest
    return c :: (← readChars fuel rest)
  | fuel + 1, c :: rest => (readChars fuel rest).map (c :: ·)

/-- The characters up to a closing mark. -/
def readUntil (mark : List Char) : List Char → Option (List Char × List Char)
  | [] => none
  | c :: rest =>
    match Text.after? mark (c :: rest) with
    | some after => some ([], after)
    | none => (readUntil mark rest).map fun (more, after) => (c :: more, after)

/-- A raw text after its `r`: number signs, a quote, the text, a quote and as many signs. -/
def readRaw (cs : List Char) : Option (String × List Char) :=
  let (signs, rest) := cs.span (· == '#')
  match rest with
  | '"' :: rest => (readUntil ('"' :: signs) rest).map fun (chars, after) =>
      (String.ofList chars, after)
  | _ => none

/-- A text, raw or with escapes. -/
def readText (cs : List Char) : Option (String × List Char) :=
  match cs with
  | '"' :: rest => do
    let (inside, after) ← cutQuoted rest
    return (String.ofList (← readChars inside.length inside), after)
  | 'r' :: rest => readRaw rest
  | _ => none

/-! ### Characters and bytes -/

/-- The text after a single quote. -/
def closeQuote? : List Char → Option (List Char)
  | '\x27' :: rest => some rest
  | _ => none

/-- The text after a character between single quotes; as bytes it may have only one. -/
def skipChar (cs : List Char) : Option (List Char) :=
  match cs with
  | '\x27' :: '\\' :: rest => do closeQuote? (← readEscape 1 rest).2
  | '\x27' :: _ :: rest => closeQuote? rest
  | _ => none

/-- The text after a byte between single quotes, without its `b`. -/
def skipByte (cs : List Char) : Option (List Char) :=
  match cs with
  | '\x27' :: '\\' :: rest => do closeQuote? (← skipByteEscape rest)
  | '\x27' :: c :: rest => if c.toNat < 128 then closeQuote? rest else none
  | _ => none

/-- What is written between quotes stands for bytes; every step uses up a character. -/
def areBytes : Nat → List Char → Bool
  | _, [] => true
  | 0, _ => false
  | fuel + 1, '\\' :: 'u' :: '\x7b' :: rest => (readPoint rest).any fun (_, rest) =>
      areBytes fuel rest
  | fuel + 1, '\\' :: rest => (skipByteEscape rest).any (areBytes fuel)
  | fuel + 1, _ :: rest => areBytes fuel rest

/-- The text after bytes between quotes, raw or with escapes, without their `b`. -/
def skipBytes (cs : List Char) : Option (List Char) :=
  match cs with
  | '"' :: rest => do
    let (inside, after) ← cutQuoted rest
    if areBytes inside.length inside then return after else none
  | 'r' :: rest => (readRaw rest).map (·.2)
  | _ => none

example : readText "\"a\\xc3\\xa9\\u\x7be9\x7d\" b".toList = some ("aéé", " b".toList) := by
  decide +kernel
example : readText "\"\\u\x7be9\" b".toList = none ∧
    skipBytes "\"\\xff\\u\x7be9\x7d\"".toList = some [] := by decide +kernel
example : skipByte "'\\xff'".toList = some [] ∧ skipChar "'\\xc3\\xa9'".toList = none ∧
    skipChar "'''".toList = some [] := by decide +kernel

end Cutscene.Ron
