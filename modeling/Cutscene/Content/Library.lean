import Cutscene.Content.Validation
import Cutscene.Script.Segment

/-!
The library of scripts: content that has been loaded, looked up by asset, entry and year.
-/

namespace Cutscene

/-- Where a script comes from. -/
structure ScriptKey where
  asset : String
  entry : String
  /-- What is added to the entry, such as `y2`. -/
  variant : Option String
  deriving DecidableEq, Repr

namespace ScriptKey

/-- The entry that the script is read from. -/
def resolvedEntry (k : ScriptKey) : String :=
  match k.variant with
  | some v => s!"{k.entry}_{v}"
  | none => k.entry

/-- A key as it is shown to people. -/
def text (k : ScriptKey) : String := s!"{k.asset}:{k.resolvedEntry}"

end ScriptKey

/-- A script cut into commands. -/
structure Script where
  key : ScriptKey
  commands : List String
  deriving DecidableEq, Repr

/-- Why no script was found. -/
inductive LookupError where
  | unknownAsset (asset : String)
  | missingScript (asset : String) (entry : String)
  | vanished (key : ScriptKey)
  deriving DecidableEq, Repr

def LookupError.message : LookupError → String
  | unknownAsset asset => s!"unknown asset '{asset}'"
  | missingScript asset entry => s!"no entry '{entry}' in asset '{asset}'"
  | vanished key => s!"entry vanished while resolving {key.text}"

/-- Entries by asset, and the dance roster. -/
structure Library where
  assets : List (String × List (String × String))
  danceRoster : Option DanceRoster
  deriving DecidableEq, Repr

namespace Library

/-- A library that holds nothing. -/
def empty : Library := ⟨[], none⟩

/-- Puts the entries of an asset in, over those it has. -/
def insertAsset (l : Library) (asset : String) (entries : List (String × String)) : Library :=
  { l with assets := (asset, entries) :: l.assets.filter fun a => a.1 ≠ asset }

/-- The library of content, which must be without fault. -/
def ofContent? (c : Content) : Except (List ContentFault) Library :=
  match c.faults with
  | [] =>
    let filled := c.bundles.foldl (fun l b => l.insertAsset b.asset b.entries) empty
    .ok { filled with danceRoster := c.danceRoster }
  | found => .error found

/-- The entries of an asset. -/
def entries? (l : Library) (asset : String) : Option (List (String × String)) :=
  l.assets.lookup asset

def hasAsset (l : Library) (asset : String) : Bool := (l.entries? asset).isSome

/-- The text of one entry, of no other year. -/
def entry? (l : Library) (asset entry : String) : Option String :=
  (l.entries? asset).bind (·.lookup entry)

/-- The variants of an entry in the order in which a year prefers them: its own, in even years
that of the second, and the entry itself. -/
def variants (year : Nat) : List (Option String) :=
  some s!"y{Numeral.ofNat year}" :: (if year % 2 = 0 then [some "y2"] else []) ++ [none]

/-- The key of an entry in a year. -/
def resolveKey (l : Library) (asset entry : String) (year : Nat) :
    Except LookupError ScriptKey :=
  match l.entries? asset with
  | none => .error (.unknownAsset asset)
  | some entries =>
    let keys := (variants year).map fun v => (⟨asset, entry, v⟩ : ScriptKey)
    match keys.find? fun k => (entries.lookup k.resolvedEntry).isSome with
    | some key => .ok key
    | none => .error (.missingScript asset entry)

/-- The script of an entry in a year. -/
def resolve (l : Library) (asset entry : String) (year : Nat) : Except LookupError Script := do
  let key ← l.resolveKey asset entry year
  match l.entry? key.asset key.resolvedEntry with
  | some text => return ⟨key, Script.split text⟩
  | none => throw (.vanished key)

end Library

end Cutscene
