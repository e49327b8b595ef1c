import Cutscene.Content.Library
import Cutscene.Format.Ron.Reader

/-!
Content from a RON file. Fields that have no meaning are passed over; the bundles and the dance
roster may be left out.
-/

namespace Cutscene

/-- Why a content file was refused. -/
inductive ContentError where
  | unreadable (path : String)
  | malformed (path : String)
  | faulty (found : List ContentFault)
  deriving DecidableEq, Repr

def ContentError.message : ContentError → String
  | unreadable path => s!"reading content from '{path}'"
  | malformed path => s!"parsing content RON from '{path}'"
  | faulty found => Content.refusal found

/-- Reads a bundle. -/
def Bundle.ofRon? (d : RonDialect) (r : Ron) : Option Bundle := do
  let fields ← r.fieldsOf? d "EventBundleDef"
  let asset ← (← Ron.required? "asset" fields).text?
  let entries ← match ← Ron.field? "entries" fields with
    | some entries => entries.textEntries?
    | none => some []
  return ⟨asset, sortedByName entries⟩

/-- Reads a pair of a dance roster. -/
def RosterPair.ofRon? (d : RonDialect) (r : Ron) : Option RosterPair := do
  let fields ← r.fieldsOf? d "DanceRosterPair"
  let leader ← (← Ron.required? "leader" fields).text?
  let follower ← (← Ron.required? "follower" fields).text?
  return ⟨leader, follower⟩

/-- Reads a dance roster from its fields. -/
def DanceRoster.ofFields? (d : RonDialect) (fields : List (String × Ron)) : Option DanceRoster := do
  let pairs ← (← Ron.required? "pairs" fields).items?
  return ⟨← pairs.mapM (RosterPair.ofRon? d)⟩

namespace Content

/-- Reads content. The roster's record lies two steps inside, and one more where it stands for itself
as a value that might be absent. -/
def ofRon? (d : RonDialect) (r : Ron) : Option Content := do
  let fields ← r.fieldsOf? d "ContentDef"
  let bundles ← match ← Ron.field? "bundles" fields with
    | some list => (← list.items?).mapM (Bundle.ofRon? d)
    | none => some []
  let roster ← match ← Ron.field? "dance_roster" fields with
    | some choice =>
      match ← choice.optionalFields? d (Ron.deepest - 3) "DanceRosterDef" with
      | some fields => (DanceRoster.ofFields? d fields).map some
      | none => some none
    | none => some none
  return ⟨bundles, roster⟩

end Content

/-- The library of a content file, given its text if it could be read. -/
def Library.load (path : String) (text : Option String) : Except ContentError Library :=
  match text with
  | none => .error (.unreadable path)
  | some text =>
    match (Ron.parse? text).bind fun (d, r) => Content.ofRon? d r with
    | none => .error (.malformed path)
    | some content => (Library.ofContent? content).mapError .faulty

end Cutscene
