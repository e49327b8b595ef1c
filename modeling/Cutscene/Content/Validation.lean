import Cutscene.Content.Bundle
import Cutscene.Text.Blank
import Cutscene.Text.Numeral

/-!
What can be wrong with content. A check lists every fault, in a fixed order: names of assets given
twice, then bundle by bundle a blank name and blank entries, then the dance roster.
-/

namespace Cutscene

/-- What a name was given to twice. -/
inductive Named where
  | asset
  | dancer
  deriving DecidableEq, Repr

def Named.text : Named → String
  | asset => "asset"
  | dancer => "dancer"

/-- A fault of content. -/
inductive ContentFault where
  | duplicate (what : Named) (name : String)
  | blankEntry (asset : String) (entry : String)
  | blankAsset
  | emptyRoster
  deriving DecidableEq, Repr

/-- A fault in words. -/
def ContentFault.message : ContentFault → String
  | duplicate what name => s!"duplicate {what.text} id '{name}'"
  | blankEntry asset entry => s!"entry '{entry}' in asset '{asset}' has no script text"
  | blankAsset => "invalid value (bundle asset name missing)"
  | emptyRoster => "invalid value (dance roster has no pairs)"

namespace Content

/-- The names that stand earlier in the list already, as often as they are repeated. -/
def repeated (seen : List String) : List String → List String
  | [] => []
  | name :: rest =>
    if name ∈ seen then name :: repeated seen rest else repeated (name :: seen) rest

/-- Nothing is repeated in a list just if nothing stands in it twice, or has been seen before. -/
theorem repeated_eq_nil_iff {seen names : List String} :
    repeated seen names = [] ↔ names.Nodup ∧ ∀ name ∈ names, name ∉ seen := by
  induction names generalizing seen with
  | nil => simp [repeated]
  | cons name rest ih =>
    rw [repeated]
    by_cases hseen : name ∈ seen
    · simp [hseen]
    · rw [if_neg hseen, ih, List.nodup_cons, List.forall_mem_cons]
      simp only [List.mem_cons, not_or]
      constructor
      · rintro ⟨hnodup, hrest⟩
        exact ⟨⟨fun hmem => (hrest name hmem).1 rfl, hnodup⟩, hseen, fun x hx => (hrest x hx).2⟩
      · rintro ⟨⟨hnew, hnodup⟩, -, hrest⟩
        exact ⟨hnodup, fun x hx => ⟨fun heq => hnew (heq ▸ hx), hrest x hx⟩⟩

/-- The faults of one bundle on its own. -/
def bundleFaults (b : Bundle) : List ContentFault :=
  (if Text.allBlank b.asset then [.blankAsset] else []) ++
    b.entries.filterMap fun (entry, text) =>
      if Text.allBlank text then some (.blankEntry b.asset entry) else none

/-- The faults of a dance roster. -/
def rosterFaults (r : DanceRoster) : List ContentFault :=
  (repeated [] (r.leaders ++ r.followers)).map (.duplicate .dancer) ++
    (if r.pairs.isEmpty then [.emptyRoster] else [])

/-- All faults of content. -/
def faults (c : Content) : List ContentFault :=
  (repeated [] (c.bundles.map Bundle.asset)).map (.duplicate .asset) ++
    c.bundles.flatMap bundleFaults ++
    (match c.danceRoster with
      | some r => rosterFaults r
      | none => [])

/-- The faults of refused content in one line. -/
def refusal (found : List ContentFault) : String :=
  s!"{Numeral.ofNat found.length} content error(s): " ++
    "; ".intercalate (found.map ContentFault.message)

end Content

end Cutscene
