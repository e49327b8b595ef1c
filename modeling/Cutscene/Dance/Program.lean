import Cutscene.Content.Library
import Cutscene.Dance.Assembly
import Cutscene.Dance.Pairing

/-!
The dance of an event: the template from the library, filled with the pairs that the roster and
the dancers' own choices make.
-/

namespace Cutscene

/-- Why there is no dance. -/
inductive DanceFault where
  | lookup (cause : LookupError)
  | noRoster
  | noSlots (key : ScriptKey)
  | tooManyPairs (cause : TooManyPairs)
  deriving DecidableEq, Repr

def DanceFault.message : DanceFault → String
  | lookup cause => cause.message
  | noRoster => "no dance roster is loaded"
  | noSlots key => s!"script '{key.text}' has no Leader/Follower slots"
  | tooManyPairs cause => cause.message

/-- The script of a dance, written from the template of an entry. -/
def Library.danceScript (l : Library) (asset entry : String) (year : Nat) (input : DanceInput) :
    Except DanceFault Script := do
  let template ← (l.resolve asset entry year).mapError .lookup
  let some roster := l.danceRoster | throw .noRoster
  let slots := slotCount template.commands
  if slots = 0 then throw (.noSlots template.key)
  let pairs ← (pairDancers input roster slots).mapError .tooManyPairs
  return { template with commands := Dance.assemble template.commands pairs }

end Cutscene
