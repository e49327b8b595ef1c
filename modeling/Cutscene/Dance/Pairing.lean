import Cutscene.Content.Bundle
import Cutscene.Dance.Dancer

/-!
Who dances with whom. Bindings are granted first come, first served; villagers of the roster who
are still free fill the slots that stay open. The most important pair stands in the middle and the
others outward from it, front and back by turns.
-/

namespace Cutscene

namespace DancePair

/-- One of the pairs has the dancer. -/
def anyHas (pairs : List DancePair) (d : Dancer) : Bool := pairs.any (·.has d)

end DancePair

namespace DanceInput

open DancePair (anyHas)

/-- A binding can be granted: both are there, they are two, and neither is bound yet. -/
def grants (i : DanceInput) (bound : List DancePair) (b : Binding) : Bool :=
  b.dancer.isPresent i.online && b.partner.isPresent i.online && b.dancer != b.partner &&
    !anyHas bound b.dancer && !anyHas bound b.partner

/-- The pairs that are granted, in the order of their bindings. -/
def bound (i : DanceInput) : List DancePair :=
  i.bindings.foldl (fun bound b => if i.grants bound b then bound ++ [b.pair] else bound) []

/-- The granted pairs by importance: those with players by their lowest number, then those of
villagers. -/
def ranked (i : DanceInput) : List DancePair :=
  let (players, villagers) := i.bound.partition DancePair.involvesPlayer
  players.mergeSort (fun p q => p.lowestPlayer?.getD 0 ≤ q.lowestPlayer?.getD 0) ++ villagers

/-- The villagers among some names who are not bound. -/
def free (i : DanceInput) (names : List String) : List Dancer :=
  (names.map Dancer.villager).filter fun d => !anyHas i.bound d

/-- The pairs of the roster villagers who are free. -/
def fillers (i : DanceInput) (roster : DanceRoster) : List DancePair :=
  List.zipWith DancePair.mk (i.free roster.leaders) (i.free roster.followers)

end DanceInput

/-- Puts elements around those that stand already, to the front and to the back by turns. -/
def arrangeAround {β : Type} (standing : List β) : List β → List β
  | [] => standing
  | [a] => a :: standing
  | a :: b :: rest => arrangeAround (a :: standing ++ [b]) rest

/-- The bound pairs are more than the slots. -/
structure TooManyPairs where
  pairs : Nat
  slots : Nat
  deriving DecidableEq, Repr

def TooManyPairs.message (e : TooManyPairs) : String :=
  s!"{Numeral.ofNat e.pairs} bound pair(s) do not fit the {Numeral.ofNat e.slots} slot(s) " ++
    "in the dance template"

/-- The pairs of a dance in the order of its slots. -/
def pairDancers (i : DanceInput) (roster : DanceRoster) (slots : Nat) :
    Except TooManyPairs (List DancePair) :=
  let ranked := i.ranked
  if slots < ranked.length then .error ⟨ranked.length, slots⟩
  else .ok (arrangeAround [] (ranked ++ (i.fillers roster).take (slots - ranked.length)))

example : arrangeAround [] [0, 1, 2, 3, 4] = [4, 2, 0, 1, 3] := by decide

end Cutscene
