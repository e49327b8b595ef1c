import Cutscene.Dance.Dancer
import Cutscene.Format.Json

/-!
Dance input as JSON: the numbers of the players online, and bindings, which may be left out. A
dancer is a choice between a player's number and a villager's name.
-/

namespace Cutscene

namespace Dancer

/-- Reads a dancer. -/
def ofJson? (j : Json) : Option Dancer := do
  let (kind, value) ← j.choice?
  if kind = "Player" then (value.natBelow? 0x100000000).map .player
  else if kind = "Villager" then value.text?.map .villager
  else none

end Dancer

namespace Role

/-- Reads a role: its word, alone or as a choice of nothing. -/
def ofJson? (j : Json) : Option Role := do
  let word ← match j with
    | .text word => some word
    | .object [(word, .null)] => some word
    | _ => none
  [leader, follower].find? fun role => role.word = word

end Role

namespace Binding

/-- Reads a binding. -/
def ofJson? (j : Json) : Option Binding := do
  match ← j.fields? ["dancer", "role", "partner"] with
  | [some dancer, some role, some partner] =>
    return ⟨← Dancer.ofJson? dancer, ← Role.ofJson? role, ← Dancer.ofJson? partner⟩
  | _ => none

end Binding

namespace DanceInput

/-- Reads dance input. -/
def ofJson? (j : Json) : Option DanceInput := do
  match ← j.fields? ["online_players", "bindings"] with
  | [some online, bindings] =>
    let online ← (← online.items?).mapM (·.natBelow? 0x100000000)
    let bindings ← match bindings with
      | some list => (← list.items?).mapM Binding.ofJson?
      | none => some []
    return ⟨online, bindings⟩
  | _ => none

end DanceInput

end Cutscene
