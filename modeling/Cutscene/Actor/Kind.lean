import Cutscene.Text.Letter

/-!
The kinds of actors. What an actor is able to do depends on its kind alone.
-/

namespace Cutscene

/-- What sort of being an actor is. -/
inductive ActorKind where
  | avatar (number : Nat)
  | villager
  | pet
  | monster
  | prop
  deriving DecidableEq, Repr

namespace ActorKind

/-- A kind that scripts can add, by its word in any letter case. -/
def ofToken? (token : String) : Option ActorKind :=
  let t := Text.lower token
  if t = "npc" ∨ t = "villager" then some .villager
  else if t = "pet" then some .pet
  else if t = "monster" then some .monster
  else if t = "prop" then some .prop
  else none

/-- Everything but a prop shows emotes. -/
def canEmote : ActorKind → Bool
  | prop => false
  | _ => true

/-- Players and villagers speak. -/
def canSpeak : ActorKind → Bool
  | avatar _ => true
  | villager => true
  | _ => false

def isAvatar : ActorKind → Bool
  | avatar _ => true
  | _ => false

end ActorKind

end Cutscene
