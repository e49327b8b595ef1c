import Cutscene.Actor.Reference

/-!
Who dances, and with whom. Every dancer is a player or a villager, a pair has a leader and a
follower, and a binding is what one dancer has asked of another.
-/

namespace Cutscene

/-- Somebody who dances. -/
inductive Dancer where
  | player (number : Nat)
  | villager (name : String)
  deriving DecidableEq, Repr

namespace Dancer

/-- The actor that a dancer is. -/
def id : Dancer → ActorId
  | player n => .player n
  | villager name => .named name

/-- The token by which scripts refer to a dancer. -/
def token (d : Dancer) : String := d.id.text

/-- The number of a player. -/
def number? : Dancer → Option Nat
  | player n => some n
  | villager _ => none

/-- Villagers are always there, players while they are online. -/
def isPresent (online : List Nat) : Dancer → Bool
  | player n => online.contains n
  | villager _ => true

end Dancer

/-- The two places in a pair. -/
inductive Role where
  | leader
  | follower
  deriving DecidableEq, Repr

/-- The word for a role in templates. -/
def Role.word : Role → String
  | leader => "Leader"
  | follower => "Follower"

/-- Two who dance together. -/
structure DancePair where
  leader : Dancer
  follower : Dancer
  deriving DecidableEq, Repr

namespace DancePair

/-- Who has a role. -/
def dancer (p : DancePair) : Role → Dancer
  | .leader => p.leader
  | .follower => p.follower

def has (p : DancePair) (d : Dancer) : Bool := p.leader == d || p.follower == d

/-- The lowest number of a player in the pair. -/
def lowestPlayer? (p : DancePair) : Option Nat :=
  match p.leader.number?, p.follower.number? with
  | some m, some n => some (min m n)
  | some m, none => some m
  | none, n => n

/-- A player is one of the two. -/
def involvesPlayer (p : DancePair) : Bool := p.lowestPlayer?.isSome

/-- A pair as it is shown to people. -/
def text (p : DancePair) : String := s!"{p.leader.token} & {p.follower.token}"

end DancePair

/-- A dancer takes a role in the pair with a partner. -/
structure Binding where
  dancer : Dancer
  role : Role
  partner : Dancer
  deriving DecidableEq, Repr

/-- The pair that a binding asks for. -/
def Binding.pair (b : Binding) : DancePair :=
  match b.role with
  | .leader => ⟨b.dancer, b.partner⟩
  | .follower => ⟨b.partner, b.dancer⟩

/-- Who is online and who has asked whom. -/
structure DanceInput where
  online : List Nat
  bindings : List Binding
  deriving DecidableEq, Repr

end Cutscene
