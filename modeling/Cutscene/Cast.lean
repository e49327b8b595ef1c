import Cutscene.Actor.Basic
import Cutscene.Actor.Reference

/-!
The cast of an event: its live actors, each under a handle that lasts as long as the event.
Handles are given out in order, and the cast is kept in the order of its handles.
-/

namespace Cutscene

/-- The lasting name of an actor of a cast. -/
structure Handle where
  number : Nat
  deriving DecidableEq, Repr

/-- A handle as it is shown to people. -/
def Handle.text (h : Handle) : String := "#" ++ Numeral.ofNat h.number

/-- Live actors under their handles, and the player at this machine. -/
structure Cast (α : Type) where
  members : List (Handle × Actor α)
  /-- The number of the next handle. -/
  next : Nat
  localPlayer : Nat
  deriving Repr

namespace Cast

variable {α : Type}

/-- A cast without actors. -/
def empty (localPlayer : Nat) : Cast α := ⟨[], 0, localPlayer⟩

/-- The number of live actors. -/
def size (c : Cast α) : Nat := c.members.length

/-- The actor under a handle. -/
def get? (c : Cast α) (h : Handle) : Option (Actor α) := c.members.lookup h

/-- The first handle whose actor passes a test. -/
def handleOf? (c : Cast α) (test : Actor α → Bool) : Option Handle :=
  (c.members.find? fun m => test m.2).map Prod.fst

/-- The avatar of a player. -/
def findPlayer? (c : Cast α) (number : Nat) : Option Handle :=
  c.handleOf? fun a => a.kind == .avatar number

/-- An actor that is no avatar, by its name: spelled so exactly, or else in other letter case. -/
def findNamed? (c : Cast α) (name : String) : Option Handle :=
  (c.handleOf? fun a => !a.kind.isAvatar && a.name == name).or
    (c.handleOf? fun a => !a.kind.isAvatar && Text.alike a.name name)

/-- The live actor that an identity means. -/
def find? (c : Cast α) : ActorId → Option Handle
  | .localPlayer => c.findPlayer? c.localPlayer
  | .player n => c.findPlayer? n
  | .named name => c.findNamed? name

/-- The live actor that a reference means. -/
def resolve? (c : Cast α) (r : ActorRef) : Option Handle := c.find? r.id

/-- The identity under which an actor comes on: an avatar by number, any other by name. -/
def identity (a : Actor α) : ActorId :=
  match a.kind with
  | .avatar n => .player n
  | _ => .named a.name

/-- Changes the actor under a handle. -/
def modify (c : Cast α) (h : Handle) (f : Actor α → Actor α) : Cast α :=
  { c with members := c.members.map fun m => if m.1 = h then (m.1, f m.2) else m }

/-- Changes every actor. -/
def modifyAll (c : Cast α) (f : Actor α → Actor α) : Cast α :=
  { c with members := c.members.map fun m => (m.1, f m.2) }

/-- Brings an actor on. One whose identity is live takes the place of that actor under its handle;
any other gets the next handle. -/
def spawn (c : Cast α) (a : Actor α) : Handle × Cast α :=
  match c.find? (identity a) with
  | some h => (h, c.modify h fun _ => a)
  | none =>
    (⟨c.next⟩, { c with members := c.members ++ [(⟨c.next⟩, a)], next := c.next + 1 })

/-- Takes an actor off. -/
def remove (c : Cast α) (h : Handle) : Cast α :=
  { c with members := c.members.filter fun m => m.1 ≠ h }

/-- Stops every actor. -/
def haltAll (c : Cast α) : Cast α := c.modifyAll Actor.halt

end Cast

end Cutscene
