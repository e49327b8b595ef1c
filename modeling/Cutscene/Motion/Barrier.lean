import Cutscene.Cast

/-!
The movement barrier. A move gives each of its actors a target; every tick each of them walks one
step or lands. The barrier is open while a target is pending, so actors that were sent off together
release the script once, when the last has landed.
-/

namespace Cutscene

/-- Where an actor is going and which way it will face there. -/
structure Target where
  tile : Tile
  facing : Direction
  deriving DecidableEq, Repr

/-- The pending targets, in the order of their handles. -/
structure Barrier where
  pending : List (Handle × Target)
  deriving DecidableEq, Repr

namespace Barrier

/-- Nobody is on the way. -/
def closed : Barrier := ⟨[]⟩

def isClosed (b : Barrier) : Bool := b.pending.isEmpty

/-- The number of actors on the way. -/
def size (b : Barrier) : Nat := b.pending.length

/-- The target of an actor. -/
def get? (b : Barrier) (h : Handle) : Option Target := b.pending.lookup h

/-- Puts a target in its place in the order of handles, over one that is there. -/
def insertInto (h : Handle) (t : Target) : List (Handle × Target) → List (Handle × Target)
  | [] => [(h, t)]
  | m :: rest =>
    if h.number < m.1.number then (h, t) :: m :: rest
    else if h = m.1 then (h, t) :: rest
    else m :: insertInto h t rest

/-- Sends an actor to a target. -/
def insert (b : Barrier) (h : Handle) (t : Target) : Barrier := ⟨insertInto h t b.pending⟩

/-- Drops the target of an actor. -/
def remove (b : Barrier) (h : Handle) : Barrier := ⟨b.pending.filter fun m => m.1 ≠ h⟩

end Barrier

variable {α : Type} [Scalar α]

/-- An actor has arrived when its box lies within the widened target tile and is no farther from
its place there, along either axis, than one tick's walk. -/
def hasArrived (s : Settings α) (a : Actor α) (target : Tile) : Bool :=
  let size := s.tileSize
  let box := a.box size
  let cell : Rect := ⟨target.x * size, target.y * size, size, size⟩
  let goal := (a.setTile target size).box size
  let gap := max (goal.left - box.left).natAbs (goal.top - box.top).natAbs
  (cell.inflate s.arrivalSlop s.arrivalSlop).contains box && Scalar.ofInt gap ≤ a.speed s

/-- The actor at its target: exactly on the tile, facing as told, at rest and free. -/
def Actor.land (s : Settings α) (a : Actor α) (t : Target) : Actor α :=
  (((a.setTile t.tile s.tileSize).halt).face t.facing).clearOverrides

/-- One tick of an actor on its way, and whether it has landed. -/
def Actor.approach (s : Settings α) (a : Actor α) (t : Target) : Actor α × Bool :=
  if hasArrived s a t.tile then (a.land s t, true)
  else ((a.stepToward (tileOrigin s.tileSize t.tile) (a.speed s)).1, false)

/-- One tick of everybody on the way: who is still going, and the cast. A handle without a live
actor is dropped. -/
def Barrier.advance (s : Settings α) : List (Handle × Target) → Cast α →
    List (Handle × Target) × Cast α
  | [], c => ([], c)
  | (h, t) :: rest, c =>
    match c.get? h with
    | none => Barrier.advance s rest c
    | some a =>
      let (a, landed) := a.approach s t
      let (going, c) := Barrier.advance s rest (c.modify h fun _ => a)
      (if landed then going else (h, t) :: going, c)

/-- One tick of the barrier. The answer is true on the tick that closes it. -/
def Barrier.resolve (b : Barrier) (s : Settings α) (c : Cast α) : Barrier × Cast α × Bool :=
  let (going, c) := Barrier.advance s b.pending c
  (⟨going⟩, c, !b.isClosed && going.isEmpty)

end Cutscene
