import Cutscene.Scalar.Basic

/-!
What runs on an actor by the clock: the frames of a sprite animation, and countdowns.
-/

namespace Cutscene

/-- A list of frames, each shown for the same time. -/
structure Animation (α : Type) where
  frames : List Nat
  frameTime : α
  looping : Bool
  /-- The frame on show. -/
  index : Nat
  /-- How long it has been on show. -/
  elapsed : α
  deriving DecidableEq, Repr

namespace Animation

variable {α : Type} [Scalar α]

/-- An animation about to show its first frame. -/
def start (frames : List Nat) (frameTime : α) (looping : Bool) : Animation α :=
  ⟨frames, frameTime, looping, 0, 0⟩

/-- The number of the frame on show. -/
def current? (a : Animation α) : Option Nat := a.frames[a.index]?

/-- The animation when a frame has had its time: the next frame is on show, and after the last one
the first if the animation is looping; nothing if it is not. -/
def turn? (a : Animation α) : Option (Animation α) :=
  let rest := a.elapsed - a.frameTime
  if a.index + 1 < a.frames.length then some { a with index := a.index + 1, elapsed := rest }
  else if a.looping then some { a with index := 0, elapsed := rest }
  else none

/-- One pass of the loop that turns frames over. If the clock holds the time of the frame on show,
the loop goes on with the next one, and comes out with nothing if there is none. If it does not, the
loop comes out with the animation as it is. -/
def pass (a : Animation α) : Animation α ⊕ Option (Animation α) :=
  if a.frameTime ≤ a.elapsed then
    match a.turn? with
    | some next => .inl next
    | none => .inr none
  else .inr (some a)

/-- What the loop comes out with. If every pass goes on, it never comes out. -/
def settle (a : Animation α) : Option (Animation α) := Id.run (repeatM pass a)

/-- The animation after some time; nothing if it is over. An animation without frames or without
a frame time is over at once. -/
def advance (a : Animation α) (elapsed : α) : Option (Animation α) :=
  if a.frames.isEmpty ∨ a.frameTime ≤ 0 then none
  else { a with elapsed := a.elapsed + elapsed }.settle

end Animation

/-- A time that runs out, with a value that means something to its user. -/
structure Countdown (α : Type) where
  remaining : α
  value : Int
  deriving DecidableEq, Repr

/-- A countdown after some time; nothing once it has run out. -/
def Countdown.tick {α : Type} [Scalar α] (elapsed : α) (c : Countdown α) :
    Option (Countdown α) :=
  let rest := c.remaining - elapsed
  if rest ≤ 0 then none else some { c with remaining := rest }

end Cutscene
