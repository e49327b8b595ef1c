import Cutscene.Report

/-!
What an event asks of its stage. Every request is a value, so that the requests of a run can be
kept and compared.
-/

namespace Cutscene

/-- Where the camera looks. -/
inductive Camera where
  /-- At the local player, wherever it goes. -/
  | follow
  | fixed (tile : Tile)
  | pan (offset : Tile) (milliseconds : Int)
  deriving DecidableEq, Repr

/-- A passing visual effect. -/
structure Effect where
  name : String
  tile : Tile
  options : List String
  tint : Option Color
  /-- The part of the sprite sheet to draw. -/
  source : Option Rect
  deriving DecidableEq, Repr

/-- What becomes of the player when the event is over. -/
inductive Ending where
  | plain
  | warpOut
  | newDay
  | position (tile : Tile)
  | dialogue (actor text : String)
  | invisible (actor : String)
  deriving DecidableEq, Repr

/-- The ending that the arguments of an `end` command mean. -/
def Ending.ofArgs (a : Args) : Args.Read Ending :=
  match a.get? 1 with
  | none => .ok .plain
  | some kind =>
    let word := Text.lower kind
    if word = "warpout" then .ok .warpOut
    else if word = "newday" then .ok .newDay
    else if word = "position" then (a.point 2 "position").map .position
    else if word = "dialogue" then do
      let actor ← a.get 2 "actor"
      let text ← a.remainder 3 "text"
      return .dialogue actor text
    else if word = "invisible" then (a.get 2 "actor").map .invisible
    else .error (.invalid 1 "end behavior" kind .endBehavior)

/-- How an event came to its end. -/
inductive Outcome where
  /-- It ran to an `end`, or out of commands. -/
  | finished (ending : Ending)
  /-- It was skipped, and ended as its last `end` says. -/
  | skipped (ending : Ending)
  | aborted (index : Nat) (fault : Fault)
  deriving DecidableEq, Repr

/-- A request to the stage. -/
inductive Call (α : Type) where
  | pushDialogue (speaker : Option String) (text : String)
  | askQuestion (question : String) (answers : List String)
  | closeMenus
  | beginFade (toBlack : Bool) (speed : α) (continues : Bool)
  | flashScreen (alpha : α)
  | requestReady (gate : String)
  /-- Shows that the others are waited for at a gate, or no longer. -/
  | waitingForPlayers (gate : Option String)
  | playSound (sound : String)
  /-- Plays a track, or none. -/
  | playMusic (track : Option String)
  | viewport (camera : Camera)
  | effect (effect : Effect)
  | emote (actor : String) (emote : Int)
  | addFlag (flag : String)
  | friendship (npc : String) (amount : Int)
  | addItem (item : String) (count : Int)
  | deathPenalty (lost : Nat)
  | showLostItems
  | awardPrize (prize : Option String)
  | triggerAction (action : String)
  | endEvent (outcome : Outcome)
  deriving DecidableEq, Repr

end Cutscene
