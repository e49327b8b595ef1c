import Cutscene.Stage.Call

/-!
The stage: all that an event acts on and asks about without owning it, such as the screen, the
menus, the saved game and the other players. A stage is a state with questions to it and the two
ways it changes: by a request, and by the passing of time.
-/

namespace Cutscene

/-- The states of type `σ` are stages for events timed in `α`. -/
class Stage (α : Type) (σ : Type) where
  localPlayer : σ → Nat
  onlinePlayers : σ → List Nat
  dialogueOpen : σ → Bool
  /-- A menu or a dialogue is up. -/
  menuOpen : σ → Bool
  /-- Something other than the event holds the frame. -/
  worldFrozen : σ → Bool
  fadeComplete : σ → Bool
  gateReady : σ → String → Bool
  hasFlag : σ → String → Bool
  translate? : σ → String → Option String
  /-- What an actor says in a state of the game. -/
  stateDialogue? : σ → String → String → Option String
  /-- How many items a knock-out costs. -/
  itemsToLose : σ → Nat
  festivalWinner : σ → Bool
  /-- Why a trigger action fails, if it does. -/
  actionFailure? : σ → String → Option String
  /-- The answer picked for the last question, once there is one; it is given out once. -/
  takeAnswer : σ → Option Nat × σ
  perform : Call α → σ → σ
  /-- The passing of one tick. -/
  elapse : α → σ → σ

end Cutscene
