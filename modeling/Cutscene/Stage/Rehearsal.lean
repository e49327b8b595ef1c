import Cutscene.Stage.Basic

/-!
A rehearsal: a stage without a game behind it. What a game would answer is set beforehand.
-/

namespace Cutscene

/-- The answers of a stage without a game. -/
structure Rehearsal where
  localPlayer : Nat := 1
  online : List Nat := [1]
  dialogueOpen : Bool := false
  menuOpen : Bool := false
  worldFrozen : Bool := false
  fadeComplete : Bool := true
  readyGates : List String := []
  /-- The picks for the questions to come. -/
  answers : List Nat := []
  flags : List String := []
  failingActions : List String := []
  translations : List (String × String) := []
  stateDialogue : List ((String × String) × String) := []
  itemsToLose : Nat := 0
  festivalWinner : Bool := false
  /-- Dialogues and menus close with every tick. -/
  autoClose : Bool := false
  /-- The pick for a question for which none is set. -/
  autoAnswer : Option Nat := none
  /-- Every gate is ready. -/
  autoReady : Bool := false
  /-- The pick for the question that is up. -/
  pick : Option Nat := none
  deriving DecidableEq, Repr

namespace Rehearsal

/-- A stage that holds no script up: dialogues close, the first answer is picked, fades are over
and gates are ready. -/
def autopilot : Rehearsal := { autoClose := true, autoAnswer := some 0, autoReady := true }

/-- The stage after a request. -/
def respond {α : Type} (call : Call α) (r : Rehearsal) : Rehearsal :=
  match call with
  | .pushDialogue _ _ => { r with dialogueOpen := true }
  | .askQuestion _ _ =>
    { r with dialogueOpen := true, pick := r.answers.head?.or r.autoAnswer,
             answers := r.answers.tail }
  | .closeMenus => { r with dialogueOpen := false, menuOpen := false }
  | .addFlag flag => { r with flags := r.flags.insert flag }
  | .showLostItems => { r with menuOpen := true }
  | _ => r

/-- Gives the pick out, which closes the question. -/
def answer (r : Rehearsal) : Option Nat × Rehearsal :=
  match r.pick with
  | none => (none, r)
  | some n => (some n, { r with pick := none, dialogueOpen := false })

/-- The stage after a tick. -/
def wait (r : Rehearsal) : Rehearsal :=
  if r.autoClose then { r with dialogueOpen := false, menuOpen := false } else r

end Rehearsal

instance {α : Type} : Stage α Rehearsal where
  localPlayer := Rehearsal.localPlayer
  onlinePlayers := Rehearsal.online
  dialogueOpen := Rehearsal.dialogueOpen
  menuOpen := fun r => r.menuOpen || r.dialogueOpen
  worldFrozen := Rehearsal.worldFrozen
  fadeComplete := Rehearsal.fadeComplete
  gateReady := fun r gate => r.autoReady || r.readyGates.contains gate
  hasFlag := fun r flag => r.flags.contains flag
  translate? := fun r key => r.translations.lookup key
  stateDialogue? := fun r actor key => r.stateDialogue.lookup (actor, key)
  itemsToLose := Rehearsal.itemsToLose
  festivalWinner := Rehearsal.festivalWinner
  actionFailure? := fun r action =>
    if r.failingActions.contains action then some s!"trigger action '{action}' failed" else none
  takeAnswer := Rehearsal.answer
  perform := Rehearsal.respond
  elapse := fun _ => Rehearsal.wait

end Cutscene
