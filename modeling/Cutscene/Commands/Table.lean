import Cutscene.CommandTable
import Cutscene.Commands.Dialogue
import Cutscene.Commands.Posing
import Cutscene.Commands.Staging
import Cutscene.Commands.World

/-!
The table of the commands that every event knows, and their other names.
-/

namespace Cutscene.Commands

variable {α σ : Type} [Scalar α] [Stage α σ]

/-- The commands by name. -/
def builtIn : List (String × Handler α σ) :=
  [("skippable", skippable), ("pause", pause), ("end", «end»), ("fork", fork),
   ("switchEvent", switchEvent), ("beginSimultaneousCommand", beginSimultaneous),
   ("endSimultaneousCommand", endSimultaneous), ("setSkipActions", setSkipActions),
   ("waitForOtherPlayers", waitForOtherPlayers),
   ("speak", speak), ("message", message), ("question", question),
   ("quickQuestion", quickQuestion), ("speakFromState", speakFromState),
   ("move", move), ("advancedMove", advancedMove), ("stopAdvancedMoves", stopAdvancedMoves),
   ("walkInSquare", walkInSquare), ("warp", warp), ("faceDirection", faceDirection),
   ("showFrame", showFrame), ("animate", animate), ("stopAnimation", stopAnimation),
   ("positionOffset", positionOffset), ("jump", jump), ("shake", shake), ("emote", emote),
   ("speed", speed), ("halt", halt), ("addActor", addActor), ("removeActor", removeActor),
   ("playSound", playSound), ("playMusic", playMusic), ("stopMusic", stopMusic),
   ("viewport", viewport), ("globalFade", globalFade), ("globalFadeToClear", globalFadeToClear),
   ("spawnEffect", spawnEffect), ("screenFlash", screenFlash),
   ("mail", mail), ("friendship", friendship), ("addItem", addItem), ("loseItems", loseItems),
   ("showItemsLost", showItemsLost), ("awardFestivalPrize", awardFestivalPrize)]

/-- Other names of commands. -/
def otherNames : List (String × String) :=
  [("addMailReceived", "mail"), ("face", "faceDirection"), ("wait", "pause"),
   ("sound", "playSound"), ("music", "playMusic"), ("temporarySprite", "spawnEffect")]

/-- The table that every event is run with. -/
def table : CommandTable (Handler α σ) := .ofLists builtIn otherNames

end Cutscene.Commands
