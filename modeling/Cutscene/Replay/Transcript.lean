import Cutscene.Format.Json.Writer
import Cutscene.Stage.Call

/-!
The transcript of a run as JSON: what the stage was asked to do, what was reported and how the
event ended. A request is a choice by its name; one without a value is its name alone. How the
numbers of the stage are written is left open.
-/

namespace Cutscene

namespace Json

/-- A choice: a name with a value. -/
def choice (name : String) (value : Json) : Json := .object [(name, value)]

/-- A text, or null where there is none. -/
def ofText? (s : Option String) : Json := ofOption .text s

end Json

def Tile.toJson (t : Tile) : Json := .object [("x", .ofInt t.x), ("y", .ofInt t.y)]

def Rect.toJson (r : Rect) : Json :=
  .object [("height", .ofInt r.height), ("width", .ofInt r.width), ("x", .ofInt r.x),
    ("y", .ofInt r.y)]

def Color.toJson (c : Color) : Json :=
  .object [("a", .ofNat c.a), ("b", .ofNat c.b), ("g", .ofNat c.g), ("r", .ofNat c.r)]

def Camera.toJson : Camera → Json
  | follow => .text "Follow"
  | fixed tile => .choice "Fixed" tile.toJson
  | pan offset time =>
    .choice "Pan" (.object [("duration_ms", .ofInt time), ("offset", offset.toJson)])

def Effect.toJson (e : Effect) : Json :=
  .object [("id", .text e.name), ("options", .ofTexts e.options),
    ("source", .ofOption Rect.toJson e.source), ("tile", e.tile.toJson),
    ("tint", .ofOption Color.toJson e.tint)]

def Ending.toJson : Ending → Json
  | plain => .text "Plain"
  | warpOut => .text "WarpOut"
  | newDay => .text "NewDay"
  | position tile => .choice "Position" tile.toJson
  | dialogue actor text =>
    .choice "Dialogue" (.object [("actor", .text actor), ("text", .text text)])
  | invisible actor => .choice "Invisible" (.text actor)

def Outcome.toJson : Outcome → Json
  | finished ending => .choice "Finished" ending.toJson
  | skipped ending => .choice "Skipped" ending.toJson
  | aborted index fault =>
    .choice "Aborted" (.object [("command_index", .ofNat index), ("reason", .text fault.message)])

/-- A request, with the stage's own numbers written by a given function. -/
def Call.toJson {α : Type} (real : α → Json) : Call α → Json
  | pushDialogue speaker text =>
    .choice "PushDialogue" (.object [("speaker", .ofText? speaker), ("text", .text text)])
  | askQuestion question answers =>
    .choice "AskQuestion" (.object [("answers", .ofTexts answers), ("question", .text question)])
  | closeMenus => .text "CloseMenus"
  | beginFade toBlack speed continues =>
    .choice "BeginFade" (.object [("continue_during_fade", .bool continues), ("speed", real speed),
      ("to_black", .bool toBlack)])
  | flashScreen alpha => .choice "FlashScreen" (real alpha)
  | requestReady gate => .choice "RequestReady" (.text gate)
  | waitingForPlayers gate => .choice "WaitingForPlayers" (.ofText? gate)
  | playSound sound => .choice "PlaySound" (.text sound)
  | playMusic track => .choice "PlayMusic" (.ofText? track)
  | viewport camera => .choice "Viewport" camera.toJson
  | .effect e => .choice "Effect" e.toJson
  | .emote actor number =>
    .choice "Emote" (.object [("actor", .text actor), ("emote", .ofInt number)])
  | addFlag flag => .choice "AddFlag" (.text flag)
  | friendship npc amount =>
    .choice "Friendship" (.object [("amount", .ofInt amount), ("npc", .text npc)])
  | addItem item count =>
    .choice "AddItem" (.object [("count", .ofInt count), ("item", .text item)])
  | deathPenalty lost => .choice "DeathPenalty" (.ofNat lost)
  | showLostItems => .text "ShowLostItems"
  | awardPrize prize => .choice "AwardPrize" (.ofText? prize)
  | triggerAction action => .choice "TriggerAction" (.text action)
  | endEvent outcome => .choice "EndEvent" outcome.toJson

end Cutscene
