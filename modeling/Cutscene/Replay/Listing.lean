import Cutscene.Scalar.Single
import Cutscene.Stage.Call
import Cutscene.Text.Printable

/-!
The requests of a run as lines for people. Speech and questions are written as they are read; every
other request is written as its name with its parts, texts between quotes.
-/

namespace Cutscene.Listing

open Text (displayed)

/-- A name with a part in parentheses. -/
def withPart (name part : String) : String := s!"{name}({part})"

/-- A name with named parts in braces. -/
def withFields (name : String) (fields : List (String × String)) : String :=
  let written := fields.map fun f => f.1 ++ ": " ++ f.2
  name ++ " \x7b " ++ ", ".intercalate written ++ " \x7d"

/-- Parts between brackets. -/
def bracketed (parts : List String) : String := "[" ++ ", ".intercalate parts ++ "]"

/-- A part that may be absent. -/
def optional {β : Type} (write : β → String) : Option β → String
  | some b => withPart "Some" (write b)
  | none => "None"

def truth (b : Bool) : String := if b then "true" else "false"

def tile (t : Tile) : String :=
  withFields "TilePoint" [("x", Numeral.ofInt t.x), ("y", Numeral.ofInt t.y)]

def rect (r : Rect) : String :=
  withFields "Rect" [("x", Numeral.ofInt r.x), ("y", Numeral.ofInt r.y),
    ("width", Numeral.ofInt r.width), ("height", Numeral.ofInt r.height)]

def color (c : Color) : String :=
  withFields "Color" [("r", Numeral.ofNat c.r), ("g", Numeral.ofNat c.g),
    ("b", Numeral.ofNat c.b), ("a", Numeral.ofNat c.a)]

def camera : Camera → String
  | .follow => "Follow"
  | .fixed t => withPart "Fixed" (tile t)
  | .pan offset time =>
    withFields "Pan" [("offset", tile offset), ("duration_ms", Numeral.ofInt time)]

def effect (e : Effect) : String :=
  withFields "EffectSpec" [("id", displayed e.name), ("tile", tile e.tile),
    ("options", bracketed (e.options.map displayed)), ("tint", optional color e.tint),
    ("source", optional rect e.source)]

def ending : Ending → String
  | .plain => "Plain"
  | .warpOut => "WarpOut"
  | .newDay => "NewDay"
  | .position t => withPart "Position" (tile t)
  | .dialogue actor text =>
    withFields "Dialogue" [("actor", displayed actor), ("text", displayed text)]
  | .invisible actor => withPart "Invisible" (displayed actor)

def outcome : Outcome → String
  | .finished e => withPart "Finished" (ending e)
  | .skipped e => withPart "Skipped" (ending e)
  | .aborted index fault =>
    withFields "Aborted" [("command_index", Numeral.ofNat index),
      ("reason", displayed fault.message)]

/-- A number of the stage, with a point even if it is whole. -/
def real (x : Float32) : String := Single.write .debug x

/-- A request by its name and its parts. -/
def parts : Call Float32 → String
  | .pushDialogue speaker text =>
    withFields "PushDialogue" [("speaker", optional displayed speaker), ("text", displayed text)]
  | .askQuestion question answers =>
    withFields "AskQuestion" [("question", displayed question),
      ("answers", bracketed (answers.map displayed))]
  | .closeMenus => "CloseMenus"
  | .beginFade toBlack speed continues =>
    withFields "BeginFade" [("to_black", truth toBlack), ("speed", real speed),
      ("continue_during_fade", truth continues)]
  | .flashScreen alpha => withPart "FlashScreen" (real alpha)
  | .requestReady gate => withPart "RequestReady" (displayed gate)
  | .waitingForPlayers gate => withPart "WaitingForPlayers" (optional displayed gate)
  | .playSound sound => withPart "PlaySound" (displayed sound)
  | .playMusic track => withPart "PlayMusic" (optional displayed track)
  | .viewport c => withPart "Viewport" (camera c)
  | .effect e => withPart "Effect" (effect e)
  | .emote actor number =>
    withFields "Emote" [("actor", displayed actor), ("emote", Numeral.ofInt number)]
  | .addFlag flag => withPart "AddFlag" (displayed flag)
  | .friendship npc amount =>
    withFields "Friendship" [("npc", displayed npc), ("amount", Numeral.ofInt amount)]
  | .addItem item count =>
    withFields "AddItem" [("item", displayed item), ("count", Numeral.ofInt count)]
  | .deathPenalty lost => withPart "DeathPenalty" (Numeral.ofNat lost)
  | .showLostItems => "ShowLostItems"
  | .awardPrize prize => withPart "AwardPrize" (optional displayed prize)
  | .triggerAction action => withPart "TriggerAction" (displayed action)
  | .endEvent o => withPart "EndEvent" (outcome o)

/-- The speaker of a line that nobody says. -/
def nobody : String := "*"

/-- The line of a request. -/
def line : Call Float32 → String
  | .pushDialogue speaker text => s!"  {speaker.getD nobody}: {text}"
  | .askQuestion question answers => s!"  ? {question} [" ++ " | ".intercalate answers ++ "]"
  | call => "  " ++ parts call

/-- The last line: how the event ended, and after how many ticks. -/
def conclusion (ticks : Nat) : Option Outcome → String
  | some (.finished e) => s!"finished after {Numeral.ofNat ticks} tick(s): {ending e}"
  | some (.skipped e) => s!"skipped after {Numeral.ofNat ticks} tick(s): {ending e}"
  | some (.aborted index fault) => s!"aborted at command {Numeral.ofNat index}: {fault.message}"
  | none => s!"unfinished after {Numeral.ofNat ticks} tick(s)"

end Cutscene.Listing
