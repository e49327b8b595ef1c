import Cutscene.Commands.Table
import Cutscene.Content.File
import Cutscene.Dance.Input
import Cutscene.Dance.Program
import Cutscene.Event.Tick
import Cutscene.Format.Json.Reader
import Cutscene.Replay.Listing
import Cutscene.Replay.Options
import Cutscene.Replay.Transcript
import Cutscene.Settings.File
import Cutscene.Stage.Rehearsal

/-!
One replay: an event runs on a rehearsal stage that holds it up nowhere, and what it asked of the
stage is written down. Files come in as their texts, so that a replay is a function of the command
line and of what stands in the files.
-/

namespace Cutscene.Replay

/-- The directories that may hold the usual files, the preferred one first. -/
def dataRoots : List String := ["pageant_engine/data", "data"]

/-- The directory of the usual files: the first that exists, or else the preferred one. -/
def dataRoot (isDirectory : String → Bool) : String :=
  (dataRoots.find? isDirectory).getD "pageant_engine/data"

namespace Options

/-- The settings file. -/
def settingsPath (o : Options) (root : String) : String :=
  o.settings.getD (root ++ "/pageant.toml")

/-- The content file. -/
def contentPath (o : Options) (root : String) : String := o.content.getD (root ++ "/content.ron")

/-- The files that a replay reads. -/
def paths (o : Options) (root : String) : List String :=
  o.settingsPath root :: o.contentPath root :: o.dancers.toList

end Options

/-- Why there was no replay. -/
inductive Failure where
  | content (cause : ContentError)
  | danceUnreadable (path : String)
  | danceMalformed (path : String)
  | lookup (cause : LookupError)
  | dance (cause : DanceFault)
  deriving DecidableEq, Repr

def Failure.message : Failure → String
  | content _ => "while loading event content"
  | danceUnreadable path => s!"reading dance input '{path}'"
  | danceMalformed path => s!"parsing dance input '{path}'"
  | lookup cause => cause.message
  | dance cause => cause.message

/-- The texts of files; none for a file that cannot be read. -/
abbrev Files := String → Option String

/-- The dance input of a file. -/
def danceInput (files : Files) (path : String) : Except Failure DanceInput :=
  match files path with
  | none => .error (.danceUnreadable path)
  | some text =>
    match (Json.parse? text).bind DanceInput.ofJson? with
    | some input => .ok input
    | none => .error (.danceMalformed path)

/-- The scene that a replay begins with. For a dance, the players of its input are online. -/
def openScene (o : Options) (root : String) (files : Files) :
    Except Failure (Scene Float32 Rehearsal) := do
  let settingsPath := o.settingsPath root
  let settings := Settings.loadOrStandard settingsPath (files settingsPath)
  let contentPath := o.contentPath root
  let library ← (Library.load contentPath (files contentPath)).mapError .content
  let stage := Rehearsal.autopilot
  let (script, stage) ← match o.dancers with
    | none => do
      let script ← (library.resolve o.asset o.entry o.year).mapError .lookup
      pure (script, stage)
    | some path => do
      let input ← danceInput files path
      let script ← (library.danceScript o.asset o.entry o.year input).mapError .dance
      pure (script, { stage with online := input.online })
  return { Event.ofScript script settings with
    stage := stage
    calls := []
    reports := []
    library := some library
    elapsed := o.frameTime }

/-- Ticks at most so often, until the event is over; the number of ticks made. -/
def play : Nat → Nat → Scene Float32 Rehearsal → Scene Float32 Rehearsal × Nat
  | 0, made, s => (s, made)
  | limit + 1, made, s =>
    if s.isTerminal then (s, made) else play limit (made + 1) (s.tick Commands.table)

/-- The lines of a replay: the title, the requests, the reports and the end. -/
def listing (s : Scene Float32 Rehearsal) (ticks : Nat) : List String :=
  [s!"PAGEANT: {s.id}"] ++ s.calls.map Listing.line ++ s.reports.map Report.text ++
    [Listing.conclusion ticks s.outcome]

/-- A replay as JSON. -/
def transcript (s : Scene Float32 Rehearsal) (ticks : Nat) : Json :=
  .object [("calls", .array (s.calls.map (Call.toJson Json.ofReal))),
    ("errors", .ofTexts (s.reports.map Report.text)), ("event", .text s.id),
    ("outcome", .ofOption Outcome.toJson s.outcome), ("ticks", .ofNat ticks)]

/-- The output of a replay. -/
def run (o : Options) (root : String) (files : Files) : Except Failure (List String) := do
  let start ← openScene o root files
  let (s, ticks) := play o.ticks 0 start
  return if o.json then [(transcript s ticks).write] else listing s ticks

end Cutscene.Replay
