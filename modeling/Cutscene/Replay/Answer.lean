import Cutscene.Replay.Session

/-!
What the program answers to a command line: the lines it prints, the line it complains with, and
its exit code.
-/

namespace Cutscene.Replay

/-- The lines of a run of the program. -/
structure Answer where
  code : Nat
  output : List String
  complaint : Option String
  deriving DecidableEq, Repr

/-- The answer to the question for the version. -/
def versionLine : String := "pageant_engine 0.3.0"

/-- How the program is called. -/
def usageLine : String := "Usage: pageant_engine [OPTIONS] --asset <ASSET> --entry <ENTRY>"

/-- The answer to the question for help. -/
def helpLines : List String :=
  ["Run a Pageant event script against a headless stage.",
   "",
   usageLine,
   "",
   "Options:",
   "      --content <CONTENT>    RON content bundle. Defaults to `content.ron` in the data directory",
   "      --asset <ASSET>        Asset holding the event (a location or festival name)",
   "      --entry <ENTRY>        Entry id within the asset",
   "      --year <YEAR>          Current in-game year, used to pick `_yN` variants [default: 1]",
   "      --config <CONFIG>      Engine tuning file. Defaults to `pageant.toml` in the data directory",
   "      --ticks <TICKS>        Give up after this many ticks [default: 10000]",
   "      --frame-ms <FRAME_MS>  Milliseconds per tick [default: " ++
     Single.write .plain usualFrameTime ++ "]",
   "      --dancers <DANCERS>    JSON dance input; treats the entry as a dance template",
   "      --json                 Print the transcript as JSON",
   "  -h, --help                 Print help",
   "  -V, --version              Print version"]

/-- The answer to a request. -/
def answer (request : Request) (root : String) (files : Files) : Answer :=
  match request with
  | .help => ⟨0, helpLines, none⟩
  | .version => ⟨0, [versionLine], none⟩
  | .misuse => ⟨2, [], some usageLine⟩
  | .play options =>
    match run options root files with
    | .ok lines => ⟨0, lines, none⟩
    | .error failure => ⟨1, [], some s!"Error: {failure.message}"⟩

/-- The files that a request reads. -/
def Request.paths (request : Request) (root : String) : List String :=
  match request with
  | .play options => options.paths root
  | _ => []

end Cutscene.Replay
