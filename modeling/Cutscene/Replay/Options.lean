import Cutscene.Scalar.Single

/-!
The command line of a replay. Options are read from left to right; the first fault, or the first
question for help or the version, decides.
-/

namespace Cutscene.Replay

/-- The time of a tick at sixty ticks a second. -/
def usualFrameTime : Float32 := Float32.ofInt 1000 / Float32.ofInt 60

/-- What is to be replayed, and how. -/
structure Options where
  asset : String
  entry : String
  /-- The content file, if it is not the usual one. -/
  content : Option String
  /-- The settings file, if it is not the usual one. -/
  settings : Option String
  /-- The file with dance input; the entry is a dance template then. -/
  dancers : Option String
  year : Nat
  /-- The most ticks to be made. -/
  ticks : Nat
  frameTime : Float32
  /-- The transcript is wanted as JSON. -/
  json : Bool

/-- What a command line asks for. -/
inductive Request where
  | play (options : Options)
  | help
  | version
  /-- It is not understood. -/
  | misuse

/-- The options read so far. -/
structure Draft where
  asset : Option String := none
  entry : Option String := none
  content : Option String := none
  settings : Option String := none
  dancers : Option String := none
  year : Option Nat := none
  ticks : Option Nat := none
  frameTime : Option Float32 := none
  json : Bool := false

namespace Draft

/-- The text of a path, which must not be empty. -/
def path? (text : String) : Option String := if text = "" then none else some text

/-- A number of thirty-two bits, with an optional sign. -/
def count? (text : String) : Option Nat := (Numeral.between? 0 0xffffffff text).map Int.toNat

/-- A number of milliseconds, which need not be finite. -/
def time? (text : String) : Option Float32 := (RealText.read? text).map Single.ofText

/-- A value for an option that has none yet. -/
def once {β : Type} (held : Option β) (value : Option β) : Option (Option β) :=
  match held, value with
  | none, some v => some (some v)
  | _, _ => none

/-- The options with a value. -/
def valued : List String :=
  ["content", "asset", "entry", "year", "config", "ticks", "frame-ms", "dancers"]

/-- Gives an option its value. An option that has one already is refused, and so is a value of
another kind. -/
def set (d : Draft) (name value : String) : Option Draft :=
  if name = "content" then (once d.content (path? value)).map fun v => { d with content := v }
  else if name = "asset" then (once d.asset (some value)).map fun v => { d with asset := v }
  else if name = "entry" then (once d.entry (some value)).map fun v => { d with entry := v }
  else if name = "year" then (once d.year (count? value)).map fun v => { d with year := v }
  else if name = "config" then
    (once d.settings (path? value)).map fun v => { d with settings := v }
  else if name = "ticks" then (once d.ticks (count? value)).map fun v => { d with ticks := v }
  else if name = "frame-ms" then
    (once d.frameTime (time? value)).map fun v => { d with frameTime := v }
  else if name = "dancers" then
    (once d.dancers (path? value)).map fun v => { d with dancers := v }
  else none

/-- The request of a finished draft: asset and entry must be there. -/
def request (d : Draft) : Request :=
  match d.asset, d.entry with
  | some asset, some entry => .play {
      asset := asset
      entry := entry
      content := d.content
      settings := d.settings
      dancers := d.dancers
      year := d.year.getD 1
      ticks := d.ticks.getD 10000
      frameTime := d.frameTime.getD usualFrameTime
      json := d.json }
  | _, _ => .misuse

end Draft

/-- The name of a long option, and the value that stands behind an equals sign. -/
def longOption? (arg : String) : Option (String × Option String) :=
  match arg.toList with
  | '-' :: '-' :: rest =>
    let name := String.ofList (rest.takeWhile (· ≠ '='))
    match rest.dropWhile (· ≠ '=') with
    | [] => some (name, none)
    | _ :: value => some (name, some (String.ofList value))
  | _ => none

/-- The argument looks like an option, so it is no value. -/
def isOption (arg : String) : Bool :=
  match arg.toList with
  | '-' :: _ :: _ => true
  | _ => false

/-- What single letters after a dash ask for; the first decides. -/
def ofLetters (arg : String) : Request :=
  match arg.toList with
  | '-' :: 'h' :: _ => .help
  | '-' :: 'V' :: _ => .version
  | _ => .misuse

/-- Reads the arguments that are left. -/
def readArgs (d : Draft) : List String → Request
  | [] => d.request
  | arg :: rest =>
    match longOption? arg with
    | none => ofLetters arg
    | some ("", none) => if rest.isEmpty then d.request else .misuse
    | some ("help", none) => .help
    | some ("version", none) => .version
    | some ("json", none) => if d.json then .misuse else readArgs { d with json := true } rest
    | some (name, some value) =>
      match d.set name value with
      | some d => readArgs d rest
      | none => .misuse
    | some (name, none) =>
      if name ∈ Draft.valued then
        match rest with
        | value :: rest =>
          if isOption value then .misuse
          else
            match d.set name value with
            | some d => readArgs d rest
            | none => .misuse
        | [] => .misuse
      else .misuse

/-- What a command line asks for. -/
def Request.ofArgs (args : List String) : Request := readArgs {} args

end Cutscene.Replay
