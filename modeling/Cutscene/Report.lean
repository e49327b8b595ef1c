import Cutscene.Cast
import Cutscene.Script.Args

/-!
What goes wrong while an event runs. A fault is a cause, a report ties it to the command that was
running, and the severity says what became of the event.
-/

namespace Cutscene

/-- Why a command text could not be read. -/
inductive Malformed where
  | unclosedQuote (command : String)
  | argument (error : ArgError)
  | notInFours (tokens : Nat)
  deriving DecidableEq, Repr

/-- The end of the text of a command with an unclosed quote. -/
def Malformed.unclosed : String := "a quote is not closed"

def Malformed.message : Malformed → String
  | unclosedQuote command => s!"command syntax error in '{command}': {unclosed}"
  | argument error => error.message
  | notInFours tokens =>
    s!"expected groups of 'name x y facing', found {Numeral.ofNat tokens} token(s)"

/-- Why an event could not begin. -/
inductive HeaderFault where
  | tooShort (expected found : Nat)
  | camera (cause : Malformed)
  | layout (cause : Malformed)
  deriving DecidableEq, Repr

namespace HeaderFault

/-- The header command at fault. -/
def index : HeaderFault → Nat
  | tooShort _ _ => 0
  | camera _ => 1
  | layout _ => 2

def message : HeaderFault → String
  | tooShort expected found =>
    s!"event header is too short: expected {Numeral.ofNat expected} commands, " ++
      s!"found {Numeral.ofNat found}"
  | camera cause => s!"event header command 1 (camera) is malformed: {cause.message}"
  | layout cause => s!"event header command 2 (actor layout) is malformed: {cause.message}"

end HeaderFault

/-- The cause of a report. -/
inductive Fault where
  | malformed (cause : Malformed)
  | unknownCommand (name : String)
  | unknownActor (ref : ActorRef)
  | missingMover (ref : ActorRef)
  | cannotSpeak (name : String)
  | cannotEmote (name : String)
  | moveShape
  | questionWithoutAnswers
  | quickQuestionWithoutAnswers
  | noBranch (answer : Nat)
  | noStateDialogue (actor key : String)
  | negativeFrame (frame : Int)
  | badPathPair (x y : Int)
  | unknownForkKey (key : String)
  | skipActionFailed (reason : String)
  | header (cause : HeaderFault)
  /-- An actor was gone before its command was done with it. -/
  | vanished (actor : Handle)
  /-- A command gave up for a reason of its own. -/
  | gaveUp (reason : String)
  deriving DecidableEq, Repr

/-- A fault that comes from an argument. -/
def Fault.argument (e : ArgError) : Fault := .malformed (.argument e)

def Fault.message : Fault → String
  | malformed cause => cause.message
  | unknownCommand name => s!"unknown command '{name}'"
  | unknownActor ref => s!"no actor found matching '{ref.text}'"
  | missingMover ref => s!"no actor found matching '{ref.text}'; it will not move"
  | cannotSpeak name => s!"'{name}' cannot speak"
  | cannotEmote name => s!"'{name}' cannot emote"
  | moveShape => "move expects groups of 'actor dx dy facing'"
  | questionWithoutAnswers => "question has no answers"
  | quickQuestionWithoutAnswers => "quick question has no answers"
  | noBranch answer => s!"no branch for answer {Numeral.ofNat answer}"
  | noStateDialogue actor key => s!"no dialogue for '{actor}' in state '{key}'"
  | negativeFrame frame => s!"frame {Numeral.ofInt frame} is negative"
  | badPathPair x y =>
    s!"path pair ({Numeral.ofInt x}, {Numeral.ofInt y}) is not a step or a facing"
  | unknownForkKey key => s!"no script found for fork key '{key}'"
  | skipActionFailed reason => s!"skip action failed: {reason}"
  | header cause => cause.message
  | vanished actor => s!"actor {actor.text} vanished mid-command"
  | gaveUp reason => reason

/-- What became of the event. -/
inductive Severity where
  /-- The command was passed over. -/
  | recoverable
  /-- There is no such command; it was passed over. -/
  | unknownCommand
  /-- The event was given up. -/
  | fatal
  deriving DecidableEq, Repr

def Severity.text : Severity → String
  | recoverable => "recoverable"
  | unknownCommand => "unknown command"
  | fatal => "fatal"

/-- A fault and the command that was running. -/
structure Report where
  eventId : String
  index : Nat
  command : String
  fault : Fault
  severity : Severity
  deriving DecidableEq, Repr

namespace Report

/-- A report in one line. -/
def text (r : Report) : String :=
  s!"event '{r.eventId}' command {Numeral.ofNat r.index} ('{r.command}'): {r.fault.message}"

/-- The number of reports of one severity. -/
def count (reports : List Report) (severity : Severity) : Nat :=
  (reports.filter fun r => r.severity = severity).length

end Report

end Cutscene
