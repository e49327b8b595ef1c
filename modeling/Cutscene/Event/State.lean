import Cutscene.Content.Library
import Cutscene.Motion.Barrier
import Cutscene.Motion.Path
import Cutscene.Script.Token
import Cutscene.Script.Working
import Cutscene.Stage.Call

/-!
The state of a running event: its command list and the pointer into it, its cast, what it waits
for and how it ended.
-/

namespace Cutscene

/-- How far an event has come. -/
inductive Phase where
  | uninitialized
  | running
  /-- The last command is waiting. -/
  | suspended
  | finished
  | skipped
  deriving DecidableEq, Repr

/-- What a command waits for that takes several ticks. A command with a recorded wait does not
repeat what it did before it began to wait. -/
inductive Wait (α : Type) where
  | dialogue
  /-- A question is up; the answer with this number sets the fork variable. -/
  | answer (fork : Option Nat)
  | pause (remaining : α)
  | fade
  | emote (actor : Handle)
  | menu
  | gate (name : String)
  deriving DecidableEq, Repr

/-- The flags of an event. -/
structure Flags where
  skippable : Bool := false
  skipped : Bool := false
  /-- Commands run on in one tick. -/
  simultaneous : Bool := false
  /-- The script runs on while actors are on their way. -/
  continueAfterMove : Bool := false
  forked : Bool := false
  switched : Bool := false
  deriving DecidableEq, Repr

/-- A running event. -/
structure Event (α : Type) where
  id : String
  key : Option ScriptKey
  working : Working
  pointer : Nat
  phase : Phase
  settings : Settings α
  cast : Cast α
  barrier : Barrier
  paths : List (Path α)
  flags : Flags
  wait : Option (Wait α)
  /-- Edits that the running command has queued. -/
  edits : List Edit
  /-- The index of the command that is running. -/
  dispatching : Option Nat
  skipRequested : Bool
  chainRequested : Bool
  skipActions : List String
  /-- Segments that only this event can fork to. -/
  sceneData : List (String × String)
  /-- Set by the answer to a question, read by a fork. -/
  forkVariable : Bool
  outcome : Option Outcome

namespace Event

variable {α : Type}

/-- An event that is about to begin. -/
def ofCommands (id : String) (commands : List String) (settings : Settings α) : Event α where
  id := id
  key := none
  working := .ofList commands
  pointer := 0
  phase := .uninitialized
  settings := settings
  cast := .empty 0
  barrier := .closed
  paths := []
  flags := {}
  wait := none
  edits := []
  dispatching := none
  skipRequested := false
  chainRequested := false
  skipActions := []
  sceneData := []
  forkVariable := false
  outcome := none

/-- The event of a script from the library. -/
def ofScript (script : Script) (settings : Settings α) : Event α :=
  { ofCommands script.key.text script.commands settings with key := some script.key }

/-- The event is over. -/
def isTerminal (e : Event α) : Bool :=
  match e.phase with
  | .finished | .skipped => true
  | _ => false

/-- The index of the command that is running, or else of the next. -/
def current (e : Event α) : Nat := e.dispatching.getD e.pointer

/-- The text of the command that is running, or else of the next. -/
def currentCommand? (e : Event α) : Option String := e.working.get? e.current

/-- Moves the pointer on, at most to the end of the list, and drops the wait. -/
def advance (e : Event α) (n : Nat) : Event α :=
  { e with pointer := min (e.pointer + n) e.working.size, wait := none }

def setWait (e : Event α) (w : Wait α) : Event α := { e with wait := some w }

/-- Queues an edit. -/
def queue (e : Event α) (edit : Edit) : Event α := { e with edits := e.edits ++ [edit] }

/-- Queues commands to come right after the current one. -/
def insertAfterCurrent (e : Event α) (commands : List String) : Event α :=
  e.queue (.insertAfter e.current commands)

/-- Queues another text for the current command. -/
def replaceCurrent (e : Event α) (command : String) : Event α :=
  e.queue (.replaceAt e.current command)

/-- Queues another script. -/
def replaceScript (e : Event α) (commands : List String) (swap : Swap) : Event α :=
  e.queue (.replaceAll commands swap)

/-- Asks for the event to be skipped when the running command is done, or else in the next tick. -/
def requestSkip (e : Event α) : Event α := { e with skipRequested := true }

/-- Asks for the next command in this same tick. -/
def requestChain (e : Event α) : Event α := { e with chainRequested := true }

/-- The flags after a whole script was replaced. -/
def Flags.swapped (f : Flags) : Swap → Flags
  | .fork => { f with forked := true }
  | .switch => { f with switched := true }

/-- Makes one edit. The pointer keeps to its command when commands come in before it, and goes to
the beginning of a new script. -/
def applyEdit (e : Event α) (edit : Edit) : Event α :=
  let e := match edit with
    | .insertAfter index commands =>
      if index + 1 < e.pointer then { e with pointer := e.pointer + commands.length } else e
    | .replaceAt _ _ => e
    | .replaceAll _ swap =>
      { e with pointer := 0, wait := none, flags := Flags.swapped e.flags swap }
  { e with working := e.working.apply edit }

/-- Makes the queued edits in their order; the pointer stays in the list. -/
def applyEdits (e : Event α) : Event α :=
  let done := e.edits.foldl applyEdit { e with edits := [] }
  { done with pointer := min done.pointer done.working.size }

/-- Puts a path under way, in place of any other of its actor. -/
def addPath (e : Event α) (p : Path α) : Event α :=
  { e with paths := e.paths.filter (fun q => q.actor ≠ p.actor) ++ [p] }

/-- Takes an actor off with all that was to happen to it. -/
def removeActor (e : Event α) (h : Handle) : Event α :=
  { e with
    barrier := e.barrier.remove h
    paths := e.paths.filter fun p => p.actor ≠ h
    cast := e.cast.remove h }

/-- Changes one actor. -/
def modifyActor (e : Event α) (h : Handle) (f : Actor α → Actor α) : Event α :=
  { e with cast := e.cast.modify h f }

/-- The ending that a command asks for, if it is an `end`; a malformed one ends plainly. -/
def endingOf? (command : String) : Option Ending :=
  match Script.tokens? command with
  | some (name :: args) =>
    if Text.alike name "end" then
      some (((Ending.ofArgs ⟨name :: args⟩).toOption).getD .plain)
    else none
  | _ => none

/-- The ending of the last `end` of the script. -/
def finalEnding (e : Event α) : Ending :=
  (e.working.commands.reverse.findSome? endingOf?).getD .plain

end Event

end Cutscene
