import Cutscene.Event.State
import Cutscene.Stage.Basic

/-!
A scene: an event together with the stage it plays on, the calls it has made to that stage and
the reports it has given. Commands change nothing but scenes.
-/

namespace Cutscene

/-- An event on its stage. -/
structure Scene (α σ : Type) extends Event α where
  stage : σ
  /-- All calls to the stage so far. -/
  calls : List (Call α)
  /-- All reports so far. -/
  reports : List Report
  /-- The library that forks may look into. -/
  library : Option Library
  /-- The time of this tick. -/
  elapsed : α

/-- What a command leaves: the scene, and a fault if it gave up. -/
structure Reply (α σ : Type) where
  scene : Scene α σ
  fault : Option Fault := none

/-- A command: from its tokens and the scene to what it leaves. -/
abbrev Handler (α σ : Type) := Args → Scene α σ → Reply α σ

namespace Scene

variable {α σ : Type}

/-- Changes the event alone. -/
def onEvent (s : Scene α σ) (f : Event α → Event α) : Scene α σ :=
  { s with toEvent := f s.toEvent }

@[simp] theorem onEvent_toEvent (s : Scene α σ) (f : Event α → Event α) :
    (s.onEvent f).toEvent = f s.toEvent := rfl

@[simp] theorem onEvent_stage (s : Scene α σ) (f : Event α → Event α) :
    (s.onEvent f).stage = s.stage := rfl

@[simp] theorem onEvent_calls (s : Scene α σ) (f : Event α → Event α) :
    (s.onEvent f).calls = s.calls := rfl

@[simp] theorem onEvent_reports (s : Scene α σ) (f : Event α → Event α) :
    (s.onEvent f).reports = s.reports := rfl

/-- Moves the pointer on. -/
def advance (s : Scene α σ) (n : Nat) : Scene α σ := s.onEvent (·.advance n)

/-- Records what the command waits for. -/
def await (s : Scene α σ) (w : Wait α) : Scene α σ := s.onEvent (·.setWait w)

/-- Makes a call to the stage and keeps it. -/
def call [Stage α σ] (s : Scene α σ) (c : Call α) : Scene α σ :=
  { s with stage := Stage.perform c s.stage, calls := s.calls ++ [c] }

/-- Reports a fault of a command. -/
def reportAt (s : Scene α σ) (index : Nat) (command : String) (severity : Severity)
    (fault : Fault) : Scene α σ :=
  { s with reports := s.reports ++ [⟨s.id, index, command, fault, severity⟩] }

/-- Reports a fault of the current command. -/
def report (s : Scene α σ) (severity : Severity) (fault : Fault) : Scene α σ :=
  s.reportAt s.current (s.working.getD s.current) severity fault

/-- Reports a fault and lets the command run on. -/
def note (s : Scene α σ) (fault : Fault) : Scene α σ := s.report .recoverable fault

/-- Reports a fault and passes over the command. -/
def passOver (s : Scene α σ) (fault : Fault) : Scene α σ := (s.note fault).advance 1

/-- The command is done for this tick. -/
def done (s : Scene α σ) : Reply α σ := ⟨s, none⟩

/-- Goes on with what was read; a failed read passes over the command. -/
def reading {β : Type} (s : Scene α σ) (read : Args.Read β) (next : β → Reply α σ) :
    Reply α σ :=
  match read with
  | .ok value => next value
  | .error e => (s.passOver (.argument e)).done

/-- Goes on with the actor that a token means. A missing actor passes over the command, in
silence if the token is optional. -/
def withActor (s : Scene α σ) (token : String) (next : Handle → Actor α → Reply α σ) :
    Reply α σ :=
  let ref := ActorRef.parse token
  match s.cast.resolve? ref with
  | none => if ref.optional then (s.advance 1).done else (s.passOver (.unknownActor ref)).done
  | some h =>
    match s.cast.get? h with
    | some actor => next h actor
    | none => ⟨s, some (.vanished h)⟩

/-- Puts a changed actor in the place of the one under a handle. -/
def putActor (s : Scene α σ) (h : Handle) (a : Actor α) : Scene α σ :=
  s.onEvent (·.modifyActor h fun _ => a)

/-- Moves on, and asks for the next command in this tick if the command was told to. -/
def advanceChained (s : Scene α σ) (chain : Bool) : Scene α σ :=
  let s := s.advance 1
  if chain then s.onEvent Event.requestChain else s

end Scene

end Cutscene
