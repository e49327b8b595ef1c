import Cutscene.CommandTable
import Cutscene.Event.Closing
import Cutscene.Event.Header

/-!
One tick of an event. The first tick reads the header. Then actors and paths go on, a frozen world
stops the tick, the movement barrier goes on and stops it while it is open, and commands are
dispatched: one, or several where they run together.
-/

namespace Cutscene.Scene

variable {α σ : Type} [Scalar α] [Stage α σ]

/-- The most commands dispatched in one tick. -/
def dispatchLimit : Nat := 1024

/-- Runs the command at an index: its handler, then the edits it queued. Text without tokens is
passed over; a text that cannot be read and an unknown name are reported. A handler that gives up
ends the event. -/
def runCommand (table : CommandTable (Handler α σ)) (s : Scene α σ) (index : Nat) (raw : String) :
    Scene α σ :=
  let s := { s with dispatching := some index }
  match Script.tokens? raw with
  | none =>
    { s.passOver (.malformed (.unclosedQuote raw)) with dispatching := none }
  | some [] => { s.advance 1 with dispatching := none }
  | some (name :: args) =>
    match table.resolve? name with
    | none =>
      { (s.report .unknownCommand (.unknownCommand name)).advance 1 with dispatching := none }
    | some (_, handler) =>
      let reply := handler ⟨name :: args⟩ s
      let s := { reply.scene.onEvent Event.applyEdits with dispatching := none }
      match reply.fault with
      | none => s
      | some fault => s.abort index raw fault

/-- Dispatches commands from the pointer on. A script that runs out is over. -/
def dispatch (table : CommandTable (Handler α σ)) : Nat → Scene α σ → Scene α σ
  | 0, s => s
  | fuel + 1, s =>
    match s.working.get? s.pointer with
    | none => s.finish .plain
    | some raw =>
      if s.settings.isComment raw then
        let s := s.advance 1
        if s.flags.simultaneous then dispatch table fuel s else s
      else
        let before := (s.pointer, s.working.version)
        let s := runCommand table { s with chainRequested := false } s.pointer raw
        if s.isTerminal then s
        else if s.skipRequested then s.skip
        else
          let progressed := (s.pointer, s.working.version) ≠ before
          let goesOn := s.flags.simultaneous || s.chainRequested
          let s := { s with
            phase := if progressed then .running else .suspended
            chainRequested := s.flags.simultaneous && s.chainRequested }
          if progressed ∧ goesOn then dispatch table fuel s else s

/-- The time of the tick passes for the actors, then for the paths, then for the stage. -/
def elapse (s : Scene α σ) : Scene α σ :=
  let cast := s.cast.modifyAll (·.update s.elapsed)
  let (paths, cast) := Path.updateAll s.elapsed s.settings s.paths cast
  { s with cast := cast, paths := paths, stage := Stage.elapse s.elapsed s.stage }

/-- The barrier goes on; commands follow unless it holds them. The tick that closes it moves the
pointer past the move that opened it. -/
def proceed (table : CommandTable (Handler α σ)) (s : Scene α σ) : Scene α σ :=
  if s.barrier.isClosed then dispatch table dispatchLimit s
  else
    let (barrier, cast, closed) := s.barrier.resolve s.settings s.cast
    let s := { s with barrier := barrier, cast := cast }
    if closed then
      if s.flags.continueAfterMove then
        dispatch table dispatchLimit { s with flags := { s.flags with continueAfterMove := false } }
      else { s.advance 1 with phase := .running }
    else if s.flags.continueAfterMove then dispatch table dispatchLimit s
    else s

/-- The first tick reads the header, unless the script was replaced before; a fault of it ends the
event. -/
def openEvent (s : Scene α σ) : Scene α σ × Option HeaderFault :=
  if s.phase ≠ .uninitialized then (s, none)
  else
    let (s, fault) := if s.flags.forked || s.flags.switched then (s, none) else s.openHeader
    match fault with
    | some cause => (s, some cause)
    | none => ({ s with phase := .running }, none)

/-- One tick. -/
def tick (table : CommandTable (Handler α σ)) (s : Scene α σ) : Scene α σ :=
  if s.isTerminal then s
  else if s.skipRequested then s.skip
  else
    match s.openEvent with
    | (s, some cause) => s.abort cause.index (s.working.getD cause.index) (.header cause)
    | (s, none) =>
      let s := s.elapse
      if Stage.worldFrozen α s.stage then s else s.proceed table

end Cutscene.Scene
