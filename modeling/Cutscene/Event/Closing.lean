import Cutscene.Event.Scene

/-!
The three ways an event is over: it finishes, it is skipped, or it is given up.
-/

namespace Cutscene.Scene

variable {α σ : Type} [Stage α σ]

/-- Ends the event: the phase is reached, the stage is told and the outcome is kept. -/
def conclude (s : Scene α σ) (phase : Phase) (outcome : Outcome) : Scene α σ :=
  let s := { s with phase := phase }
  let s := s.call (.endEvent outcome)
  { s with outcome := some outcome }

/-- Ends the event normally, unless it is over. -/
def finish (s : Scene α σ) (ending : Ending) : Scene α σ :=
  if s.isTerminal then s
  else
    let s := { s with
      wait := none
      barrier := .closed
      paths := []
      cast := s.cast.haltAll
      flags := { s.flags with simultaneous := false } }
    s.conclude .finished (.finished ending)

/-- Runs one action of a skip; a failure is reported. -/
def runSkipAction (s : Scene α σ) (action : String) : Scene α σ :=
  let failure := Stage.actionFailure? α s.stage action
  let s := s.call (.triggerAction action)
  match failure with
  | none => s
  | some reason => s.reportAt s.pointer action .recoverable (.skipActionFailed reason)

/-- Clears the event away: everybody halts, menus close, the skip actions run once, and it ends
with an outcome, or else as its last `end` tells. -/
def clearAway (s : Scene α σ) (outcome : Option Outcome) : Scene α σ :=
  let s := { s with
    flags := { s.flags with skipped := true, simultaneous := false, continueAfterMove := false }
    skipRequested := false
    wait := none
    edits := []
    barrier := .closed
    paths := []
    cast := s.cast.modifyAll fun a => a.halt.clearOverrides }
  let s := s.call .closeMenus
  let s := s.skipActions.foldl runSkipAction { s with skipActions := [] }
  s.conclude .skipped (outcome.getD (.skipped s.finalEnding))

/-- Skips the event, unless it is over. While a command runs, the skip waits for it. -/
def skip (s : Scene α σ) : Scene α σ :=
  if s.isTerminal then s
  else if s.dispatching.isSome then s.onEvent Event.requestSkip
  else s.clearAway none

/-- Gives the event up because of a fault. -/
def abort (s : Scene α σ) (index : Nat) (command : String) (fault : Fault) : Scene α σ :=
  (s.reportAt index command .fatal fault).clearAway (some (.aborted index fault))

end Cutscene.Scene
