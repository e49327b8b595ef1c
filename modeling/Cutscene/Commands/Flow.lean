import Cutscene.Event.Closing
import Cutscene.Text.Quoted

/-!
The commands that steer the script: pauses, forks, blocks that run together, skip actions, gates
where players wait for each other, and the end. A command moves the pointer on when it is done and
leaves it alone when it is to run again in the next tick.
-/

namespace Cutscene.Commands

variable {α σ : Type} [Scalar α] [Stage α σ]

/-- Lets the player skip the event from here on: `skippable`. -/
def skippable (_ : Args) (s : Scene α σ) : Reply α σ :=
  ({ s with flags := { s.flags with skippable := true } }.advance 1).done

/-- Waits for a time, which runs only while no menu is up: `pause <ms>`. -/
def pause (a : Args) (s : Scene α σ) : Reply α σ :=
  match s.wait with
  | some (.pause remaining) =>
    let left := if Stage.menuOpen α s.stage then remaining else remaining - s.elapsed
    let s := s.await (.pause left)
    (if left ≤ 0 then s.advance 1 else s).done
  | _ =>
    s.reading (a.int 1 "duration") fun time =>
      (if time ≤ 0 then s.advance 1 else s.await (.pause (Scalar.ofInt time))).done

/-- Waits for an open dialogue and finishes the event: `end [ending]`. A malformed ending is
reported and the event ends plainly. -/
def «end» (a : Args) (s : Scene α σ) : Reply α σ :=
  if Stage.dialogueOpen α s.stage then s.done
  else
    match Ending.ofArgs a with
    | .ok ending => (s.finish ending).done
    | .error e => ((s.note (.argument e)).finish .plain).done

/-- The text of a segment: from the scene's own table, or from the event's asset in the library,
or, for a key with a colon, from the translations. -/
def segmentText? (s : Scene α σ) (key : String) : Option String :=
  let stored := do
    let k ← s.key
    let library ← s.library
    library.entry? k.asset key
  let translated := if key.toList.contains ':' then Stage.translate? α s.stage key else none
  ((s.sceneData.lookup key).or stored).or translated

/-- Puts the segment of a key in place of the script. -/
def redirect (s : Scene α σ) (key : String) (swap : Swap) : Reply α σ :=
  match segmentText? s key with
  | some text => (s.onEvent (·.replaceScript (Script.split text) swap)).done
  | none => (s.passOver (.unknownForkKey key)).done

/-- Goes on with another segment if the player has the flag, or, where none is named, if the fork
variable is set: `fork [flag] <key>`. -/
def fork (a : Args) (s : Scene α σ) : Reply α σ :=
  let read : Args.Read (Bool × String) :=
    if 3 ≤ a.size then do
      let flag ← a.get 1 "requirement"
      let key ← a.get 2 "fork key"
      return (Stage.hasFlag α s.stage flag, key)
    else do
      let key ← a.get 1 "fork key"
      return (s.forkVariable, key)
  s.reading read fun (taken, key) =>
    if taken then redirect s key .fork else (s.advance 1).done

/-- Goes on with another segment: `switchEvent <key>`. -/
def switchEvent (a : Args) (s : Scene α σ) : Reply α σ :=
  s.reading (a.get 1 "event key") fun key => redirect s key .switch

/-- Makes the commands from here on run in one tick: `beginSimultaneousCommand`. -/
def beginSimultaneous (_ : Args) (s : Scene α σ) : Reply α σ :=
  ({ s with flags := { s.flags with simultaneous := true } }.advance 1).done

/-- Goes back to one command a tick: `endSimultaneousCommand`. -/
def endSimultaneous (_ : Args) (s : Scene α σ) : Reply α σ :=
  ({ s with flags := { s.flags with simultaneous := false } }.advance 1).done

/-- The parts of a text between marks, trimmed, without the empty ones. -/
def partsBetween (mark : Char) (text : String) : List String :=
  ((Text.pieces mark text).map Text.trim).filter (· ≠ "")

/-- Sets what a skip will trigger: `setSkipActions <action>#<action>...`. -/
def setSkipActions (a : Args) (s : Scene α σ) : Reply α σ :=
  s.reading (a.remainder 1 "actions") fun text =>
    ({ s with skipActions := partsBetween '#' text }.advance 1).done

/-- Says once that this player is ready and waits for the gate: `waitForOtherPlayers <gate>`. -/
def waitForOtherPlayers (a : Args) (s : Scene α σ) : Reply α σ :=
  s.reading (a.get 1 "gate") fun gate =>
    let waiting := match s.wait with
      | some (.gate name) => name == gate
      | _ => false
    let s :=
      if waiting then s
      else ((s.call (.requestReady gate)).call (.waitingForPlayers (some gate))).await (.gate gate)
    if Stage.gateReady α s.stage gate then
      ((s.call (.waitingForPlayers none)).advance 1).done
    else s.done

end Cutscene.Commands
