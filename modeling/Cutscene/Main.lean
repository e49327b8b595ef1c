import Cutscene.Replay.Answer

/-!
The command line: reads the files that a replay asks for, and prints its answer.
-/

open Cutscene

/-- The text of a file, if it can be read. -/
def fileText? (path : String) : IO (Option String) := do
  try
    return some (← IO.FS.readFile path)
  catch _ => return none

/-- The directories among some paths: only a directory has itself as an entry. -/
def directories (paths : List String) : IO (List String) :=
  paths.filterM fun path => do
    try
      let _ ← IO.FS.realPath (path ++ "/.")
      return true
    catch _ => return false

/-- Replays an event. -/
def main (args : List String) : IO UInt32 := do
  let found ← directories Replay.dataRoots
  let root := Replay.dataRoot found.contains
  let request := Replay.Request.ofArgs args
  let texts ← (request.paths root).mapM fun path => return (path, ← fileText? path)
  let answer := Replay.answer request root fun path => (texts.lookup path).join
  for line in answer.output do
    IO.println line
  if let some complaint := answer.complaint then
    IO.eprintln complaint
  return answer.code.toUInt32
