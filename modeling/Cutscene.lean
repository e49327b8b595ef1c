import Cutscene.Main
import Cutscene.Proofs.Run.Ending
import Cutscene.Proofs.Run.Fatal
import Cutscene.Proofs.Run.Fork
import Cutscene.Proofs.Run.OneTime
import Cutscene.Proofs.Run.Overlay
import Cutscene.Proofs.Run.Refusal
import Cutscene.Proofs.Run.Release
import Cutscene.Proofs.Run.Skip
import Cutscene.Proofs.Run.Waiting
import Cutscene.Proofs.Tempo.Comment
import Cutscene.Proofs.Tempo.Transcript
import Cutscene.Proofs.Troupe.Acting
import Cutscene.Proofs.Troupe.Steering
import Cutscene.Proofs.Troupe.Table
import Cutscene.Proofs.Troupe.Drive
import Cutscene.Proofs.Troupe.Sound
import Cutscene.Proofs.Run.Handles
import Cutscene.Proofs.Run.Scripted
import Cutscene.Proofs.Run.Budget
import Cutscene.Proofs.Motion.Stride
import Cutscene.Proofs.Troupe.Pace
import Cutscene.Proofs.Motion.March
import Cutscene.Proofs.Run.Arrival
import Cutscene.Proofs.Troupe.Identity
import Cutscene.Proofs.Dance.Pairing
import Cutscene.Proofs.Script.Quotes
import Cutscene.Proofs.Script.Peg
import Cutscene.Proofs.Script.Cut
import Cutscene.Proofs.Script.Spelling
import Cutscene.Proofs.Script.Runs
import Cutscene.Proofs.Dance.Substitution
import Cutscene.Proofs.Dance.Tokens
import Cutscene.Proofs.Script.Command
import Cutscene.Proofs.Script.Agreement
import Cutscene.Proofs.Script.Quoting
import Cutscene.Proofs.Troupe.Bound
import Cutscene.Proofs.Run.Dismissal
import Cutscene.Proofs.Run.GivingUp
import Cutscene.Proofs.Run.Deferral
import Cutscene.Proofs.Script.WriteBack
import Cutscene.Proofs.Run.Next
import Cutscene.Proofs.Run.StateLine
import Cutscene.Proofs.Script.Branches
import Cutscene.Proofs.Run.Branch
import Cutscene.Proofs.Troupe.Settled
import Cutscene.Proofs.Run.Standing
import Cutscene.Proofs.Scalar.Whole
import Cutscene.Proofs.Motion.Pixels
import Cutscene.Proofs.Motion.Alone
import Cutscene.Proofs.Motion.Landing
import Cutscene.Proofs.Motion.Errand
import Cutscene.Proofs.Motion.Reach
import Cutscene.Proofs.Motion.Cover
import Cutscene.Proofs.Motion.Course
import Cutscene.Proofs.Motion.Lap
import Cutscene.Proofs.Actor.Upkeep
import Cutscene.Proofs.Dance.Arrangement
import Cutscene.Proofs.Run.Insertion
import Cutscene.Proofs.Actor.Endless
import Cutscene.Proofs.Dance.Accord
import Cutscene.Proofs.Dance.Actors
import Cutscene.Proofs.Dance.Movers
import Cutscene.Proofs.Dance.Rows
import Cutscene.Proofs.Content.Loading
import Cutscene.Proofs.Names
import Cutscene.Proofs.Script.Slashes
import Cutscene.Proofs.Dance.Drops
import Cutscene.Proofs.Content.Resolution
import Cutscene.Proofs.Motion.Sides
import Cutscene.Proofs.Troupe.Singular
import Cutscene.Proofs.Run.Naming
import Cutscene.Proofs.Troupe.Layout
import Cutscene.Proofs.Actor.Spelling
import Cutscene.Proofs.Script.Arguments
