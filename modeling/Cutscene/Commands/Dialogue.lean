import Cutscene.Commands.Flow

/-!
Speech, messages and questions. What is shown is shown once; the command then holds the script
until the dialogue is closed or the question answered. A dialogue that is open for another reason
is waited out first.
-/

namespace Cutscene.Commands

variable {α σ : Type} [Scalar α] [Stage α σ]

/-- Moves on if the dialogue is closed. -/
def holdDialogue (s : Scene α σ) : Reply α σ :=
  (if Stage.dialogueOpen α s.stage then s else s.advance 1).done

/-- Holds a recorded dialogue; begins anew once no dialogue is open. -/
def onceClosed (s : Scene α σ) (begins : Scene α σ → Reply α σ) : Reply α σ :=
  match s.wait with
  | some .dialogue => holdDialogue s
  | _ => if Stage.dialogueOpen α s.stage then s.done else begins s

/-- Lets an actor say a line: `speak <actor> "<text>"`. -/
def speak (a : Args) (s : Scene α σ) : Reply α σ :=
  onceClosed s fun s =>
    let read : Args.Read (String × String) := do
      let actor ← a.get 1 "actor"
      let text ← a.remainder 2 "dialogue"
      return (actor, text)
    s.reading read fun (token, text) =>
      s.withActor token fun _ actor =>
        if actor.kind.canSpeak then
          ((s.call (.pushDialogue (some actor.name) text)).await .dialogue).done
        else (s.passOver (.cannotSpeak actor.name)).done

/-- Shows a line that nobody says: `message "<text>"`. -/
def message (a : Args) (s : Scene α σ) : Reply α σ :=
  onceClosed s fun s =>
    s.reading (a.remainder 1 "message") fun text =>
      ((s.call (.pushDialogue none text)).await .dialogue).done

/-- A prompt and its answers, from `prompt#answer#answer`; there must be an answer. -/
def splitPrompt? (text : String) : Option (String × List String) :=
  match (Text.pieces '#' text).map Text.trim with
  | prompt :: answer :: answers => some (prompt, answer :: answers)
  | _ => none

/-- The answer that a tag waits for: `forkN`, or none for `null`. -/
def forkTag? (tag : String) : Option (Option Nat) :=
  if Text.alike tag "null" then some none
  else
    match Text.after? "fork".toList (Text.lower tag).toList with
    | some number => (Numeral.nat64? (String.ofList number)).map some
    | none => none

/-- Asks a question: `question <forkN|null> "<prompt>#<answer>#..."`. The answer with the number of
the tag, counted from zero, sets the fork variable. -/
def question (a : Args) (s : Scene α σ) : Reply α σ :=
  match s.wait with
  | some (.answer fork) =>
    let (answer, stage) := Stage.takeAnswer α s.stage
    let s := { s with stage := stage }
    match answer with
    | none => s.done
    | some n =>
      let s := if fork = some n then { s with forkVariable := true } else s
      (s.advance 1).done
  | _ =>
    if Stage.dialogueOpen α s.stage then s.done
    else
      let read : Args.Read (Option Nat × String) := do
        let _ ← a.get 1 "fork tag"
        let text ← a.remainder 2 "question"
        let fork ← a.parsed 1 "fork tag" .forkTag forkTag?
        return (fork, text)
      s.reading read fun (fork, text) =>
        match splitPrompt? text with
        | none => (s.passOver .questionWithoutAnswers).done
        | some (prompt, answers) =>
          ((s.call (.askQuestion prompt answers)).await (.answer fork)).done

/-- The prompt and the branches of a quick question, from its raw text: the name of the command
goes, and `(break)` stands in front of each branch. -/
def splitQuickQuestion (raw : String) : String × List String :=
  let body := match Text.halves? ' ' (String.ofList (Text.trimFront raw.toList)) with
    | some (_, rest) => rest
    | none => ""
  match Text.piecesBetween "(break)" body with
  | prompt :: branches => (Text.unquote prompt, branches)
  | [] => ("", [])

/-- Asks a question with a branch for every answer:
`quickQuestion <prompt>#<answer>...(break)<command>\<command>(break)...`. The commands of the
branch that is picked come next. They are taken from the raw text, so their quotes survive. -/
def quickQuestion (_ : Args) (s : Scene α σ) : Reply α σ :=
  let (promptText, branches) := splitQuickQuestion (s.currentCommand?.getD "")
  match s.wait with
  | some (.answer _) =>
    let (answer, stage) := Stage.takeAnswer α s.stage
    let s := { s with stage := stage }
    match answer with
    | none => s.done
    | some n =>
      match branches[n]? with
      | none => (s.passOver (.noBranch n)).done
      | some branch =>
        let commands := partsBetween '\\' branch
        let s := s.advance 1
        (if commands.isEmpty then s else s.onEvent (·.insertAfterCurrent commands)).done
  | _ =>
    if Stage.dialogueOpen α s.stage then s.done
    else
      match splitPrompt? promptText with
      | none => (s.passOver .quickQuestionWithoutAnswers).done
      | some (prompt, answers) =>
        ((s.call (.askQuestion prompt answers)).await (.answer none)).done

/-- The command by which an actor says a text. -/
def speakCommand (actor text : String) : String :=
  s!"speak {actor} " ++ String.ofList (Text.encode text.toList)

/-- Becomes a `speak` of the line that the game has for a state: `speakFromState <actor> <key>`. -/
def speakFromState (a : Args) (s : Scene α σ) : Reply α σ :=
  let read : Args.Read (String × String) := do
    let actor ← a.get 1 "actor"
    let key ← a.get 2 "state key"
    return (actor, key)
  s.reading read fun (actor, key) =>
    match Stage.stateDialogue? α s.stage actor key with
    | some text => (s.onEvent (·.replaceCurrent (speakCommand actor text))).done
    | none => (s.passOver (.noStateDialogue actor key)).done

end Cutscene.Commands
