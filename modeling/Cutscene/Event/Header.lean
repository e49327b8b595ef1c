import Cutscene.Event.Scene
import Cutscene.Script.Fours

/-!
The header of an event: music, camera, and the actors with their places. It is read once, before
the first command.
-/

namespace Cutscene

/-- The camera that the second header command asks for. -/
def Camera.ofHeader (text : String) : Except Malformed Camera :=
  match Script.tokens? text with
  | none => .error (.unclosedQuote text)
  | some tokens =>
    let follows := match tokens with
      | [token] => Text.alike token "follow"
      | _ => false
    if follows then .ok .follow
    else
      -- The header has no name in front, so an empty one takes its place.
      match Args.point ⟨"" :: tokens⟩ 1 "camera tile" with
      | .ok tile => .ok (.fixed tile)
      | .error e => .error (.argument e)

namespace Scene

variable {α σ : Type} [Scalar α] [Stage α σ]

/-- Starts the track that the first header names; `continue` leaves the music alone. -/
def openMusic (s : Scene α σ) (header : String) : Scene α σ :=
  let track := (Text.firstWord? header).getD "none"
  if Text.alike track "continue" then s
  else if Text.alike track "none" then s.call (.playMusic none)
  else s.call (.playMusic (some track))

/-- Whom a name in the layout brings on; nobody for a player who is elsewhere. -/
def layoutActor? (s : Scene α σ) (name : String) (tile : Tile) (facing : Direction) :
    Option (Actor α) :=
  let here := Stage.localPlayer α s.stage
  let size := s.settings.tileSize
  match (ActorRef.parse name).id with
  | .localPlayer => some (.avatar here tile facing size)
  | .player n =>
    if n ∈ Stage.onlinePlayers α s.stage ∨ n = here then some (.avatar n tile facing size)
    else none
  | .named name => some (.place name .villager tile facing size)

/-- Reads one group of the layout and brings its actor on. -/
def openGroup (s : Scene α σ) (group : List String) : Except Malformed (Scene α σ) :=
  let args : Args := ⟨group⟩
  let read : Args.Read (Tile × Direction) := do
    let tile ← args.point 1 "tile"
    let facing ← args.direction 3 "facing"
    return (tile, facing)
  match read with
  | .error e => .error (.argument e)
  | .ok (tile, facing) =>
    match s.layoutActor? args.name tile facing with
    | some actor => .ok { s with cast := (s.cast.spawn actor).2 }
    | none => .ok s

/-- Brings the groups of the layout on, up to the first that is malformed. -/
def openGroups (s : Scene α σ) : List (List String) → Scene α σ × Option Malformed
  | [] => (s, none)
  | group :: rest =>
    match s.openGroup group with
    | .ok s => openGroups s rest
    | .error e => (s, some e)

/-- Brings on the actors of the layout. -/
def openLayout (s : Scene α σ) (header : String) : Scene α σ × Option Malformed :=
  match Script.tokens? header with
  | none => (s, some (.unclosedQuote header))
  | some tokens =>
    if tokens.length % 4 ≠ 0 then (s, some (.notInFours tokens.length))
    else s.openGroups (Script.fours tokens)

/-- Points the camera where the second header tells. -/
def openCamera (s : Scene α σ) (header : String) : Scene α σ × Option Malformed :=
  match Camera.ofHeader header with
  | .ok camera => (s.call (.viewport camera), none)
  | .error e => (s, some e)

/-- Reads the header and sets the pointer behind it. Calls made before a fault stay made. -/
def openHeader (s : Scene α σ) : Scene α σ × Option HeaderFault :=
  let length := s.settings.headerLength
  if s.working.size < length then (s, some (.tooShort length s.working.size))
  else
    let header := s.working.commands.take (min length 3)
    let s := { s with cast := .empty (Stage.localPlayer α s.stage) }
    let s := match header[0]? with
      | some music => s.openMusic music
      | none => s
    let (s, fault) := match header[1]? with
      | some camera => s.openCamera camera
      | none => (s, none)
    match fault with
    | some cause => (s, some (.camera cause))
    | none =>
      let (s, fault) := match header[2]? with
        | some layout => s.openLayout layout
        | none => (s, none)
      match fault with
      | some cause => (s, some (.layout cause))
      | none => ({ s with pointer := length }, none)

end Scene

end Cutscene
