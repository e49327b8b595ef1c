import Cutscene.Event.Scene

/-!
The commands that only pass something on to the stage: sound, camera, fades and effects.
-/

namespace Cutscene.Commands

variable {α σ : Type} [Scalar α] [Stage α σ]

/-- Plays a sound: `playSound <sound>`. -/
def playSound (a : Args) (s : Scene α σ) : Reply α σ :=
  s.reading (a.get 1 "sound") fun sound => ((s.call (.playSound sound)).advance 1).done

/-- Plays a track, or stops the music for `none`: `playMusic <track>`. -/
def playMusic (a : Args) (s : Scene α σ) : Reply α σ :=
  s.reading (a.get 1 "track") fun track =>
    let track := if Text.alike track "none" then none else some track
    ((s.call (.playMusic track)).advance 1).done

/-- Stops the music: `stopMusic`. -/
def stopMusic (_ : Args) (s : Scene α σ) : Reply α σ :=
  ((s.call (.playMusic none)).advance 1).done

/-- The camera that the arguments of `viewport` mean. -/
def readCamera (a : Args) : Args.Read Camera :=
  let word := Text.lower ((a.get? 1).getD "")
  if word = "follow" then return .follow
  else if word = "move" then do
    let offset ← a.point 2 "pan offset"
    let time ← a.int 4 "pan duration"
    return .pan offset time
  else (a.point 1 "camera tile").map .fixed

/-- Turns the camera: `viewport <x> <y>`, `viewport follow` or `viewport move <dx> <dy> <ms>`. -/
def viewport (a : Args) (s : Scene α σ) : Reply α σ :=
  s.reading (readCamera a) fun camera => ((s.call (.viewport camera)).advance 1).done

/-- Begins a fade and holds the script until it is complete, unless it is told to go on. -/
def fade (toBlack : Bool) (a : Args) (s : Scene α σ) : Reply α σ :=
  match s.wait with
  | some .fade => (if Stage.fadeComplete α s.stage then s.advance 1 else s).done
  | _ =>
    let read : Args.Read (α × Bool) := do
      let speed ← a.optFloat 1 "fade speed" s.settings.fadeSpeed
      let continues ← a.optBool 2 "continue" false
      return (speed, continues)
    s.reading read fun (speed, continues) =>
      let s := s.call (.beginFade toBlack speed continues)
      (if continues then s.advance 1 else s.await .fade).done

/-- Fades to black: `globalFade [speed] [continue]`. -/
def globalFade (a : Args) (s : Scene α σ) : Reply α σ := fade true a s

/-- Fades back to the picture: `globalFadeToClear [speed] [continue]`. -/
def globalFadeToClear (a : Args) (s : Scene α σ) : Reply α σ := fade false a s

/-- What may follow the tile of an effect. -/
structure EffectOptions where
  options : List String
  tint : Option Color
  source : Option Rect
  deriving DecidableEq, Repr

/-- The options of an effect from an index on. A later tint or source goes before an earlier one. -/
def readOptions (a : Args) (index : Nat) : Args.Read EffectOptions :=
  if index < a.size then
    let token := (a.get? index).getD ""
    if Text.alike token "tint" then do
      let tint ← a.color (index + 1) "tint"
      let more ← readOptions a (index + 2)
      return { more with tint := more.tint.or (some tint) }
    else if Text.alike token "source" then do
      let source ← a.rect (index + 1) "source"
      let more ← readOptions a (index + 5)
      return { more with source := more.source.or (some source) }
    else do
      let more ← readOptions a (index + 1)
      return { more with options := token :: more.options }
  else return ⟨[], none, none⟩
termination_by a.size - index

/-- Shows an effect: `spawnEffect <effect> <x> <y> [options...]`. Options go to the stage as they
are written, apart from `tint <color>` and `source <x> <y> <width> <height>`. -/
def spawnEffect (a : Args) (s : Scene α σ) : Reply α σ :=
  let read : Args.Read Effect := do
    let name ← a.get 1 "effect"
    let tile ← a.point 2 "tile"
    let more ← readOptions a 4
    return ⟨name, tile, more.options, more.tint, more.source⟩
  s.reading read fun effect => ((s.call (.effect effect)).advance 1).done

/-- Flashes the screen with an opacity held between nothing and all: `screenFlash <alpha>`. -/
def screenFlash (a : Args) (s : Scene α σ) : Reply α σ :=
  let read : Args.Read α := a.float 1 "alpha"
  s.reading read fun alpha =>
    let alpha := Scalar.clamp (Scalar.ofInt 0) (Scalar.ofInt 1) alpha
    ((s.call (.flashScreen alpha)).advance 1).done

end Cutscene.Commands
