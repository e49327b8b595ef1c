import Cutscene.Format.Toml.Reader
import Cutscene.Scalar.Single
import Cutscene.Settings

/-!
Settings from a TOML file. A name that the file leaves out keeps its usual value, and other names
are passed over. Settings with which nobody could walk are refused.
-/

namespace Cutscene

/-- Why a settings file was refused. -/
inductive SettingsError where
  | unreadable (path : String)
  | malformed (path : String)
  | tileSize (size : Int)
  | speeds
  deriving DecidableEq, Repr

def SettingsError.message : SettingsError → String
  | unreadable path => s!"reading engine config from '{path}'"
  | malformed path => s!"parsing engine config from '{path}'"
  | tileSize size => s!"tile_size must be positive (got {Numeral.ofInt size})"
  | speeds => "movement speeds must be positive and finite"

namespace Toml

/-- An integer from one number to another. -/
def integer? (lo hi : Int) : Toml → Option Int
  | .integer n => if lo ≤ n ∧ n ≤ hi then some n else none
  | _ => none

/-- A number of the stage. A real number is rounded to sixty-four bits first, an integer is not. -/
def real? : Toml → Option Float32
  | .integer n => some (Single.ofDecimal ⟨decide (n < 0), n.natAbs, 0⟩)
  | .real (.finite d) =>
    some (Single.ofPattern (BinaryFormat.double.convert .single (BinaryFormat.double.ofDecimal d)))
  | .real word => some (Single.ofText word)
  | _ => none

def text? : Toml → Option String
  | .text s => some s
  | _ => none

end Toml

namespace Settings

/-- The settings of a document, unless a value is not of its kind. -/
def ofToml? (document : List (String × Toml)) : Option (Settings Float32) :=
  let usual : Settings Float32 := standard
  let named {β : Type} (name : String) (default : β) (read : Toml → Option β) : Option β :=
    match document.lookup name with
    | some value => read value
    | none => some default
  let int32 := Toml.integer? (-0x80000000) 0x7fffffff
  do
    return {
      tileSize := ← named "tile_size" usual.tileSize int32
      npcSpeed := ← named "npc_speed" usual.npcSpeed Toml.real?
      farmerSpeed := ← named "farmer_speed" usual.farmerSpeed Toml.real?
      arrivalSlop := ← named "arrival_slop" usual.arrivalSlop int32
      headerLength := ← named "header_len" usual.headerLength
        fun v => (v.integer? 0 0x7fffffffffffffff).map Int.toNat
      commentMarker := ← named "comment_marker" usual.commentMarker Toml.text?
      emoteTime := ← named "emote_ms" usual.emoteTime Toml.real?
      fadeSpeed := ← named "default_fade_speed" usual.fadeSpeed Toml.real?
      jumpTime := ← named "jump_ms" usual.jumpTime Toml.real? }

/-- A speed at which an actor gets somewhere. -/
def isUsable (speed : Float32) : Bool := Single.isFinite speed && decide (0 < speed)

/-- Settings that can be used: tiles have a size, and speeds are positive and finite. -/
def checked (s : Settings Float32) : Except SettingsError (Settings Float32) :=
  if s.tileSize ≤ 0 then .error (.tileSize s.tileSize)
  else if isUsable s.npcSpeed && isUsable s.farmerSpeed then .ok s
  else .error .speeds

/-- The settings of a file, given its text if it could be read. -/
def load (path : String) (text : Option String) : Except SettingsError (Settings Float32) :=
  match text with
  | none => .error (.unreadable path)
  | some text =>
    match (Toml.parse? text).bind ofToml? with
    | none => .error (.malformed path)
    | some s => s.checked

/-- The settings of a file, or the usual ones if it is refused. -/
def loadOrStandard (path : String) (text : Option String) : Settings Float32 :=
  match load path text with
  | .ok s => s
  | .error _ => standard

end Settings

end Cutscene
