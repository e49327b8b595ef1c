import Cutscene.Dance.Slot
import Cutscene.Script.Fours
import Cutscene.Script.Token

/-!
Writing pairs of dancers into a template. Slots become dancers; a command that names an empty slot
goes, and so does the group of an empty slot in the layout and in a move. Warps of one row are
spread over its width, and the frames of a generic dancer become those of a player.
-/

namespace Cutscene

namespace Dance

/-- The index of the actor layout in a template. -/
def layoutIndex : Nat := 2

/-- Writes the dancers in place of their slots. -/
def substitute (pairs : List DancePair) (command : String) : String :=
  let write (run : List Char) : List Char :=
    match (SlotName.ofRun? run).bind (·.dancer? pairs) with
    | some dancer => dancer.token.toList
    | none => run
  String.ofList ((Text.runs command.toList).flatMap write)

/-- The token is the name of an empty slot. -/
def isEmptySlot (filled : Nat) (token : String) : Bool :=
  match SlotName.ofToken? token with
  | some slot => !slot.isFilled filled
  | none => false

/-- A move without the groups of empty slots; nothing if no group is left. Other commands stay as
they are. -/
def prune (filled : Nat) (command : String) : Option String :=
  match Script.tokens? command with
  | some (name :: body) =>
    let groups := Script.fours body
    let kept := groups.filter fun group => !isEmptySlot filled (group.headD "")
    if !Text.alike name "move" ∨ kept.length = groups.length then some command
    else if kept.isEmpty then none
    else some (Text.spaced (name :: kept.flatten ++ Script.leftover body))
  | _ => some command

/-- A layout with the dancers in the groups of their slots and without the groups of empty slots.
A layout that is not in fours stays as it is. -/
def fillLayout (pairs : List DancePair) (layout : String) : String :=
  let fill (group : List String) : Option (List String) :=
    match SlotName.ofToken? (group.headD "") with
    | some slot => (slot.dancer? pairs).map fun dancer => dancer.token :: group.tail
    | none => some group
  match Script.tokens? layout with
  | some tokens =>
    if tokens.length % 4 = 0 then
      Text.spaced ((Script.fours tokens).filterMap fill).flatten
    else layout
  | none => layout

/-- A warp of a slot. -/
structure SlotWarp where
  role : Role
  slot : Nat
  x : Int
  y : Int
  deriving DecidableEq, Repr

/-- The warp that a command is. -/
def SlotWarp.ofCommand? (command : String) : Option SlotWarp :=
  match Script.tokens? command with
  | some (name :: who :: x :: y :: _) =>
    if Text.alike name "warp" then do
      let slot ← (SlotName.allIn who).head?
      return ⟨slot.role, ← slot.number?, ← Numeral.int32? x, ← Numeral.int32? y⟩
    else none
  | _ => none

/-- Puts a value under a number in its place among sorted numbers, unless the number is there. -/
def insertFirst (n : Nat) (x : Int) : List (Nat × Int) → List (Nat × Int)
  | [] => [(n, x)]
  | m :: rest =>
    if n < m.1 then (n, x) :: m :: rest
    else if n = m.1 then m :: rest
    else m :: insertFirst n x rest

/-- The slots of a row in their order, each with the tile of its first warp. A row is one role at
one height. -/
def row (warps : List SlotWarp) (role : Role) (y : Int) : List (Nat × Int) :=
  (warps.filter fun w => w.role = role ∧ w.y = y).foldl (fun r w => insertFirst w.slot w.x r) []

/-- Where the dancer of a rank stands when so many are spread from one tile to another; a single
one stands in the middle. -/
def spread (lo hi : Int) (count rank : Nat) : Int :=
  if count = 1 then (lo + hi).tdiv 2
  else lo + ((hi - lo) * rank).tdiv ((count : Int) - 1)

/-- Where the filled slot of a warp stands in its row. -/
def placeInRow (warps : List SlotWarp) (filled : Nat) (w : SlotWarp) : Option Int :=
  let slots := row warps w.role w.y
  let live := (slots.map Prod.fst).filter fun n => 1 ≤ n ∧ n ≤ filled
  let xs := slots.map Prod.snd
  match xs.min?, xs.max?, live.findIdx? (· == w.slot) with
  | some lo, some hi, some rank => some (spread lo hi live.length rank)
  | _, _, _ => none

/-- A warp of a filled slot goes to its place in the row. -/
def respace (warps : List SlotWarp) (filled : Nat) (command : String) : String :=
  match (SlotWarp.ofCommand? command).bind (placeInRow warps filled), Script.tokens? command with
  | some x, some (name :: who :: _ :: rest) =>
    Text.spaced (name :: who :: Numeral.ofInt x :: rest)
  | _, _ => command

/-- The token of a player: `farmer` and digits. -/
def isPlayerToken (token : String) : Bool :=
  match Text.after? playerWord.toList token.toList with
  | some digits => !digits.isEmpty && digits.all Text.isDecimal
  | none => false

/-- The text is a single word. -/
def isWordText (text : String) : Bool := text != "" && text.toList.all Text.isWord

/-- The text is a run of decimal digits. -/
def isDigitText (text : String) : Bool := text != "" && text.toList.all Text.isDecimal

/-- The frames of the dance are those of villagers; a player poses and turns instead. -/
def reframe (command : String) : List String :=
  match Text.pieces ' ' command with
  | ["showFrame", who, frame] =>
    if isPlayerToken who ∧ frame = "44" then [s!"showFrame {who} 12", s!"faceDirection {who} 0"]
    else if isPlayerToken who ∧ frame = "40" then
      [s!"showFrame {who} 0", s!"faceDirection {who} 2"]
    else [command]
  | ["animate", who, flip, loop, time, "44", "45"] =>
    if isPlayerToken who ∧ isWordText flip ∧ isWordText loop ∧ isDigitText time then
      [s!"animate {who} {flip} {loop} {time} 12 13"]
    else [command]
  | _ => [command]

/-- What a command of the template becomes. -/
def fillCommand (pairs : List DancePair) (warps : List SlotWarp) (command : String) :
    List String :=
  match prune pairs.length command with
  | none => []
  | some command =>
    if (SlotName.allIn command).all (·.isFilled pairs.length) then
      reframe (substitute pairs (respace warps pairs.length command))
    else []

/-- The script of a dance: the template with pairs written into it. Only warps after the layout
make rows. -/
def assemble (template : List String) (pairs : List DancePair) : List String :=
  let warps := (template.drop (layoutIndex + 1)).filterMap SlotWarp.ofCommand?
  template.zipIdx.flatMap fun (command, index) =>
    if index = layoutIndex then [fillLayout pairs command]
    else fillCommand pairs (if layoutIndex < index then warps else []) command

end Dance

end Cutscene
