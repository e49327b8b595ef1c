import Cutscene.Event.Scene

/-!
The commands that reach the saved game: mail, friendship, items, penalties and prizes.
-/

namespace Cutscene.Commands

variable {α σ : Type} [Stage α σ]

/-- Counts a letter as received, and not twice: `mail <letter>`. -/
def mail (a : Args) (s : Scene α σ) : Reply α σ :=
  s.reading (a.get 1 "mail id") fun letter =>
    let s := if Stage.hasFlag α s.stage letter then s else s.call (.addFlag letter)
    (s.advance 1).done

/-- Changes how well somebody is liked: `friendship <npc> <amount>`. -/
def friendship (a : Args) (s : Scene α σ) : Reply α σ :=
  let read : Args.Read (String × Int) := do
    let npc ← a.get 1 "npc"
    let amount ← a.int 2 "amount"
    return (npc, amount)
  s.reading read fun (npc, amount) => ((s.call (.friendship npc amount)).advance 1).done

/-- Gives the player an item, once or so often: `addItem <item> [count]`. -/
def addItem (a : Args) (s : Scene α σ) : Reply α σ :=
  let read : Args.Read (String × Int) := do
    let item ← a.get 1 "item"
    let count ← a.optInt 2 "count" 1
    return (item, count)
  s.reading read fun (item, count) => ((s.call (.addItem item count)).advance 1).done

/-- Takes the items that a knock-out costs; if any were lost, `showItemsLost` comes next:
`loseItems`. -/
def loseItems (_ : Args) (s : Scene α σ) : Reply α σ :=
  let lost := Stage.itemsToLose α s.stage
  let s := (s.call (.deathPenalty lost)).advance 1
  (if 0 < lost then s.onEvent (·.insertAfterCurrent ["showItemsLost"]) else s).done

/-- Shows what was lost and holds the script until the menu closes: `showItemsLost`. -/
def showItemsLost (_ : Args) (s : Scene α σ) : Reply α σ :=
  match s.wait with
  | some .menu => (if Stage.menuOpen α s.stage then s else s.advance 1).done
  | _ => ((s.call .showLostItems).await .menu).done

/-- Gives a festival prize: `awardFestivalPrize [prize]`. Without a named prize, a player who did
not win misses the command after it too, which is the winner's line. -/
def awardFestivalPrize (a : Args) (s : Scene α σ) : Reply α σ :=
  match a.get? 1 with
  | some prize => ((s.call (.awardPrize (some prize))).advance 1).done
  | none =>
    if Stage.festivalWinner α s.stage then ((s.call (.awardPrize none)).advance 1).done
    else (s.advance 2).done

end Cutscene.Commands
