/-!
The working command list of a running event. It changes only by edits, which a command queues
while it runs, and every edit counts up the version of the list.
-/

namespace Cutscene

/-- Why a whole script is replaced. -/
inductive Swap where
  | fork
  | switch
  deriving DecidableEq, Repr

/-- A change to the command list. -/
inductive Edit where
  /-- Puts commands directly after an index, or at the end if the list is shorter. -/
  | insertAfter (index : Nat) (commands : List String)
  /-- Writes over the command at an index, or adds one if the list is shorter. -/
  | replaceAt (index : Nat) (command : String)
  /-- Puts another script in place of the whole list. -/
  | replaceAll (commands : List String) (swap : Swap)
  deriving DecidableEq, Repr

/-- A command list and the number of edits made to it. -/
structure Working where
  commands : List String
  version : Nat
  deriving DecidableEq, Repr

namespace Working

/-- A list before its first edit. -/
def ofList (commands : List String) : Working := ⟨commands, 0⟩

/-- The number of commands. -/
def size (w : Working) : Nat := w.commands.length

/-- The command at an index. -/
def get? (w : Working) (index : Nat) : Option String := w.commands[index]?

/-- The command at an index, empty outside the list. -/
def getD (w : Working) (index : Nat) : String := (w.get? index).getD ""

/-- The commands after an edit. -/
def edited (commands : List String) : Edit → List String
  | .insertAfter i new => commands.take (i + 1) ++ new ++ commands.drop (i + 1)
  | .replaceAt i new => if i < commands.length then commands.set i new else commands ++ [new]
  | .replaceAll new _ => new

/-- Makes one edit. -/
def apply (w : Working) (edit : Edit) : Working := ⟨edited w.commands edit, w.version + 1⟩

@[simp] theorem apply_version (w : Working) (e : Edit) : (w.apply e).version = w.version + 1 := rfl

@[simp] theorem apply_commands (w : Working) (e : Edit) :
    (w.apply e).commands = edited w.commands e := rfl

theorem length_edited_insertAfter (commands new : List String) (i : Nat) :
    (edited commands (.insertAfter i new)).length = commands.length + new.length := by
  simp only [edited, List.length_append, List.length_take, List.length_drop]
  omega

end Working

end Cutscene
