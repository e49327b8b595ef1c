import Cutscene.Text.Letter

/-!
The table of commands. Letter case in names does not matter. An alias stands for a command and
never for another alias.
-/

namespace Cutscene

/-- Why an alias was refused. -/
inductive AliasError where
  | chain (other : String) (target : String)
  | unknownTarget (other : String) (target : String)
  | shadowsCommand (other : String)
  deriving DecidableEq, Repr

def AliasError.message : AliasError → String
  | chain other target => s!"alias '{other}' cannot target '{target}', which is itself an alias"
  | unknownTarget other target => s!"alias '{other}' targets unregistered command '{target}'"
  | shadowsCommand other => s!"alias '{other}' shadows a registered command"

/-- Commands by their name in small letters, with the name as it was given, and aliases. -/
structure CommandTable (η : Type) where
  commands : List (String × (String × η))
  aliases : List (String × String)

namespace CommandTable

variable {η : Type}

/-- A table without commands. -/
def empty : CommandTable η := ⟨[], []⟩

/-- Puts a value under a key, in place of the one that is there. -/
def put {β : Type} (key : String) (value : β) (l : List (String × β)) : List (String × β) :=
  (key, value) :: l.filter fun m => m.1 ≠ key

/-- Names a handler. A name that is taken goes to the new handler. -/
def register (t : CommandTable η) (name : String) (handler : η) : CommandTable η :=
  { t with commands := put (Text.lower name) (name, handler) t.commands }

/-- Adds another name for a command. -/
def registerAlias (t : CommandTable η) (other target : String) :
    Except AliasError (CommandTable η) :=
  let otherKey := Text.lower other
  let targetKey := Text.lower target
  if (t.aliases.lookup targetKey).isSome then .error (.chain other target)
  else if (t.commands.lookup targetKey).isNone then .error (.unknownTarget other target)
  else if (t.commands.lookup otherKey).isSome then .error (.shadowsCommand other)
  else .ok { t with aliases := put otherKey targetKey t.aliases }

/-- The name under which a name is looked up among the commands. -/
def canonicalKey (t : CommandTable η) (name : String) : String :=
  let key := Text.lower name
  (t.aliases.lookup key).getD key

/-- The command that a name or an alias means: its name as it was given, and its handler. -/
def resolve? (t : CommandTable η) (name : String) : Option (String × η) :=
  t.commands.lookup (t.canonicalKey name)

def contains (t : CommandTable η) (name : String) : Bool := (t.resolve? name).isSome

/-- The names of the commands, sorted. -/
def names (t : CommandTable η) : List String :=
  (t.commands.map fun m => m.2.1).mergeSort fun a b => decide (a ≤ b)

/-- A table of named handlers and then aliases; an alias that is refused is left out. -/
def ofLists (handlers : List (String × η)) (aliases : List (String × String)) :
    CommandTable η :=
  let named := handlers.foldl (fun t h => t.register h.1 h.2) empty
  aliases.foldl (fun t a => ((t.registerAlias a.1 a.2).toOption).getD t) named

end CommandTable

end Cutscene
