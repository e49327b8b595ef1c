import Cutscene.Decimal.Basic

/-!
The values of the TOML format, and the document that headers and dotted keys build up. A table can
be defined once: by its own header or by the dotted keys of one place. A table that only stands in
a longer header may still get a header of its own.
-/

namespace Cutscene

/-- A TOML value. -/
inductive Toml where
  | text (value : String)
  | integer (value : Int)
  | real (value : RealText)
  | bool (value : Bool)
  /-- A date, a time or both; which one is not kept. -/
  | moment
  | array (items : List Toml)
  | table (members : List (String × Toml))

namespace Toml

/-- What a table was first named by. -/
inductive Origin where
  /-- Its own header, or it is the document itself. -/
  | header
  /-- A longer header. -/
  | longerHeader
  /-- A dotted key. -/
  | dottedKey
  deriving DecidableEq, Repr

/-- What a name of an unfinished document stands for. -/
inductive Entry where
  | value (value : Toml)
  | table (origin : Origin) (members : List (String × Entry))
  /-- Tables under one name, of which only the last still grows. -/
  | tables (done : List (List (String × Entry))) (last : List (String × Entry))

namespace Entry

/-- The names of a table. -/
abbrev Members := List (String × Entry)

/-- Changes what a name stands for, if the change is allowed. -/
def alter (name : String) (f : Option Entry → Option Entry) : Members → Option Members
  | [] => (f none).map fun t => [(name, t)]
  | m :: rest =>
    if m.1 = name then (f (some m.2)).map fun t => (name, t) :: rest
    else (alter name f rest).map (m :: ·)

/-- Changes the table at the end of a path, making tables on the way. Dotted keys do not reach into
a table that has a header. -/
def within (dotted : Bool) (f : Origin → Members → Option Members) :
    List String → Origin → Members → Option Members
  | [], origin, ms => f origin ms
  | name :: path, _, ms =>
    alter name (fun
      | none =>
        let origin : Origin := if dotted then .dottedKey else .longerHeader
        (within dotted f path origin []).map (.table origin)
      | some (.value _) => none
      | some (.tables done last) => (within dotted f path .header last).map (.tables done)
      | some (.table origin child) =>
        if dotted ∧ origin = .header then none
        else (within dotted f path origin child).map (.table origin)) ms

/-- Adds a value under a dotted key. The key must be new, and it must stand in a table of dotted
keys exactly if it is dotted itself. -/
def define (path : List String) (name : String) (value : Toml) (origin : Origin) (ms : Members) :
    Option Members :=
  let add (origin : Origin) (ms : Members) : Option Members :=
    if origin = .dottedKey ↔ path = [] then none
    else alter name (fun
      | none => some (.value value)
      | some _ => none) ms
  within true add path origin ms

/-- Opens the table of a header. -/
def openTable (path : List String) (name : String) (root : Members) : Option Members :=
  within false (fun _ ms => alter name (fun
    | none => some (.table .header [])
    | some (.table .longerHeader ms) => some (.table .header ms)
    | some _ => none) ms) path .header root

/-- Opens one more table under the name of a header. -/
def openNext (path : List String) (name : String) (root : Members) : Option Members :=
  within false (fun _ ms => alter name (fun
    | none => some (.tables [] [])
    | some (.tables done last) => some (.tables (done ++ [last]) [])
    | some _ => none) ms) path .header root

mutual

/-- The value that a name stands for in the finished document. -/
def finished : Entry → Toml
  | .value v => v
  | .table _ ms => .table (finishedMembers ms)
  | .tables done last => .array (finishedTables done ++ [.table (finishedMembers last)])

/-- The members of a finished table. -/
def finishedMembers : List (String × Entry) → List (String × Toml)
  | [] => []
  | (name, t) :: rest => (name, finished t) :: finishedMembers rest

/-- The finished tables of one name. -/
def finishedTables : List (List (String × Entry)) → List Toml
  | [] => []
  | ms :: rest => .table (finishedMembers ms) :: finishedTables rest

end

end Entry

end Toml

end Cutscene
