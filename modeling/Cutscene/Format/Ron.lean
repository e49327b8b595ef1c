/-!
The values of the RON format, as far as content is written in it: texts, lists, maps, records with
named fields, and values that may be absent. Numbers and other values that content has no use for
are recognised and not kept.
-/

namespace Cutscene

/-- A RON value. -/
inductive Ron where
  | text (value : String)
  | list (items : List Ron)
  | map (entries : List (Ron × Ron))
  /-- Named fields in parentheses, with the name of the record if it is given. -/
  | record (name : Option String) (fields : List (String × Ron))
  /-- Values in parentheses, with a name if one is given. -/
  | tuple (name : Option String) (items : List Ron)
  /-- Parentheses with nothing between them and no name. -/
  | unit
  | word (name : String)
  /-- The word `None`. -/
  | absent
  /-- The word `Some` and its value. -/
  | present (value : Ron)
  /-- The word `Some` and its value, where a record would stand there without its parentheses. -/
  | presentBare (value : Ron)
  /-- The word `Some` and the fields of its record, directly in the parentheses of the word. -/
  | presentFields (fields : List (String × Ron))
  | other

/-- What a document asks for beyond the plain format. -/
structure RonDialect where
  /-- A value may stand for itself where there might be none. -/
  implicitSome : Bool
  /-- The fields of a record stand directly in the parentheses of its choice. -/
  bareChoices : Bool
  /-- Records give their names. -/
  namedRecords : Bool
  deriving DecidableEq, Repr

/-- The plain format. -/
def RonDialect.plain : RonDialect := ⟨false, false, false⟩

/-- Both documents' wishes. -/
def RonDialect.join (a b : RonDialect) : RonDialect :=
  ⟨a.implicitSome || b.implicitSome, a.bareChoices || b.bareChoices,
    a.namedRecords || b.namedRecords⟩

namespace Ron

/-! ### Depth -/

mutual

/-- How deep a value lies: a step for every bracket and every `Some`, and one for every part of what
they hold. -/
def depth : Ron → Nat
  | .list items => 1 + deepestItem items
  | .map entries => 1 + deepestEntry entries
  | .record _ fields => 1 + deepestField fields
  | .tuple _ items => 1 + deepestItem items
  | .present value => 1 + value.depth
  | .presentBare value => 1 + value.depth
  | .presentFields fields => 2 + deepestField fields
  | _ => 0

/-- The depth that the items of a value add to it. -/
def deepestItem : List Ron → Nat
  | [] => 0
  | item :: rest => max (1 + item.depth) (deepestItem rest)

/-- The depth that the entries of a map add to it. -/
def deepestEntry : List (Ron × Ron) → Nat
  | [] => 0
  | (key, value) :: rest => max (1 + max key.depth value.depth) (deepestEntry rest)

/-- The depth that the fields of a record add to it. -/
def deepestField : List (String × Ron) → Nat
  | [] => 0
  | (_, value) :: rest => max (1 + value.depth) (deepestField rest)

end

/-- The depth beyond which a document is refused. -/
def deepest : Nat := 128

/-! ### Views -/

def text? : Ron → Option String
  | .text s => some s
  | _ => none

def items? : Ron → Option (List Ron)
  | .list items => some items
  | _ => none

/-- The entries of a map whose keys and values are texts. -/
def textEntries? : Ron → Option (List (String × String))
  | .map entries => entries.mapM fun e => do return (← e.1.text?, ← e.2.text?)
  | _ => none

/-- The value of a field among fields, if it is there. A field that is given twice is refused. -/
def field? (name : String) (fields : List (String × Ron)) : Option (Option Ron) :=
  match fields.filter fun f => f.1 = name with
  | [] => some none
  | [f] => some (some f.2)
  | _ => none

/-- The value of a field that must be there. -/
def required? (name : String) (fields : List (String × Ron)) : Option Ron :=
  (field? name fields).bind id

/-- The fields of a record of a kind. Its name may be left out unless the dialect wants it, and
must be right. -/
def fieldsOf? (d : RonDialect) (kind : String) (r : Ron) : Option (List (String × Ron)) :=
  let fits (name : Option String) : Bool :=
    match name with
    | some n => n == kind
    | none => !d.namedRecords
  match r with
  | .record name fields => if fits name then some fields else none
  | .tuple name [] => if fits name then some [] else none
  | .unit => if fits none then some [] else none
  | _ => none

/-- The fields of a record that might be absent, as a document gives them: `None`, or a record after
`Some`. Where the dialect lets a value stand for itself, it may lie no deeper than `room`. -/
def optionalFields? (d : RonDialect) (room : Nat) (kind : String) :
    Ron → Option (Option (List (String × Ron)))
  | .absent => some none
  | .present r => (r.fieldsOf? d kind).map some
  | .presentBare _ => none
  | .presentFields fields => some (some fields)
  | r => if d.implicitSome && r.depth ≤ room then (r.fieldsOf? d kind).map some else none

end Ron

end Cutscene
