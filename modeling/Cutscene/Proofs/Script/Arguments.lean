import Cutscene.Scalar.Single
import Cutscene.Script.Args
import Mathlib.Data.List.Basic
import Mathlib.Order.Bounds.Basic

/-!
# The First Fault of a Read

A typed read goes through the tokens of its shape one after the other (`Args.Shape.map_parts_read`)
and stops at the first that is absent or is not what it should be. What the tokens should be is said
in `Args.Shape.Admits` without the readers of the commands, those of decimals apart.
-/

namespace Cutscene

/-! ### Numerals -/

namespace Numeral

/-- The characters write a number: digits, at least one, and perhaps a sign in front of them. -/
inductive Spells : List Char → Int → Prop where
  | bare {ds : List Char} {n : Nat} (h : digits? ds = some n) : Spells ds n
  | plus {ds : List Char} {n : Nat} (h : digits? ds = some n) : Spells ('+' :: ds) n
  | minus {ds : List Char} {n : Nat} (h : digits? ds = some n) : Spells ('-' :: ds) (-n)

lemma digits?_cons_of_no_digit {c : Char} (hc : digit? c = none) (ds : List Char) :
    digits? (c :: ds) = none := by
  rw [digits?, readFrom, hc]
  rfl

lemma spells_minus_iff {ds : List Char} {v : Int} :
    Spells ('-' :: ds) v ↔ ∃ n : Nat, digits? ds = some n ∧ -(n : Int) = v := by
  constructor
  · rintro (h | h | h)
    · rw [digits?_cons_of_no_digit (by decide)] at h
      cases h
    · exact ⟨_, h, rfl⟩
  · rintro ⟨n, h, rfl⟩
    exact .minus h

lemma spells_plus_iff {ds : List Char} {v : Int} :
    Spells ('+' :: ds) v ↔ ∃ n : Nat, digits? ds = some n ∧ (n : Int) = v := by
  constructor
  · rintro (h | h | h)
    · rw [digits?_cons_of_no_digit (by decide)] at h
      cases h
    · exact ⟨_, h, rfl⟩
  · rintro ⟨n, h, rfl⟩
    exact .plus h

lemma spells_bare_iff {cs : List Char} {v : Int} (hminus : ∀ ds, cs ≠ '-' :: ds)
    (hplus : ∀ ds, cs ≠ '+' :: ds) :
    Spells cs v ↔ ∃ n : Nat, digits? cs = some n ∧ (n : Int) = v := by
  constructor
  · rintro (h | h | h)
    · exact ⟨_, h, rfl⟩
    · exact absurd rfl (hplus _)
    · exact absurd rfl (hminus _)
  · rintro ⟨n, h, rfl⟩
    exact .bare h

/-- An integer is read where a number of its range is written. -/
lemma between?_eq_some_iff {lo hi v : Int} {s : String} :
    between? lo hi s = some v ↔ Spells s.toList v ∧ lo ≤ v ∧ v ≤ hi := by
  unfold between?
  dsimp only
  rw [Option.filter_eq_some_iff, Bool.and_eq_true, decide_eq_true_iff, decide_eq_true_iff]
  refine and_congr_left fun _ => ?_
  split
  · rename_i hcs
    simp [hcs, spells_minus_iff, Option.bind_eq_some_iff]
  · rename_i hcs
    simp [hcs, spells_plus_iff, Option.bind_eq_some_iff]
  · rename_i hminus hplus
    simp [spells_bare_iff hminus hplus, Option.bind_eq_some_iff]

end Numeral

/-! ### One after the other -/

/-- The first element of a kind is the head, or the head is passed over. -/
lemma exists_first_cons_iff {β : Type} {P Q : β → Prop} {y : β} {l : List β} :
    (∃ before x after, y :: l = before ++ x :: after ∧ (∀ b ∈ before, P b) ∧ Q x) ↔
      Q y ∨ P y ∧ ∃ before x after, l = before ++ x :: after ∧ (∀ b ∈ before, P b) ∧ Q x := by
  constructor
  · rintro ⟨before, x, after, hl, hbefore, hx⟩
    cases before with
    | nil =>
      obtain ⟨rfl, rfl⟩ := List.cons.inj hl
      exact .inl hx
    | cons b before =>
      obtain ⟨rfl, rfl⟩ := List.cons.inj hl
      obtain ⟨hy, hbefore⟩ := List.forall_mem_cons.mp hbefore
      exact .inr ⟨hy, before, x, after, rfl, hbefore, hx⟩
  · rintro (hy | ⟨hy, before, x, after, rfl, hbefore, hx⟩)
    · exact ⟨[], y, l, rfl, nofun, hy⟩
    · exact ⟨y :: before, x, after, rfl, List.forall_mem_cons.mpr ⟨hy, hbefore⟩, hx⟩

/-- A traversal fails with what its first element to fail fails with. -/
lemma mapM_eq_error_iff {ε β γ : Type} {f : β → Except ε γ} {l : List β} {e : ε} :
    l.mapM f = .error e ↔ ∃ before x after, l = before ++ x :: after ∧
      (∀ b ∈ before, ∃ v, f b = .ok v) ∧ f x = .error e := by
  induction l with
  | nil => simp [pure, Except.pure]
  | cons y l ih =>
    rw [exists_first_cons_iff, ← ih, List.mapM_cons]
    cases f y <;> cases l.mapM f <;> simp [bind, Except.bind, pure, Except.pure]

/-- A traversal succeeds where it succeeds at every element. -/
lemma exists_mapM_eq_ok_iff {ε β γ : Type} {f : β → Except ε γ} {l : List β} :
    (∃ vs, l.mapM f = .ok vs) ↔ ∀ x ∈ l, ∃ v, f x = .ok v := by
  induction l with
  | nil => simp [pure, Except.pure]
  | cons y l ih =>
    rw [List.forall_mem_cons, ← ih, List.mapM_cons]
    cases f y <;> cases l.mapM f <;> simp [bind, Except.bind, pure, Except.pure]

namespace Args

/-! ### One token -/

section

variable {β : Type} {a : Args} {index : Nat} {field : String} {expected : Expected}
  {reader : String → Option β}

lemma parsed_eq_ok_iff {v : β} : a.parsed index field expected reader = .ok v ↔
    ∃ token, a.get? index = some token ∧ reader token = some v := by
  unfold parsed get
  cases a.get? index with
  | none => simp [bind, Except.bind]
  | some token => cases hv : reader token <;> simp [bind, Except.bind, hv]

lemma parsed_eq_error_iff {e : ArgError} : a.parsed index field expected reader = .error e ↔
    (a.get? index = none ∧ e = .missing index field (a.size - 1)) ∨
      ∃ token, a.get? index = some token ∧ reader token = none ∧
        e = .invalid index field token expected := by
  unfold parsed get
  cases a.get? index with
  | none => simp [bind, Except.bind, eq_comm]
  | some token => cases hv : reader token <;> simp [bind, Except.bind, hv, eq_comm]

end

/-! ### What is read by type -/

/-- What tokens are read as: one of them, or several in a row. -/
inductive Shape where
  | int
  | float
  | bool
  | direction
  | color
  | point
  | vector
  | rect
  deriving DecidableEq, Repr

namespace Shape

/-- The number of tokens. -/
def width : Shape → Nat
  | int | float | bool | direction | color => 1
  | point | vector => 2
  | rect => 4

/-- What each of the tokens is to be. -/
def expected : Shape → Expected
  | int | point | rect => .integer
  | float | vector => .number
  | bool => .boolean
  | direction => .direction
  | color => .color

/-- What each of the tokens is called. -/
def names (field : String) : Shape → List String
  | int | float | bool | direction | color => [field]
  | point | vector => [s!"{field} X", s!"{field} Y"]
  | rect => [s!"{field} X", s!"{field} Y", s!"{field} width", s!"{field} height"]

/-- The tokens by name and position. -/
def spots (index : Nat) (field : String) (s : Shape) : List (String × Nat) :=
  (s.names field).zipIdx index

section

variable (α : Type)

/-- What is read. -/
def Value : Shape → Type
  | int => Int
  | float => α
  | bool => Bool
  | direction => Direction
  | color => Color
  | point => Tile
  | vector => Vec α
  | rect => Rect

/-- What one token is read as. -/
def Part : Shape → Type
  | int | point | rect => Int
  | float | vector => α
  | bool => Bool
  | direction => Direction
  | color => Color

variable {α}

/-- What the tokens were read as. -/
def parts : (s : Shape) → s.Value α → List (s.Part α)
  | int, n => [n]
  | float, x => [x]
  | bool, b => [b]
  | direction, d => [d]
  | color, c => [c]
  | point, t => [t.x, t.y]
  | vector, v => [v.x, v.y]
  | rect, r => [r.x, r.y, r.width, r.height]

variable [Scalar α]

/-- The read of a shape. -/
def read (a : Args) (index : Nat) (field : String) : (s : Shape) → Read (s.Value α)
  | int => a.int index field
  | float => (a.float index field : Read α)
  | bool => a.bool index field
  | direction => a.direction index field
  | color => a.color index field
  | point => a.point index field
  | vector => a.vector index field
  | rect => a.rect index field

/-- The reader of one token. -/
def reader : (s : Shape) → String → Option (s.Part α)
  | int | point | rect => Numeral.int32?
  | float | vector => (finite? : String → Option α)
  | bool => bool?
  | direction => Direction.ofToken?
  | color => Color.ofName?

variable (α) in
/-- A token is what the shape asks for: an integer of thirty-two bits; a finite number in the range
of the numbers that are reckoned with; a word of a short list in any letter case. -/
def Admits : Shape → String → Prop
  | int, token | point, token | rect, token =>
    ∃ n, Numeral.Spells token.toList n ∧ -0x80000000 ≤ n ∧ n ≤ 0x7fffffff
  | float, token | vector, token =>
    ∃ d, RealText.read? token = some (.finite d) ∧ ∃ x : α, Scalar.ofDecimal? d = some x
  | bool, token => Text.lower token ∈ ["true", "false"]
  | direction, token =>
    Text.lower token ∈ ["0", "up", "1", "right", "2", "down", "3", "left"]
  | color, token => Text.lower token ∈ Color.named.map Prod.fst

variable (α) in
/-- At a position there is a token, and it is what the shape asks for. -/
def FitsAt (s : Shape) (a : Args) (i : Nat) : Prop :=
  ∃ token, a.get? i = some token ∧ s.Admits α token

lemma exists_int32?_iff {token : String} : (∃ n, Numeral.int32? token = some n) ↔
    ∃ n, Numeral.Spells token.toList n ∧ -0x80000000 ≤ n ∧ n ≤ 0x7fffffff :=
  exists_congr fun _ => Numeral.between?_eq_some_iff

lemma exists_finite?_iff {token : String} : (∃ x : α, finite? token = some x) ↔
    ∃ d, RealText.read? token = some (.finite d) ∧ ∃ x : α, Scalar.ofDecimal? d = some x := by
  unfold finite?
  split
  · rename_i d hd
    simp [hd]
  · rename_i hno
    refine iff_of_false nofun ?_
    rintro ⟨d, hd, -⟩
    exact hno d hd

lemma exists_bool?_iff {token : String} :
    (∃ b, bool? token = some b) ↔ Text.lower token ∈ ["true", "false"] := by
  have htrue : Text.lower "true" = "true" := by decide
  have hfalse : Text.lower "false" = "false" := by decide
  unfold bool?
  simp only [Text.alike_iff, htrue, hfalse]
  split_ifs <;> simp [*]

lemma exists_ofToken?_iff {token : String} : (∃ d, Direction.ofToken? token = some d) ↔
    Text.lower token ∈ ["0", "up", "1", "right", "2", "down", "3", "left"] := by
  unfold Direction.ofToken?
  generalize Text.lower token = t
  simp only [List.mem_cons, List.not_mem_nil, or_false, ← or_assoc]
  split_ifs with h0 h1 h2 h3 <;> simp [*]

lemma exists_ofName?_iff {token : String} : (∃ c, Color.ofName? token = some c) ↔
    Text.lower token ∈ Color.named.map Prod.fst := by
  rw [Color.ofName?, ← Option.isSome_iff_exists, List.lookup_isSome_iff]
  simp

lemma exists_reader_iff (s : Shape) (token : String) :
    (∃ v, (s.reader token : Option (s.Part α)) = some v) ↔ s.Admits α token := by
  cases s with
  | int | point | rect => exact exists_int32?_iff
  | float | vector => exact exists_finite?_iff (α := α)
  | bool => exact exists_bool?_iff
  | direction => exact exists_ofToken?_iff
  | color => exact exists_ofName?_iff

-- The reads of several tokens, with their types in the open: under `Value` the laws of monads do
-- not apply.
lemma map_point (a : Args) (index : Nat) (field : String) :
    (fun t : Tile => [t.x, t.y]) <$> a.point index field =
      [(s!"{field} X", index), (s!"{field} Y", index + 1)].mapM fun spot =>
        a.parsed spot.2 spot.1 .integer Numeral.int32? := by
  simp only [Args.point, Args.int, List.mapM_cons, List.mapM_nil, map_bind, map_pure, pure_bind,
    bind_assoc]

lemma map_vector (a : Args) (index : Nat) (field : String) :
    (fun v : Vec α => [v.x, v.y]) <$> a.vector index field =
      [(s!"{field} X", index), (s!"{field} Y", index + 1)].mapM fun spot =>
        a.parsed spot.2 spot.1 .number (finite? : String → Option α) := by
  simp only [Args.vector, Args.float, List.mapM_cons, List.mapM_nil, map_bind, map_pure, pure_bind,
    bind_assoc]

lemma map_rect (a : Args) (index : Nat) (field : String) :
    (fun r : Rect => [r.x, r.y, r.width, r.height]) <$> a.rect index field =
      [(s!"{field} X", index), (s!"{field} Y", index + 1), (s!"{field} width", index + 2),
        (s!"{field} height", index + 3)].mapM fun spot =>
          a.parsed spot.2 spot.1 .integer Numeral.int32? := by
  simp only [Args.rect, Args.int, List.mapM_cons, List.mapM_nil, map_bind, map_pure, pure_bind,
    bind_assoc]

/-- A shape is read token by token. -/
lemma map_parts_read (s : Shape) (a : Args) (index : Nat) (field : String) :
    (s.parts <$> s.read a index field : Read (List (s.Part α))) =
      (s.spots index field).mapM fun spot => a.parsed spot.2 spot.1 s.expected s.reader := by
  cases s with
  | int | float | bool | direction | color =>
    rw [spots, names, List.zipIdx_singleton, List.mapM_cons]
    simp only [List.mapM_nil, bind_pure_comp]
    rfl
  | point => exact map_point a index field
  | vector => exact map_vector a index field
  | rect => exact map_rect a index field

variable {s : Shape} {a : Args} {index : Nat} {field : String}

lemma length_names (s : Shape) (field : String) : (s.names field).length = s.width := by
  cases s <;> rfl

/-- The positions of a shape are as many as its width. -/
lemma map_snd_spots (s : Shape) (index : Nat) (field : String) :
    (s.spots index field).map Prod.snd = List.range' index s.width := by
  rw [spots, List.zipIdx_map_snd, length_names]

lemma exists_parsed_iff {i : Nat} {name : String} :
    (∃ v : s.Part α, a.parsed i name s.expected s.reader = .ok v) ↔ s.FitsAt α a i := by
  simp only [parsed_eq_ok_iff, FitsAt, ← exists_reader_iff]
  exact ⟨fun ⟨v, token, hget, hv⟩ => ⟨token, hget, v, hv⟩,
    fun ⟨token, hget, v, hv⟩ => ⟨v, token, hget, hv⟩⟩

/-- A read succeeds where all its positions fit. -/
lemma exists_read_iff : (∃ v : s.Value α, s.read a index field = .ok v) ↔
    ∀ i ∈ List.range' index s.width, s.FitsAt α a i := by
  have hparts : (∃ v : s.Value α, s.read a index field = .ok v) ↔
      ∃ vs : List (s.Part α), s.parts <$> s.read a index field = .ok vs := by
    cases s.read (α := α) a index field <;> simp [Functor.map, Except.map]
  rw [hparts, map_parts_read, exists_mapM_eq_ok_iff, ← map_snd_spots s index field,
    List.forall_mem_map]
  simp only [exists_parsed_iff]

/-- A read fails at a position that does not fit and has none before it that does not. -/
lemma read_eq_error_iff {e : ArgError} : (s.read a index field : Read (s.Value α)) = .error e ↔
    ∃ before name i after, s.spots index field = before ++ (name, i) :: after ∧
      (∀ spot ∈ before, s.FitsAt α a spot.2) ∧
      ((a.get? i = none ∧ e = .missing i name (a.size - 1)) ∨
        ∃ token, a.get? i = some token ∧ ¬ s.Admits α token ∧
          e = .invalid i name token s.expected) := by
  have hparts : (s.read a index field : Read (s.Value α)) = .error e ↔
      (s.parts <$> s.read a index field : Read (List (s.Part α))) = .error e := by
    cases s.read (α := α) a index field <;> simp [Functor.map, Except.map]
  rw [hparts, map_parts_read, mapM_eq_error_iff]
  simp only [exists_parsed_iff, parsed_eq_error_iff, Prod.exists]
  simp only [← exists_reader_iff, Option.eq_none_iff_forall_ne_some, not_exists]

/-- What the fault of a read says of its position. -/
lemma fault_of_read {e : ArgError} (h : (s.read a index field : Read (s.Value α)) = .error e) :
    (a.get? e.index = none ∧ ∃ name, e = .missing e.index name (a.size - 1)) ∨
      ∃ name token, a.get? e.index = some token ∧ ¬ s.Admits α token ∧
        e = .invalid e.index name token s.expected := by
  obtain ⟨-, name, i, -, -, -, ⟨hnone, rfl⟩ | ⟨token, htoken, hno, rfl⟩⟩ := read_eq_error_iff.mp h
  · exact .inl ⟨hnone, name, rfl⟩
  · exact .inr ⟨name, token, htoken, hno, rfl⟩

/-- The fault of a read is at the least of its positions that do not fit. -/
lemma isLeast_index {e : ArgError} (h : (s.read a index field : Read (s.Value α)) = .error e) :
    IsLeast {i | (index ≤ i ∧ i < index + s.width) ∧ ¬ s.FitsAt α a i} e.index := by
  have hunfit : ¬ s.FitsAt α a e.index := by
    rintro ⟨token, htoken, hadmits⟩
    rcases fault_of_read h with ⟨hnone, -⟩ | ⟨-, token', htoken', hno, -⟩
    · cases hnone.symm.trans htoken
    · obtain rfl : token' = token := Option.some.inj (htoken'.symm.trans htoken)
      exact hno hadmits
  obtain ⟨before, name, i, after, hspots, hbefore, he⟩ := read_eq_error_iff.mp h
  obtain rfl : e.index = i := by
    rcases he with ⟨-, rfl⟩ | ⟨-, -, -, rfl⟩ <;> rfl
  -- The positions rise, so those behind this one are greater, and those before it fit.
  have hpositions : before.map Prod.snd ++ e.index :: after.map Prod.snd =
      List.range' index s.width := by
    rw [← map_snd_spots s index field, hspots, List.map_append, List.map_cons]
  have hrise : (before.map Prod.snd ++ e.index :: after.map Prod.snd).Pairwise (· < ·) := by
    rw [hpositions]
    exact List.pairwise_lt_range' 1
  refine ⟨⟨?_, hunfit⟩, fun j hj => ?_⟩
  · rw [← List.mem_range'_1, ← hpositions]
    exact List.mem_append_right _ List.mem_cons_self
  · have hmem : j ∈ before.map Prod.snd ++ e.index :: after.map Prod.snd := by
      rw [hpositions, List.mem_range'_1]
      exact hj.1
    rcases List.mem_append.mp hmem with hmem | hmem
    · exact absurd (List.forall_mem_map.mpr hbefore j hmem) hj.2
    · rcases List.mem_cons.mp hmem with rfl | hmem
      · exact le_rfl
      · exact (List.rel_of_pairwise_cons (List.pairwise_append.mp hrise).2.1 hmem).le

end

end Shape

/-- A read succeeds where each of its positions holds a token that is what the shape asks for.
Otherwise its fault names the least position where this is not so: a token that is missing if the
list ends before it, and the very token that stands there if not. -/
theorem read_names_first_fault (α : Type) [Scalar α] (s : Shape) (a : Args) (index : Nat)
    (field : String) :
    ((∃ v, (s.read a index field : Read (s.Value α)) = .ok v) ↔
      ∀ i, index ≤ i → i < index + s.width → s.FitsAt α a i) ∧
    ∀ e, (s.read a index field : Read (s.Value α)) = .error e →
      IsLeast {i | (index ≤ i ∧ i < index + s.width) ∧ ¬ s.FitsAt α a i} e.index ∧
      ((∃ name last, e = .missing e.index name last) ↔ a.size ≤ e.index) ∧
      ∀ i name value expected, e = .invalid i name value expected →
        a.get? e.index = some value := by
  refine ⟨?_, fun e he => ⟨Shape.isLeast_index he, ?_⟩⟩
  · simp only [Shape.exists_read_iff, List.mem_range'_1, and_imp]
  · have hpast : a.get? e.index = none ↔ a.size ≤ e.index := List.getElem?_eq_none_iff
    rcases Shape.fault_of_read he with ⟨hnone, name, hmissing⟩ | ⟨name, token, htoken, -, hinvalid⟩
    · refine ⟨iff_of_true ⟨name, _, hmissing⟩ (hpast.mp hnone), ?_⟩
      intro i name' value expected heq
      rw [heq] at hmissing
      cases hmissing
    · constructor
      · refine iff_of_false ?_ ?_
        · rintro ⟨name', last, heq⟩
          rw [heq] at hinvalid
          cases hinvalid
        · rw [← hpast, htoken]
          exact Option.some_ne_none token
      · intro i name' value expected heq
        subst heq
        cases hinvalid
        exact htoken

/-- Of a corner that is no number and a height that is missing the corner is named. -/
theorem malformed_corner_comes_before_missing_height :
    let a : Args := ⟨["effect", "1", "x", "3"]⟩
    let e : ArgError := .invalid 2 "area Y" "x" .integer
    (Shape.rect.read a 1 "area" : Read (Shape.rect.Value Float32)) = .error e ∧
      IsLeast {i | (1 ≤ i ∧ i < 5) ∧ ¬ Shape.rect.FitsAt Float32 a i} 2 ∧
      ((∃ name last, e = .missing 2 name last) ↔ a.size ≤ 2) ∧
      ∀ i name value expected, e = .invalid i name value expected → a.get? 2 = some value := by
  intro a e
  have he : (Shape.rect.read a 1 "area" : Read (Shape.rect.Value Float32)) = .error e := by rfl
  exact ⟨he, (read_names_first_fault Float32 .rect a 1 "area").2 e he⟩

end Args

end Cutscene
