import Cutscene.Script.Segment
import Mathlib.Data.List.Basic

/-!
# Quoted Runs of a Script

What a closed quoted run is, and where a quote stands that nothing closes, is said here of the text
alone. Every text is made of slashes, plain characters, closed runs and stray quotes with what
follows them up to a slash (`quoteInduction`), and cutting it into segments has one equation for
each of these.
-/

namespace Cutscene.Script

open Text (grow)

/-- The inside of a quoted run: a backslash protects the character behind it, and no quote stands
unprotected. -/
inductive Protected : List Char → Prop
  | nil : Protected []
  | pair (c : Char) {inner : List Char} : Protected inner → Protected ('\\' :: c :: inner)
  | char {c : Char} {inner : List Char} :
    c ≠ '"' → c ≠ '\\' → Protected inner → Protected (c :: inner)

/-- A text whose quotes all belong to closed runs. Outside of these a backslash is a character like
any other. -/
inductive Balanced : List Char → Prop
  | nil : Balanced []
  | char {c : Char} {cs : List Char} : c ≠ '"' → Balanced cs → Balanced (c :: cs)
  | run {inner cs : List Char} :
    Protected inner → Balanced cs → Balanced ('"' :: (inner ++ '"' :: cs))

/-- The place between the two parts of a text lies inside a closed quoted run. -/
def InQuotes (before behind : List Char) : Prop :=
  ∃ front inner inner' back, before = front ++ '"' :: inner ∧ behind = inner' ++ '"' :: back ∧
    Balanced front ∧ Protected (inner ++ inner')

/-- A quote stands before the place that nothing behind it closes. -/
def BehindStray (before behind : List Char) : Prop :=
  ∃ front inner, before = front ++ '"' :: inner ∧ Balanced front ∧
    ∀ inner' back, Protected inner' → inner ++ behind ≠ inner' ++ '"' :: back

/-- What follows a quote that nothing closes, up to the next slash that no backslash protects. -/
inductive StrayRun : List Char → List Char → Prop
  | ends : StrayRun [] []
  | slash (rest : List Char) : StrayRun [] ('/' :: rest)
  | last : StrayRun ['\\'] []
  | pair (c : Char) {inner rest : List Char} :
    StrayRun inner rest → StrayRun ('\\' :: c :: inner) rest
  | char {c : Char} {inner rest : List Char} :
    c ≠ '"' → c ≠ '/' → c ≠ '\\' → StrayRun inner rest → StrayRun (c :: inner) rest

/-! ### Closed runs -/

lemma closes_of_protected {inner : List Char} (h : Protected inner) (back : List Char) :
    closes (inner ++ '"' :: back) := by
  induction h with
  | nil => simp [closes]
  | pair c _ ih => simpa [closes] using ih
  | char hquote hback _ ih =>
    rw [List.cons_append, closes]
    · exact ih
    · exact fun _ _ h => absurd h hback
    · exact hquote

/-- A quote closes a run if the text behind it is the inside of the run, another quote, and a
rest. -/
lemma closes_iff {cs : List Char} :
    closes cs ↔ ∃ inner back, Protected inner ∧ cs = inner ++ '"' :: back := by
  constructor
  · fun_induction closes cs with
    | case1 => simp
    | case2 c rest ih =>
      intro h
      obtain ⟨inner, back, hinner, rfl⟩ := ih h
      exact ⟨'\\' :: c :: inner, back, .pair c hinner, rfl⟩
    | case3 rest => exact fun _ => ⟨[], rest, .nil, rfl⟩
    | case4 c rest hpair hquote ih =>
      intro h
      obtain ⟨inner, back, hinner, rfl⟩ := ih h
      refine ⟨c :: inner, back, .char (fun heq => hquote heq) (fun heq => ?_) hinner, rfl⟩
      -- A backslash here would have protected the next character.
      cases inner with
      | nil => exact hpair '"' back heq rfl
      | cons d inner => exact hpair d (inner ++ '"' :: back) heq rfl
  · rintro ⟨inner, back, hinner, rfl⟩
    exact closes_of_protected hinner back

lemma exists_strayRun (cs : List Char) (h : ¬ closes cs) :
    ∃ inner rest, cs = inner ++ rest ∧ StrayRun inner rest := by
  fun_induction closes cs with
  | case1 => exact ⟨[], [], rfl, .ends⟩
  | case2 c rest ih =>
    obtain ⟨inner, back, rfl, hrun⟩ := ih h
    exact ⟨'\\' :: c :: inner, back, rfl, .pair c hrun⟩
  | case3 rest => simp at h
  | case4 c rest hpair hquote ih =>
    obtain ⟨inner, back, rfl, hrun⟩ := ih h
    by_cases hslash : c = '/'
    · exact ⟨[], c :: (inner ++ back), rfl, hslash ▸ .slash _⟩
    by_cases hback : c = '\\'
    · cases hrest : inner ++ back with
      | nil => exact ⟨[c], [], rfl, hback ▸ .last⟩
      | cons d rest => exact absurd hrest (hpair d rest hback)
    exact ⟨c :: inner, back, rfl, .char hquote hslash hback hrun⟩

/-- Every text is put together from slashes, plain characters, closed runs and stray quotes. -/
theorem quoteInduction {P : List Char → Prop} (nil : P [])
    (slash : ∀ cs, P cs → P ('/' :: cs))
    (plain : ∀ c cs, c ≠ '/' → c ≠ '"' → P cs → P (c :: cs))
    (run : ∀ inner cs, Protected inner → P cs → P ('"' :: (inner ++ '"' :: cs)))
    (stray : ∀ inner cs, StrayRun inner cs → ¬ closes (inner ++ cs) → P cs →
      P ('"' :: (inner ++ cs))) :
    ∀ cs, P cs := by
  suffices h : ∀ n, ∀ cs : List Char, cs.length < n → P cs from
    fun cs => h (cs.length + 1) cs (Nat.lt_succ_self _)
  intro n
  induction n with
  | zero => exact fun cs h => absurd h (Nat.not_lt_zero _)
  | succ n ih =>
    intro cs hlen
    cases cs with
    | nil => exact nil
    | cons c cs =>
      simp only [List.length_cons] at hlen
      by_cases hslash : c = '/'
      · exact hslash ▸ slash cs (ih cs (by omega))
      by_cases hquote : c = '"'
      · subst hquote
        by_cases hcloses : closes cs
        · obtain ⟨inner, back, hinner, rfl⟩ := closes_iff.mp hcloses
          simp only [List.length_append, List.length_cons] at hlen
          exact run inner back hinner (ih back (by omega))
        · obtain ⟨inner, rest, rfl, hrun⟩ := exists_strayRun cs hcloses
          simp only [List.length_append] at hlen
          exact stray inner rest hrun hcloses (ih rest (by omega))
      · exact plain c cs hslash hquote (ih cs (by omega))

/-- The same with the characters of a class taken together: what a block of them stands before
begins with no character of the class. -/
theorem blockInduction (p : Char → Bool) (hp : ¬ p '"') {P : List Char → Prop} (nil : P [])
    (block : ∀ c cs, p c → P (cs.dropWhile p) → P (c :: cs))
    (other : ∀ c cs, ¬ p c → c ≠ '"' → P cs → P (c :: cs))
    (run : ∀ inner cs, Protected inner → P cs → P ('"' :: (inner ++ '"' :: cs)))
    (stray : ∀ inner cs, StrayRun inner cs → ¬ closes (inner ++ cs) → P cs →
      P ('"' :: (inner ++ cs))) (cs : List Char) : P cs := by
  -- The rest behind the block at the front is carried along.
  suffices h : P cs ∧ P (cs.dropWhile p) from h.1
  have hchar (c : Char) (cs : List Char) (hquote : c ≠ '"') (ih : P cs ∧ P (cs.dropWhile p)) :
      P (c :: cs) ∧ P ((c :: cs).dropWhile p) := by
    by_cases hc : p c
    · rw [List.dropWhile_cons_of_pos hc]
      exact ⟨block c cs hc ih.2, ih.2⟩
    · rw [List.dropWhile_cons_of_neg hc]
      exact ⟨other c cs hc hquote ih.1, other c cs hc hquote ih.1⟩
  induction cs using quoteInduction with
  | nil => exact ⟨nil, nil⟩
  | slash cs ih => exact hchar '/' cs (by decide) ih
  | plain c cs _ hquote ih => exact hchar c cs hquote ih
  | run inner cs hinner ih =>
    rw [List.dropWhile_cons_of_neg hp]
    exact ⟨run inner cs hinner ih.1, run inner cs hinner ih.1⟩
  | stray inner cs hrun hopen ih =>
    rw [List.dropWhile_cons_of_neg hp]
    exact ⟨stray inner cs hrun hopen ih.1, stray inner cs hrun hopen ih.1⟩

/-! ### The segments of a text -/

/-- Puts characters in front of the first piece. -/
def growAll (cs : List Char) (ps : List (List Char)) : List (List Char) := cs.foldr grow ps

@[simp] lemma growAll_nil (ps : List (List Char)) : growAll [] ps = ps := rfl

@[simp] lemma growAll_cons (c : Char) (cs : List Char) (ps : List (List Char)) :
    growAll (c :: cs) ps = grow c (growAll cs ps) := rfl

lemma growAll_piece (cs p : List Char) (ps : List (List Char)) :
    growAll cs (p :: ps) = (cs ++ p) :: ps := by
  induction cs with
  | nil => rfl
  | cons c cs ih => rw [growAll_cons, ih, grow, List.cons_append]

lemma segmentsFrom_ne_nil (r : Run) (cs : List Char) : segmentsFrom r cs ≠ [] := by
  fun_cases segmentsFrom r cs <;> simp

lemma exists_segments_eq (cs : List Char) : ∃ s ss, segments cs = s :: ss :=
  List.exists_cons_of_ne_nil (segmentsFrom_ne_nil .plain cs)

@[simp] lemma segments_nil : segments [] = [[]] := rfl

lemma segments_cons (c : Char) (cs : List Char) :
    segments (c :: cs) =
      if c = '/' then [] :: segments cs
      else if c = '"' then grow c (segmentsFrom (.opened cs) cs)
      else grow c (segments cs) := by
  rw [segments, segmentsFrom] <;> simp [segments]

@[simp] lemma segments_slash (cs : List Char) : segments ('/' :: cs) = [] :: segments cs := by
  rw [segments_cons, if_pos rfl]

lemma segments_quote (cs : List Char) :
    segments ('"' :: cs) = grow '"' (segmentsFrom (.opened cs) cs) := by
  rw [segments_cons, if_neg (by decide), if_pos rfl]

lemma segments_plain {c : Char} (hslash : c ≠ '/') (hquote : c ≠ '"') (cs : List Char) :
    segments (c :: cs) = grow c (segments cs) := by
  rw [segments_cons, if_neg hslash, if_neg hquote]

lemma segmentsFrom_protected {inner : List Char} (h : Protected inner) (cs : List Char) :
    segmentsFrom .quoted (inner ++ '"' :: cs) = growAll (inner ++ ['"']) (segments cs) := by
  induction h with
  | nil => simp [segmentsFrom, segments]
  | pair c _ ih => simp [segmentsFrom, ih]
  | char hquote hback _ ih =>
    rw [List.cons_append, segmentsFrom]
    · rw [if_neg hquote, ih]
      rfl
    · exact fun _ _ h => absurd h hback

/-- A closed run stays in one segment, slashes and all. -/
lemma segments_run {inner : List Char} (h : Protected inner) (cs : List Char) :
    segments ('"' :: (inner ++ '"' :: cs)) =
      growAll ('"' :: (inner ++ ['"'])) (segments cs) := by
  rw [segments_quote, Run.opened, if_pos (closes_of_protected h cs), segmentsFrom_protected h,
    growAll_cons]

lemma segmentsFrom_strayRun {inner cs : List Char} (h : StrayRun inner cs) :
    segmentsFrom .stray (inner ++ cs) = growAll inner (segments cs) := by
  induction h with
  | ends => rfl
  | slash rest => simp [segmentsFrom, segments]
  | last => simp [segmentsFrom]
  | pair c _ ih => simp [segmentsFrom, ih]
  | char hquote hslash hback _ ih =>
    rw [List.cons_append, segmentsFrom]
    · rw [if_neg hslash, if_neg hquote, ih]
      rfl
    all_goals simp [hback]

/-- A stray quote keeps what follows it up to a slash in its own segment. -/
lemma segments_stray {inner cs : List Char} (h : StrayRun inner cs)
    (hopen : ¬ closes (inner ++ cs)) :
    segments ('"' :: (inner ++ cs)) = growAll ('"' :: inner) (segments cs) := by
  rw [segments_quote, Run.opened, if_neg hopen, segmentsFrom_strayRun h, growAll_cons]

end Cutscene.Script
