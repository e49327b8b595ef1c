import Mathlib.Data.List.Basic

/-!
# Parsing Expressions

A parsing expression reads a text from its front and either fails or leaves a rest. Choice is
ordered: the second alternative counts only where the first fails. Repetition takes all it can get
and is never taken back, and a negation looks ahead without reading. What a rule reads can be kept,
so that a reading has a result.
-/

namespace Cutscene

/-- A parsing expression over characters. -/
inductive Peg where
  | any
  | char (c : Char)
  | seq (e f : Peg)
  | choice (e f : Peg)
  | star (e : Peg)
  | not (e : Peg)
  /-- The text that an expression reads is kept, in place of what it keeps itself. -/
  | kept (e : Peg)

namespace Peg

/-- Once or more. -/
def plus (e : Peg) : Peg := .seq e (.star e)

/-- The end of the text. -/
def atEnd : Peg := .not .any

/-- Reads nothing and never fails. -/
def nothing : Peg := .not (.seq atEnd .any)

/-- Once or not at all. -/
def opt (e : Peg) : Peg := .choice e nothing

/-- What an expression makes of a text: nothing if it fails, else the texts that are kept and the
rest. -/
inductive Reads : Peg → List Char → Option (List (List Char) × List Char) → Prop
  | any (c : Char) (rest : List Char) : Reads .any (c :: rest) (some ([], rest))
  | any_fails : Reads .any [] none
  | char (c : Char) (rest : List Char) : Reads (.char c) (c :: rest) (some ([], rest))
  | char_fails {c : Char} {cs : List Char} : cs.head? ≠ some c → Reads (.char c) cs none
  | seq {e f : Peg} {cs mid rest : List Char} {p q : List (List Char)} :
    Reads e cs (some (p, mid)) → Reads f mid (some (q, rest)) →
      Reads (.seq e f) cs (some (p ++ q, rest))
  | seq_fails {e f : Peg} {cs : List Char} : Reads e cs none → Reads (.seq e f) cs none
  | seq_fails_then {e f : Peg} {cs mid : List Char} {p : List (List Char)} :
    Reads e cs (some (p, mid)) → Reads f mid none → Reads (.seq e f) cs none
  | first {e f : Peg} {cs : List Char} {r : List (List Char) × List Char} :
    Reads e cs (some r) → Reads (.choice e f) cs (some r)
  | second {e f : Peg} {cs : List Char} {r : Option (List (List Char) × List Char)} :
    Reads e cs none → Reads f cs r → Reads (.choice e f) cs r
  | more {e : Peg} {cs mid rest : List Char} {p q : List (List Char)} :
    Reads e cs (some (p, mid)) → Reads (.star e) mid (some (q, rest)) →
      Reads (.star e) cs (some (p ++ q, rest))
  | ends {e : Peg} {cs : List Char} : Reads e cs none → Reads (.star e) cs (some ([], cs))
  | not {e : Peg} {cs : List Char} : Reads e cs none → Reads (.not e) cs (some ([], cs))
  | not_fails {e : Peg} {cs : List Char} {r : List (List Char) × List Char} :
    Reads e cs (some r) → Reads (.not e) cs none
  | kept {e : Peg} {whole rest : List Char} {p : List (List Char)} :
    Reads e (whole ++ rest) (some (p, rest)) →
      Reads (.kept e) (whole ++ rest) (some ([whole], rest))
  | kept_fails {e : Peg} {cs : List Char} : Reads e cs none → Reads (.kept e) cs none

/-- An expression makes one thing of a text at most. -/
theorem Reads.unique {e : Peg} {cs : List Char} {r r' : Option (List (List Char) × List Char)}
    (h : Reads e cs r) (h' : Reads e cs r') : r = r' := by
  induction h generalizing r' with
  | any c rest => cases h'; rfl
  | any_fails => cases h'; rfl
  | char c rest =>
    cases h' with
    | char => rfl
    | char_fails hne => exact absurd rfl hne
  | char_fails hne =>
    cases h' with
    | char => exact absurd rfl hne
    | char_fails => rfl
  | seq _ _ ihe ihf =>
    cases h' with
    | seq he hf =>
      obtain ⟨rfl, rfl⟩ := Prod.mk.inj (Option.some.inj (ihe he))
      obtain ⟨rfl, rfl⟩ := Prod.mk.inj (Option.some.inj (ihf hf))
      rfl
    | seq_fails he => exact absurd (ihe he) (by simp)
    | seq_fails_then he hf =>
      obtain ⟨rfl, rfl⟩ := Prod.mk.inj (Option.some.inj (ihe he))
      exact absurd (ihf hf) (by simp)
  | seq_fails _ ihe =>
    cases h' with
    | seq he _ => exact absurd (ihe he) (by simp)
    | seq_fails => rfl
    | seq_fails_then he _ => rfl
  | seq_fails_then _ _ ihe ihf =>
    cases h' with
    | seq he hf =>
      obtain ⟨rfl, rfl⟩ := Prod.mk.inj (Option.some.inj (ihe he))
      exact absurd (ihf hf) (by simp)
    | seq_fails => rfl
    | seq_fails_then => rfl
  | first _ ihe =>
    cases h' with
    | first he => exact ihe he
    | second he _ => exact absurd (ihe he) (by simp)
  | second _ _ ihe ihf =>
    cases h' with
    | first he => exact absurd (ihe he) (by simp)
    | second _ hf => exact ihf hf
  | more _ _ ihe ihs =>
    cases h' with
    | more he hs =>
      obtain ⟨rfl, rfl⟩ := Prod.mk.inj (Option.some.inj (ihe he))
      obtain ⟨rfl, rfl⟩ := Prod.mk.inj (Option.some.inj (ihs hs))
      rfl
    | ends he => exact absurd (ihe he) (by simp)
  | ends _ ihe =>
    cases h' with
    | more he _ => exact absurd (ihe he) (by simp)
    | ends => rfl
  | not _ ihe =>
    cases h' with
    | not => rfl
    | not_fails he => exact absurd (ihe he) (by simp)
  | not_fails _ ihe =>
    cases h' with
    | not he => exact absurd (ihe he) (by simp)
    | not_fails => rfl
  | @kept e whole rest p _ ihe =>
    generalize hcs : whole ++ rest = cs at h' ihe
    cases h' with
    | kept he =>
      obtain ⟨-, rfl⟩ := Prod.mk.inj (Option.some.inj (ihe he))
      rw [List.append_cancel_right hcs]
    | kept_fails he => exact absurd (ihe he) (by simp)
  | kept_fails _ ihe =>
    cases h' with
    | kept he => exact absurd (ihe he) (by simp)
    | kept_fails => rfl

/-! ### Small expressions -/

variable {c d : Char} {cs rest : List Char}

lemma reads_char_of_ne (h : d ≠ c) : Reads (.char c) (d :: cs) none :=
  .char_fails (by simpa using h)

lemma reads_char_nil : Reads (.char c) [] none := .char_fails (by simp)

lemma reads_atEnd : Reads atEnd [] (some ([], [])) := .not .any_fails

lemma atEnd_fails : Reads atEnd (c :: cs) none := .not_fails (.any c cs)

lemma reads_nothing (cs : List Char) : Reads nothing cs (some ([], cs)) := by
  refine .not ?_
  cases cs with
  | nil => exact .seq_fails_then reads_atEnd .any_fails
  | cons c cs => exact .seq_fails atEnd_fails

lemma reads_opt_of_fails {e : Peg} (h : Reads e cs none) : Reads (opt e) cs (some ([], cs)) :=
  .second h (reads_nothing cs)

/-- Any character but those that an expression stands for. -/
lemma reads_unless {e : Peg} (h : Reads e (c :: cs) none) :
    Reads (.seq (.not e) .any) (c :: cs) (some ([], cs)) :=
  .seq (.not h) (.any c cs)

lemma reads_unless_nil {e : Peg} : Reads e [] none → Reads (.seq (.not e) .any) [] none :=
  fun h => .seq_fails_then (.not h) .any_fails

lemma reads_unless_fails {e : Peg} {r : List (List Char) × List Char}
    (h : Reads e cs (some r)) : Reads (.seq (.not e) .any) cs none :=
  .seq_fails (.not_fails h)

/-! ### Classes of characters -/

/-- The expression reads one character of a class, and fails where none stands. -/
structure ReadsOne (e : Peg) (p : Char → Bool) : Prop where
  reads : ∀ {c : Char} (cs : List Char), p c → Reads e (c :: cs) (some ([], cs))
  fails : ∀ {c : Char} (cs : List Char), ¬ p c → Reads e (c :: cs) none
  ends : Reads e [] none

namespace ReadsOne

variable {e f : Peg} {p q : Char → Bool}

lemma char (c : Char) : ReadsOne (.char c) (· == c) where
  reads cs h := by
    rw [beq_iff_eq] at h
    exact h ▸ .char _ cs
  fails cs h := reads_char_of_ne (by simpa using h)
  ends := reads_char_nil

lemma choice (he : ReadsOne e p) (hf : ReadsOne f q) :
    ReadsOne (.choice e f) fun c => p c || q c where
  reads {c} cs h := by
    by_cases hp : p c
    · exact .first (he.reads cs hp)
    · have hq : q c := by simpa [hp] using h
      exact .second (he.fails cs hp) (hf.reads cs hq)
  fails cs h := by
    rw [Bool.or_eq_true, not_or] at h
    exact .second (he.fails cs h.1) (hf.fails cs h.2)
  ends := .second he.ends hf.ends

lemma outside (he : ReadsOne e p) : ReadsOne (.seq (.not e) .any) fun c => !p c where
  reads cs h := reads_unless (he.fails cs (by simpa using h))
  fails cs h := reads_unless_fails (he.reads cs (by simpa using h))
  ends := reads_unless_nil he.ends

/-- A repetition takes all characters of the class that stand there. -/
lemma star (he : ReadsOne e p) (cs : List Char) :
    Reads (.star e) cs (some ([], cs.dropWhile p)) := by
  induction cs with
  | nil => exact .ends he.ends
  | cons c cs ih =>
    by_cases hc : p c
    · rw [List.dropWhile_cons_of_pos hc]
      exact .more (he.reads cs hc) ih
    · rw [List.dropWhile_cons_of_neg hc]
      exact .ends (he.fails cs hc)

lemma plus (he : ReadsOne e p) {c : Char} (hc : p c) (cs : List Char) :
    Reads (Peg.plus e) (c :: cs) (some ([], cs.dropWhile p)) :=
  .seq (he.reads cs hc) (he.star cs)

lemma plus_fails (he : ReadsOne e p) {c : Char} (hc : ¬ p c) (cs : List Char) :
    Reads (Peg.plus e) (c :: cs) none :=
  .seq_fails (he.fails cs hc)

lemma plus_ends (he : ReadsOne e p) : Reads (Peg.plus e) [] none := .seq_fails he.ends

/-- What stands there of the class is skipped. -/
lemma opt_plus (he : ReadsOne e p) (cs : List Char) :
    Reads (opt (Peg.plus e)) cs (some ([], cs.dropWhile p)) := by
  cases cs with
  | nil => exact reads_opt_of_fails he.plus_ends
  | cons c cs =>
    by_cases hc : p c
    · rw [List.dropWhile_cons_of_pos hc]
      exact .first (he.plus hc cs)
    · rw [List.dropWhile_cons_of_neg hc]
      exact reads_opt_of_fails (he.plus_fails hc cs)

end ReadsOne

/-! ### Sequences of many -/

variable {e f g : Peg} {mid : List Char} {p : List (List Char)}
  {r : Option (List (List Char) × List Char)}

/-- A sequence makes of a text what its second part makes of the rest. -/
lemma Reads.then (h : Reads e cs (some (p, mid))) (hrest : Reads f mid r) :
    Reads (.seq e f) cs (r.map (Prod.map (p ++ ·) id)) := by
  cases r with
  | none => exact .seq_fails_then h hrest
  | some r => exact .seq h hrest

lemma Reads.skip (h : Reads e cs (some ([], mid))) (hrest : Reads f mid r) :
    Reads (.seq e f) cs r := by
  cases r with
  | none => exact .seq_fails_then h hrest
  | some r => exact .seq h hrest

/-- A repetition that gets on reads its expression at least once. -/
lemma Reads.plus_of_star {rest : List Char} (h : Reads (.star e) cs (some (p, rest)))
    (hne : rest ≠ cs) : Reads (plus e) cs (some (p, rest)) := by
  generalize hr : some (p, rest) = r at h
  cases h with
  | more he hstar =>
    obtain ⟨rfl, rfl⟩ := Prod.mk.inj (Option.some.inj hr)
    exact .seq he hstar
  | ends => exact absurd (Prod.mk.inj (Option.some.inj hr)).2 hne

/-- A repetition never fails. -/
lemma Reads.of_star_seq (h : Reads (.seq (.star e) f) cs r) :
    ∃ p mid s, Reads (.star e) cs (some (p, mid)) ∧ Reads f mid s ∧
      r = s.map (Prod.map (p ++ ·) id) := by
  cases h with
  | seq hstar hf => exact ⟨_, _, _, hstar, hf, rfl⟩
  | seq_fails hstar => cases hstar
  | seq_fails_then hstar hf => exact ⟨_, _, _, hstar, hf, rfl⟩

lemma map_prod_append (p q : List (List Char)) :
    (r.map (Prod.map (q ++ ·) id)).map (Prod.map (p ++ ·) id) =
      r.map (Prod.map (p ++ q ++ ·) id) := by
  rw [Option.map_map]
  refine congrArg (Option.map · r) (funext fun s => ?_)
  simp only [Function.comp_apply, Prod.map, List.append_assoc, id]

/-- What a repetition reads once is read in front of what it reads from there. -/
lemma Reads.more_seq (h : Reads e cs (some (p, mid))) (hrest : Reads (.seq (.star e) f) mid r) :
    Reads (.seq (.star e) f) cs (r.map (Prod.map (p ++ ·) id)) := by
  obtain ⟨q, back, s, hstar, hf, rfl⟩ := hrest.of_star_seq
  rw [map_prod_append]
  exact (Reads.more h hstar).then hf

/-- An optional list is read if its first item is. -/
lemma Reads.opt_seq (h : Reads e cs (some (p, mid))) (hrest : Reads (.seq (.star f) g) mid r) :
    Reads (.seq (opt (.seq e (.star f))) g) cs (r.map (Prod.map (p ++ ·) id)) := by
  obtain ⟨q, back, s, hstar, hg, rfl⟩ := hrest.of_star_seq
  rw [map_prod_append]
  exact (Reads.first (.seq h hstar)).then hg

end Peg

end Cutscene
