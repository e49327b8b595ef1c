import Cutscene.Proofs.Script.Cut
import Cutscene.Proofs.Script.Spelling
import Mathlib.Data.List.DropRight

/-!
# The Grammar of Commands

Like a script, a command is described by parsing expressions: a token is made of closed quoted runs
and words, and spaces and tabs stand between tokens. The grammar reads a command exactly if the
command has tokens, and what it keeps are their spellings (`reads_command`).
-/

namespace Cutscene.Script

open Peg

/-! ### The grammar -/

def gapChar : Peg := .choice (.char ' ') (.char '\t')

def gap : Peg := plus gapChar

def wordChar : Peg := .seq (.not (.choice gapChar (.char '"'))) .any

def word : Peg := plus wordChar

/-- What tokens are made of. -/
def tokenPart : Peg := .choice closedRun word

def token : Peg := .kept (plus tokenPart)

/-- The tokens behind the first one. -/
def moreTokens : Peg := .star (.seq gap token)

/-- What may stand behind the tokens. -/
def lastGap : Peg := .seq (opt gap) atEnd

/-- A command, from its first character to its last. -/
def command : Peg := .seq (opt gap) (.seq (opt (.seq token moreTokens)) lastGap)

/-! ### Gaps and words -/

lemma readsOne_gap : ReadsOne gapChar isGap := (ReadsOne.char ' ').choice (.char '\t')

/-- Neither a gap nor a quote. -/
def isWordChar (c : Char) : Bool := !(isGap c || c == '"')

lemma isWordChar_iff {c : Char} : isWordChar c ↔ ¬ isGap c ∧ c ≠ '"' := by simp [isWordChar]

lemma readsOne_word : ReadsOne wordChar isWordChar := (readsOne_gap.choice (.char '"')).outside

/-- Every text is put together from gaps, words, closed runs and quotes that nothing closes; what a
word stands before begins with no character of a word. -/
theorem wordInduction {P : List Char → Prop} (nil : P [])
    (gap : ∀ c cs, isGap c → P cs → P (c :: cs))
    (word : ∀ c cs, isWordChar c → P (cs.dropWhile isWordChar) → P (c :: cs))
    (run : ∀ inner cs, Protected inner → P cs → P ('"' :: (inner ++ '"' :: cs)))
    (unclosed : ∀ cs, ¬ closes cs → P ('"' :: cs)) (cs : List Char) : P cs := by
  induction cs using blockInduction isWordChar (by decide) with
  | nil => exact nil
  | block c cs hword ih => exact word c cs hword ih
  | other c cs hword hquote ih =>
    have hgap : isGap c := by
      by_contra hgap
      exact hword (isWordChar_iff.mpr ⟨hgap, hquote⟩)
    exact gap c cs hgap ih
  | run inner cs hinner ih => exact run inner cs hinner ih
  | stray inner cs hrun hopen ih => exact unclosed _ hopen

/-! ### Where tokens end -/

/-- Where no token goes on: at the end, at a gap, and at a quote that nothing closes. -/
inductive TokenEnd : List Char → Prop
  | ends : TokenEnd []
  | atGap {c : Char} (cs : List Char) : isGap c → TokenEnd (c :: cs)
  | unclosed {cs : List Char} : ¬ closes cs → TokenEnd ('"' :: cs)

lemma TokenEnd.tokenPart_fails {cs : List Char} (h : TokenEnd cs) : Reads tokenPart cs none := by
  cases h with
  | ends => exact .second (.seq_fails reads_char_nil) readsOne_word.plus_ends
  | @atGap c cs hgap =>
    have hquote : c ≠ '"' := by
      rintro rfl
      exact absurd hgap (by decide)
    have hword : ¬ isWordChar c := by simp [isWordChar, hgap]
    exact .second (.seq_fails (reads_char_of_ne hquote)) (readsOne_word.plus_fails hword cs)
  | unclosed hopen =>
    exact .second (closedRun_fails hopen) (readsOne_word.plus_fails (by decide) _)

lemma leads_wordChars {cs : List Char} (h : ∀ c ∈ cs, isWordChar c) :
    Spot.Leads .word cs .word := by
  have htakes : Spot.word.Takes cs := fun c hc => isWordChar_iff.mp (h c hc)
  exact htakes.leads

/-- A closed run belongs to the token that it stands in. -/
lemma leads_run {inner : List Char} (h : Protected inner) :
    Spot.Leads .word ('"' :: (inner ++ ['"'])) .word := by
  suffices hinside : Spot.Leads .quoted (inner ++ ['"']) .word from
    .cons (t := .quoted) rfl (by simp) hinside
  induction h with
  | nil => exact .cons (t := .word) rfl (by simp) (.nil .word)
  | pair c _ ih =>
    have hprotected : Spot.next .escaped c = .quoted := rfl
    exact .cons (t := .escaped) rfl (by simp) (.cons hprotected (by simp) ih)
  | char hquote hback _ ih =>
    exact .cons (t := .quoted) (by simp [Spot.next, hquote, hback]) (by simp) ih

/-- At the first character of a token it is the same to begin it as to continue one. -/
lemma spelledFrom?_begin {c : Char} (h : ¬ isGap c) (cs : List Char) :
    spelledFrom? .gap (c :: cs) = spelledFrom? .word (c :: cs) := by
  rw [spelledFrom?, spelledFrom?, if_neg h, if_neg h]
  rfl

/-- Behind a quote that nothing closes there are no tokens. -/
lemma spelledFrom?_unclosed {cs : List Char} (h : ¬ closes cs) :
    spelledFrom? .word ('"' :: cs) = none := by
  suffices hinside : spelledFrom? .quoted cs = none by
    rw [spelledFrom?_grow (by decide)]
    simp [Spot.next, isGap, hinside]
  fun_induction closes cs with
  | case1 => rfl
  | case2 c rest ih =>
    have hnext : Spot.next .quoted '\\' = .escaped := rfl
    rw [spelledFrom?_grow (by simp [hnext]), hnext, spelledFrom?_grow (by simp [Spot.next]),
      Spot.next, ih h]
    rfl
  | case3 rest => simp at h
  | case4 c rest hpair hquote ih =>
    have hquote : c ≠ '"' := fun h => hquote h
    by_cases hback : c = '\\'
    · cases rest with
      | nil => subst hback; rfl
      | cons d rest => exact absurd rfl (hpair d rest hback)
    · have hnext : Spot.next .quoted c = .quoted := by simp [Spot.next, hquote, hback]
      rw [spelledFrom?_grow (by simp [hnext]), hnext, ih h, Option.map_none]

/-- The parts of a token are read up to its end, and all of them belong to it. -/
lemma reads_tokenParts (cs : List Char) : ∃ p rest, cs = p ++ rest ∧
    Reads (.star tokenPart) cs (some ([], rest)) ∧ Spot.Leads .word p .word ∧ TokenEnd rest := by
  induction cs using wordInduction with
  | nil => exact ⟨[], [], rfl, .ends TokenEnd.ends.tokenPart_fails, .nil _, .ends⟩
  | gap c cs hgap _ =>
    have hend : TokenEnd (c :: cs) := .atGap cs hgap
    exact ⟨[], c :: cs, rfl, .ends hend.tokenPart_fails, .nil _, hend⟩
  | word c cs hword ih =>
    obtain ⟨p, rest, hsplit, hread, hleads, hend⟩ := ih
    have hquote : c ≠ '"' := (isWordChar_iff.mp hword).2
    have hpart : Reads tokenPart (c :: cs) (some ([], cs.dropWhile isWordChar)) :=
      .second (.seq_fails (reads_char_of_ne hquote)) (readsOne_word.plus hword cs)
    have hrun : ∀ d ∈ c :: cs.takeWhile isWordChar, isWordChar d := fun d hd => by
      rcases List.mem_cons.mp hd with rfl | hd
      · exact hword
      · exact List.mem_takeWhile_imp hd
    refine ⟨c :: cs.takeWhile isWordChar ++ p, rest, ?_, .more hpart hread,
      (leads_wordChars hrun).append hleads, hend⟩
    rw [List.append_assoc, ← hsplit, List.cons_append, List.takeWhile_append_dropWhile]
  | run inner cs hinner ih =>
    obtain ⟨p, rest, rfl, hread, hleads, hend⟩ := ih
    exact ⟨'"' :: (inner ++ ['"']) ++ p, rest, by simp,
      .more (.first (reads_closedRun hinner _)) hread, (leads_run hinner).append hleads, hend⟩
  | unclosed cs hopen =>
    have hend : TokenEnd ('"' :: cs) := .unclosed hopen
    exact ⟨[], '"' :: cs, rfl, .ends hend.tokenPart_fails, .nil _, hend⟩

/-- At the end of a token nothing of it is left. -/
lemma TokenEnd.spelled {cs : List Char} (h : TokenEnd cs) (p : List Char) :
    (spelledFrom? .word cs).map (growAll p) = (spelledFrom? .gap cs).map (p :: ·) := by
  cases h with
  | ends => simp [spelledFrom?, growAll_piece]
  | atGap cs hgap =>
    simp only [spelledFrom?, if_pos hgap, Option.map_map]
    refine congrArg (Option.map · _) (funext fun ps => ?_)
    simp [growAll_piece]
  | unclosed hopen =>
    rw [spelledFrom?_begin (by decide), spelledFrom?_unclosed hopen]
    rfl

/-- Where no token has ended one begins, and it is read up to its end. -/
lemma reads_token (cs : List Char) : TokenEnd cs ∨ ∃ p rest, rest.length < cs.length ∧
    TokenEnd rest ∧ Reads token cs (some ([p], rest)) ∧
    spelledFrom? .gap cs = (spelledFrom? .gap rest).map (p :: ·) := by
  obtain ⟨p, rest, hsplit, hread, hleads, hend⟩ := reads_tokenParts cs
  by_cases hcs : TokenEnd cs
  · exact .inl hcs
  obtain ⟨c, p, rfl⟩ : ∃ c p', p = c :: p' := by
    refine List.exists_cons_of_ne_nil ?_
    rintro rfl
    exact hcs (hsplit ▸ hend)
  subst hsplit
  have hgap : ¬ isGap c := fun hgap => hcs (.atGap _ hgap)
  have hlen : rest.length < (c :: p ++ rest).length := by
    simp only [List.length_append, List.length_cons]
    omega
  refine .inr ⟨c :: p, rest, hlen, hend, .kept (hread.plus_of_star fun heq => ?_), ?_⟩
  · exact absurd (congrArg List.length heq) (by omega)
  · rw [← hend.spelled, ← hleads.spelled, List.cons_append, spelledFrom?_begin hgap]

/-! ### The tokens of a command -/

lemma spelledFrom?_dropGaps (cs : List Char) :
    spelledFrom? .gap cs = spelledFrom? .gap (cs.dropWhile isGap) := by
  induction cs with
  | nil => rfl
  | cons c cs ih =>
    by_cases hgap : isGap c
    · rw [List.dropWhile_cons_of_pos hgap, spelledFrom?, if_pos hgap, ih]
    · rw [List.dropWhile_cons_of_neg hgap]

lemma TokenEnd.token_fails {cs : List Char} (h : TokenEnd cs) : Reads token cs none :=
  .kept_fails (.seq_fails h.tokenPart_fails)

/-- Where no token is left the command ends, unless it goes on with a quote that nothing closes. -/
lemma TokenEnd.reads_lastGap {cs : List Char} (h : TokenEnd (cs.dropWhile isGap)) :
    Reads lastGap cs ((spelledFrom? .gap cs).map (·, [])) := by
  have hskip := readsOne_gap.opt_plus cs
  have hhead := List.head?_dropWhile_not isGap cs
  rw [spelledFrom?_dropGaps]
  generalize cs.dropWhile isGap = rest at h hskip hhead
  cases h with
  | ends => exact .seq hskip reads_atEnd
  | atGap back hgap => simp [hgap] at hhead
  | unclosed hopen =>
    rw [spelledFrom?_begin (by decide), spelledFrom?_unclosed hopen]
    exact .seq_fails_then hskip atEnd_fails

lemma TokenEnd.moreTokens_fails {cs : List Char} (h : TokenEnd (cs.dropWhile isGap)) :
    Reads (.seq gap token) cs none := by
  cases cs with
  | nil => exact .seq_fails readsOne_gap.plus_ends
  | cons c cs =>
    by_cases hgap : isGap c
    · rw [List.dropWhile_cons_of_pos hgap] at h
      exact .seq_fails_then (readsOne_gap.plus hgap cs) h.token_fails
    · exact .seq_fails (readsOne_gap.plus_fails hgap cs)

/-- Behind a token the grammar reads the other tokens of the command. -/
lemma reads_moreTokens (cs : List Char) (h : TokenEnd cs) :
    Reads (.seq moreTokens lastGap) cs ((spelledFrom? .gap cs).map (·, [])) := by
  induction hn : cs.length using Nat.strongRecOn generalizing cs with
  | ind n ih =>
    by_cases hrest : TokenEnd (cs.dropWhile isGap)
    · exact (Reads.ends hrest.moreTokens_fails).skip hrest.reads_lastGap
    obtain ⟨p, rest, hlen, hend, hread, hspelled⟩ := (reads_token _).resolve_left hrest
    have hgap : Reads gap cs (some ([], cs.dropWhile isGap)) := by
      cases h with
      | ends => exact absurd .ends hrest
      | atGap cs hgap =>
        rw [List.dropWhile_cons_of_pos hgap]
        exact readsOne_gap.plus hgap cs
      | unclosed hopen => exact absurd (.unclosed hopen) hrest
    have hskip : (cs.dropWhile isGap).length ≤ cs.length := List.length_dropWhile_le _ _
    have hmore := (Reads.seq hgap hread).more_seq (ih rest.length (by omega) rest hend rfl)
    rw [Option.map_map] at hmore
    rwa [spelledFrom?_dropGaps, hspelled, Option.map_map]

/-- The grammar of commands reads a text if it has tokens, and keeps their spellings. -/
theorem reads_command (cs : List Char) :
    Reads command cs ((spelledFrom? .gap cs).map (·, [])) := by
  have hskip := readsOne_gap.opt_plus cs
  rw [spelledFrom?_dropGaps]
  rcases reads_token (cs.dropWhile isGap) with hend | ⟨p, rest, -, hend, hread, hspelled⟩
  · have hopt : Reads (opt (.seq token moreTokens)) (cs.dropWhile isGap)
        (some ([], cs.dropWhile isGap)) :=
      reads_opt_of_fails (.seq_fails hend.token_fails)
    have hlast := TokenEnd.reads_lastGap (List.dropWhile_idempotent isGap cs ▸ hend)
    exact hskip.skip (hopt.skip hlast)
  · have hmore := hread.opt_seq (reads_moreTokens rest hend)
    rw [Option.map_map] at hmore
    rw [hspelled, Option.map_map]
    exact hskip.skip hmore

end Cutscene.Script
