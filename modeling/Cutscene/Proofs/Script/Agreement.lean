import Cutscene.Proofs.Script.Command

/-!
# The Two Grammars Agree

The grammar of scripts cuts a text at slashes, and the grammar of commands cuts each of the pieces
at gaps. Both go by the quoted runs of what they read, and both find the same ones: commands joined
with slashes are cut apart again where they were joined, and a piece that the second grammar rejects
is one in which the first has seen a quote that nothing closes.
-/

namespace Cutscene.Script

/-! ### Balanced texts -/

/-- A quoted run ends at one quote only. -/
lemma Protected.unique {inner inner' back back' : List Char} (h : Protected inner)
    (h' : Protected inner') (heq : inner ++ '"' :: back = inner' ++ '"' :: back') :
    inner = inner' ∧ back = back' := by
  have hread := (reads_protected h back).unique (heq ▸ reads_protected h' back')
  have hback : back = back' := by simpa using hread
  subst hback
  exact ⟨List.append_cancel_right heq, rfl⟩

lemma balanced_cons {c : Char} (hc : c ≠ '"') {cs : List Char} :
    Balanced (c :: cs) ↔ Balanced cs := by
  constructor
  · intro h
    cases h with
    | char _ hcs => exact hcs
    | run => exact absurd rfl hc
  · exact .char hc

lemma balanced_quote {cs : List Char} : Balanced ('"' :: cs) ↔
    ∃ inner back, Protected inner ∧ Balanced back ∧ cs = inner ++ '"' :: back := by
  constructor
  · intro h
    cases h with
    | char hc _ => exact absurd rfl hc
    | run hinner hback => exact ⟨_, _, hinner, hback, rfl⟩
  · rintro ⟨inner, back, hinner, hback, rfl⟩
    exact .run hinner hback

lemma balanced_run {inner cs : List Char} (h : Protected inner) :
    Balanced ('"' :: (inner ++ '"' :: cs)) ↔ Balanced cs := by
  constructor
  · intro hrun
    obtain ⟨inner', back, hinner', hback, heq⟩ := balanced_quote.mp hrun
    obtain ⟨-, rfl⟩ := h.unique hinner' heq
    exact hback
  · exact .run h

lemma Balanced.closes {cs : List Char} (h : Balanced ('"' :: cs)) : closes cs := by
  obtain ⟨inner, back, hinner, -, rfl⟩ := balanced_quote.mp h
  exact closes_of_protected hinner back

/-- A balanced text in front changes nothing about the quotes behind it. -/
lemma Balanced.append_iff {front rest : List Char} (h : Balanced front) :
    Balanced (front ++ rest) ↔ Balanced rest := by
  induction h with
  | nil => rfl
  | char hc _ ih => rw [List.cons_append, balanced_cons hc, ih]
  | run hinner _ ih =>
    rw [List.cons_append, List.append_assoc, List.cons_append, balanced_run hinner, ih]

lemma balanced_of_no_quote {cs : List Char} (h : '"' ∉ cs) : Balanced cs := by
  induction cs with
  | nil => exact .nil
  | cons c cs ih =>
    rw [List.mem_cons, not_or] at h
    exact .char (Ne.symm h.1) (ih h.2)

lemma BehindStray.not_balanced {before back : List Char} (h : BehindStray before back) :
    ¬ Balanced (before ++ back) := by
  obtain ⟨front, inner, rfl, hfront, hopen⟩ := h
  rw [List.append_assoc, hfront.append_iff]
  intro hback
  obtain ⟨inner', rest, hinner', -, heq⟩ := balanced_quote.mp hback
  exact hopen inner' rest hinner' heq

/-- A text has a quote that nothing closes, or it is balanced. -/
lemma behindStray_iff {cs : List Char} : BehindStray cs [] ↔ ¬ Balanced cs := by
  constructor
  · intro h
    simpa using h.not_balanced
  · intro h
    induction cs using quoteInduction with
    | nil => exact absurd .nil h
    | slash cs ih => exact (ih fun hcs => h (.char (by decide) hcs)).plain (by decide)
    | plain c cs _ hquote ih => exact (ih fun hcs => h (.char hquote hcs)).plain hquote
    | run inner cs hinner ih => exact (ih fun hcs => h (.run hinner hcs)).run hinner
    | stray inner cs _ hopen _ =>
      refine ⟨[], inner ++ cs, rfl, .nil, fun inner' back hinner' heq => hopen ?_⟩
      rw [List.append_nil] at heq
      exact closes_iff.mpr ⟨inner', back, hinner', heq⟩

/-- Characters at the end that are no quotes close nothing. -/
lemma balanced_append {cs back : List Char} (h : '"' ∉ back) :
    Balanced (cs ++ back) ↔ Balanced cs := by
  constructor
  · intro hcs
    by_contra hopen
    obtain ⟨front, inner, rfl, hfront, hopen⟩ := behindStray_iff.mpr hopen
    rw [List.append_assoc, List.cons_append, hfront.append_iff] at hcs
    obtain ⟨inner', rest, hinner', -, heq⟩ := balanced_quote.mp hcs
    rcases List.append_eq_append_iff.mp heq with ⟨end', -, rfl⟩ | ⟨rest', rfl, hrest⟩
    · exact h (by simp)
    · cases rest' with
      | nil =>
        rw [List.nil_append] at hrest
        exact h (hrest ▸ List.mem_cons_self)
      | cons c rest' =>
        obtain ⟨rfl, -⟩ := List.cons.inj hrest
        exact hopen inner' rest' hinner' (List.append_nil _)
  · exact fun hcs => hcs.append_iff.mpr (balanced_of_no_quote h)

lemma quote_not_mem_of_blank {cs : List Char} (h : ∀ c ∈ cs, Text.isBlank c) : '"' ∉ cs :=
  fun hmem => absurd (h '"' hmem) (by decide)

/-- Trimming a text leaves its quotes as they are. -/
lemma balanced_trimChars {cs : List Char} : Balanced (Text.trimChars cs) ↔ Balanced cs := by
  have hfront (cs : List Char) : Balanced (Text.trimFront cs) ↔ Balanced cs := by
    have hblank : '"' ∉ cs.takeWhile Text.isBlank :=
      quote_not_mem_of_blank fun c hc => List.mem_takeWhile_imp hc
    rw [← (balanced_of_no_quote hblank).append_iff, Text.trimFront, List.takeWhile_append_dropWhile]
  have hback (cs : List Char) : Balanced (Text.trimBack cs) ↔ Balanced cs := by
    have hblank : '"' ∉ (cs.reverse.takeWhile Text.isBlank).reverse :=
      quote_not_mem_of_blank fun c hc => List.mem_takeWhile_imp (List.mem_reverse.mp hc)
    rw [← balanced_append hblank, Text.trimBack, Text.trimFront, ← List.reverse_append,
      List.takeWhile_append_dropWhile, List.reverse_reverse]
  rw [Text.trimChars, hback, hfront]

/-! ### Commands with tokens -/

lemma isSome_spelledFrom? (cs : List Char) :
    ((spelledFrom? .gap cs).isSome ↔ Balanced cs) ∧
      ((spelledFrom? .word cs).isSome ↔ Balanced cs) := by
  have hchar (c : Char) (cs : List Char) (hquote : c ≠ '"')
      (ih : ((spelledFrom? .gap cs).isSome ↔ Balanced cs) ∧
        ((spelledFrom? .word cs).isSome ↔ Balanced cs)) :
      ((spelledFrom? .gap (c :: cs)).isSome ↔ Balanced (c :: cs)) ∧
        ((spelledFrom? .word (c :: cs)).isSome ↔ Balanced (c :: cs)) := by
    rw [balanced_cons hquote]
    by_cases hgap : isGap c
    · simp [spelledFrom?, hgap, ih.1]
    · simp [spelledFrom?, Spot.next, hgap, hquote, ih.2]
  induction cs using quoteInduction with
  | nil => simp [spelledFrom?, Balanced.nil]
  | slash cs ih => exact hchar '/' cs (by decide) ih
  | plain c cs _ hquote ih => exact hchar c cs hquote ih
  | run inner cs hinner ih =>
    have hshape : '"' :: (inner ++ '"' :: cs) = '"' :: (inner ++ ['"']) ++ cs := by simp
    rw [balanced_run hinner, spelledFrom?_begin (by decide), hshape, (leads_run hinner).spelled]
    simp [ih.2]
  | stray inner cs _ hopen _ =>
    rw [spelledFrom?_begin (by decide), spelledFrom?_unclosed hopen]
    simpa using fun h : Balanced _ => hopen h.closes

/-- A command has tokens if its quotes all belong to closed runs. -/
lemma isSome_tokens? {c : String} : (tokens? c).isSome ↔ Balanced c.toList := by
  rw [tokens?_eq_map_meaning, spellings?, Option.isSome_map, Option.isSome_map,
    (isSome_spelledFrom? c.toList).1]

lemma tokens?_eq_none_iff {c : String} : tokens? c = none ↔ BehindStray c.toList [] := by
  rw [behindStray_iff, ← isSome_tokens?, Option.not_isSome_iff_eq_none]

/-- The grammar of commands rejects just the commands that have no tokens. -/
lemma command_fails_iff {c : String} : command.Reads c.toList none ↔ tokens? c = none := by
  have hread := reads_command c.toList
  rw [tokens?_eq_map_meaning, spellings?, Option.map_eq_none_iff, Option.map_eq_none_iff]
  constructor
  · intro hfails
    exact Option.map_eq_none_iff.mp (hread.unique hfails)
  · intro hnone
    rwa [hnone] at hread

/-! ### Commands that are joined -/

/-- A text that a script can have as a command: it has tokens, and it keeps its ends and its
slashes. -/
structure IsCommand (c : String) : Prop where
  ne_empty : c ≠ ""
  trimmed : Text.trim c = c
  accepted : (tokens? c).isSome
  slashes : ∀ x y, c.toList = x ++ '/' :: y → InQuotes x ('/' :: y)

lemma InQuotes.of_plain {c : Char} {before back : List Char} (hc : c ≠ '"')
    (h : InQuotes (c :: before) back) : InQuotes before back := by
  obtain ⟨front, inner, inner', rest, hbefore, hback, hfront, hinner⟩ := h
  cases front with
  | nil => exact absurd (List.cons.inj hbefore).1 hc
  | cons d front =>
    rw [List.cons_append, List.cons.injEq] at hbefore
    obtain ⟨rfl, rfl⟩ := hbefore
    exact ⟨front, inner, inner', rest, rfl, hback, (balanced_cons hc).mp hfront, hinner⟩

/-- A run at the front is not the one that a place behind it lies in. -/
lemma InQuotes.of_run {run before back : List Char} (hrun : Protected run)
    (h : InQuotes ('"' :: (run ++ '"' :: before)) back) : InQuotes before back := by
  obtain ⟨front, inner, inner', rest, hbefore, hback, hfront, hinner⟩ := h
  cases front with
  | nil =>
    obtain ⟨-, rfl⟩ := List.cons.inj hbefore
    rw [List.append_assoc, List.cons_append] at hinner
    have heq : run ++ '"' :: (before ++ inner') ++ '"' :: [] =
        run ++ '"' :: (before ++ inner' ++ ['"']) := by simp
    have hlen := congrArg List.length (hinner.unique hrun heq).1
    simp only [List.length_append, List.length_cons] at hlen
    omega
  | cons d front =>
    rw [List.cons_append, List.cons.injEq] at hbefore
    obtain ⟨rfl, hbefore⟩ := hbefore
    obtain ⟨run', front, hrun', hback', rfl⟩ := balanced_quote.mp hfront
    rw [List.append_assoc, List.cons_append] at hbefore
    obtain ⟨rfl, rfl⟩ := hrun.unique hrun' hbefore
    exact ⟨front, inner, inner', rest, rfl, hback, hback', hinner⟩

/-- A balanced text with its slashes in quotes stays in one segment, whatever stands behind it. -/
lemma Balanced.segments_append {cs : List Char} (h : Balanced cs)
    (hslash : ∀ x y, cs = x ++ '/' :: y → InQuotes x ('/' :: y)) (rest : List Char) :
    segments (cs ++ rest) = growAll cs (segments rest) := by
  induction h with
  | nil => rfl
  | @char c cs hquote _ ih =>
    have hc : c ≠ '/' := by
      rintro rfl
      obtain ⟨front, inner, -, -, hnil, -⟩ := hslash [] cs rfl
      simp at hnil
    rw [List.cons_append, segments_plain hc hquote, growAll_cons, ih fun x y hxy => ?_]
    exact (hslash (c :: x) y (by rw [hxy, List.cons_append])).of_plain hquote
  | @run inner cs hinner _ ih =>
    have hshape : '"' :: (inner ++ '"' :: cs) ++ rest = '"' :: (inner ++ '"' :: (cs ++ rest)) := by
      simp
    have hgrow : growAll ('"' :: (inner ++ ['"'])) (growAll cs (segments rest)) =
        growAll ('"' :: (inner ++ '"' :: cs)) (segments rest) := by
      simp [growAll]
    rw [hshape, segments_run hinner, ih fun x y hxy => ?_, hgrow]
    exact (hslash ('"' :: (inner ++ '"' :: x)) y (by simp [hxy])).of_run hinner

lemma IsCommand.segments_append {c : String} (h : IsCommand c) (rest : List Char) :
    segments (c.toList ++ rest) = growAll c.toList (segments rest) :=
  (isSome_tokens?.mp h.accepted).segments_append h.slashes rest

/-- That a text keeps its slashes is to say that it is one segment. -/
lemma isCommand_iff {c : String} : IsCommand c ↔ c ≠ "" ∧ Text.trim c = c ∧ (tokens? c).isSome ∧
    segments c.toList = [c.toList] := by
  constructor
  · intro h
    have hone := h.segments_append []
    rw [List.append_nil, segments_nil, growAll_piece, List.append_nil] at hone
    exact ⟨h.ne_empty, h.trimmed, h.accepted, hone⟩
  · rintro ⟨hne, htrim, haccepted, hone⟩
    refine ⟨hne, htrim, haccepted, fun x y hxy => ?_⟩
    have hcut : segments c.toList = [] ++ c.toList :: [] := hone
    rcases kept_slash hcut hxy with hquotes | hstray
    · exact hquotes
    · have hbalanced := isSome_tokens?.mp haccepted
      rw [hxy] at hbalanced
      exact absurd hbalanced (by simpa [behind] using hstray.not_balanced)

instance (c : String) : Decidable (IsCommand c) := decidable_of_iff _ isCommand_iff.symm

/-- Commands with slashes between them are the segments of the text. -/
lemma segments_join {c : String} {commands : List String} (h : ∀ d ∈ c :: commands, IsCommand d) :
    segments ("/".intercalate (c :: commands)).toList = (c :: commands).map String.toList := by
  rw [String.toList_intercalate]
  induction commands generalizing c with
  | nil => simpa using (isCommand_iff.mp (h c List.mem_cons_self)).2.2.2
  | cons d commands ih =>
    have hslash : "/".toList = ['/'] := rfl
    have hrest := ih fun e he => h e (List.mem_cons_of_mem c he)
    rw [List.map_cons, List.map_cons, List.intercalate_cons_cons, ← List.map_cons,
      List.append_assoc, (h c List.mem_cons_self).segments_append, hslash, List.singleton_append,
      segments_slash, growAll_piece, List.append_nil, ← hslash, hrest]

lemma IsCommand.not_blank {c : String} (h : IsCommand c) : ¬ c.toList.all Text.isBlank := by
  intro hblank
  have htrim := h.trimmed
  rw [Text.trim, trimChars_eq_nil_iff.mpr hblank] at htrim
  exact h.ne_empty htrim.symm

/-- Commands with slashes between them are the commands of the script. -/
lemma split_join {commands : List String} (h : ∀ c ∈ commands, IsCommand c) :
    split ("/".intercalate commands) = commands := by
  cases commands with
  | nil => rfl
  | cons c commands =>
    have hkept : ∀ s ∈ (c :: commands).map String.toList, !s.all Text.isBlank := by
      intro s hs
      obtain ⟨d, hd, rfl⟩ := List.mem_map.mp hs
      simpa using (h d hd).not_blank
    have htrimmed : ∀ d ∈ c :: commands, String.ofList (Text.trimChars d.toList) = d :=
      fun d hd => (h d hd).trimmed
    rw [split_eq, segments_join h, List.filter_eq_self.mpr hkept, List.map_map]
    exact (List.map_congr_left htrimmed).trans (List.map_id _)

/-! ### Segments without tokens -/

/-- The quotes of a segment all belong to closed runs, or one of them is closed nowhere in the
text. -/
lemma balanced_or_stray {cs s : List Char} {l r : List (List Char)}
    (hcut : segments cs = l ++ s :: r) : Balanced s ∨ BehindStray s (behind r) := by
  induction cs using quoteInduction generalizing l s with
  | nil =>
    have hmem : s ∈ segments [] := hcut ▸ List.mem_append_right l List.mem_cons_self
    rw [segments_nil, List.mem_singleton] at hmem
    exact .inl (hmem ▸ .nil)
  | slash cs ih =>
    rw [segments_slash] at hcut
    rcases l with _ | ⟨t, l⟩
    · exact .inl ((List.cons.inj hcut).1 ▸ .nil)
    · exact ih (List.cons.inj hcut).2
  | plain c cs hslash hquote ih =>
    rw [segments_plain hslash hquote, ← growAll_nil (segments cs), ← growAll_cons] at hcut
    rcases grown_or_behind hcut with ⟨p, rfl, hp⟩ | ⟨l', hl'⟩
    · exact (ih hp).imp (.char hquote) (.plain hquote)
    · exact ih hl'
  | run inner cs hinner ih =>
    rw [segments_run hinner] at hcut
    rcases grown_or_behind hcut with ⟨p, rfl, hp⟩ | ⟨l', hl'⟩
    · rw [List.cons_append, List.append_assoc, List.singleton_append]
      exact (ih hp).imp (.run hinner) (.run hinner)
    · exact ih hl'
  | stray inner cs hrun hopen ih =>
    rw [segments_stray hrun hopen] at hcut
    rcases grown_or_behind hcut with ⟨p, rfl, hp⟩ | ⟨l', hl'⟩
    · have hcs : cs = p ++ behind r := by
        rw [← intercalate_segments cs, hp, List.nil_append, intercalate_cons]
      refine .inr ⟨[], inner ++ p, rfl, .nil, fun inner' back hinner' heq => hopen ?_⟩
      rw [List.append_assoc, ← hcs] at heq
      exact closes_iff.mpr ⟨inner', back, hinner', heq⟩
    · exact ih hl'

/-- What is closed nowhere in the text is not closed in the segment, and the other way round. -/
lemma stray_iff {cs s : List Char} {l r : List (List Char)} (hcut : segments cs = l ++ s :: r) :
    BehindStray s [] ↔ BehindStray s (behind r) := by
  constructor
  · intro h
    exact (balanced_or_stray hcut).resolve_left (behindStray_iff.mp h)
  · rintro ⟨front, inner, rfl, hfront, hopen⟩
    refine ⟨front, inner, rfl, hfront, fun inner' back hinner' heq => ?_⟩
    rw [List.append_nil] at heq
    exact hopen inner' (back ++ behind r) hinner' (by simp [heq])

/-- **The two grammars agree.** The grammar of commands rejects just the texts that have no tokens.
Commands that have tokens, begin and end with no blank and have no slash outside of their quoted
runs are the commands of the script in which they are joined with slashes. And of the segments that
the grammar of scripts makes of any text, just those have no tokens in which a quote stands that
nothing in the segment closes; then nothing in the rest of the text closes it either. -/
theorem grammars_agree :
    (∀ c, command.Reads c.toList none ↔ tokens? c = none) ∧
    (∀ commands : List String, (∀ c ∈ commands, IsCommand c) →
      split ("/".intercalate commands) = commands) ∧
    ∀ text, ∃ segs : List (List Char),
      (∀ r, grammar.Reads text.toList r ↔ r = some (segs, [])) ∧
      split text = (segs.filter fun s => !s.all Text.isBlank).map
        (fun s => String.ofList (Text.trimChars s)) ∧
      ∀ l s r, segs = l ++ s :: r →
        (tokens? (String.ofList (Text.trimChars s)) = none ↔ BehindStray s []) ∧
        (BehindStray s [] ↔ BehindStray s (behind r)) := by
  refine ⟨fun c => command_fails_iff, fun commands => split_join, fun text => ?_⟩
  have hreads := reads_grammar text.toList
  refine ⟨segments text.toList, fun r => ⟨fun h => h.unique hreads, fun h => h ▸ hreads⟩,
    split_eq text, fun l s r hcut => ⟨?_, stray_iff hcut⟩⟩
  rw [tokens?_eq_none_iff, String.toList_ofList, behindStray_iff, behindStray_iff,
    balanced_trimChars]

/-- Quoted slashes, a backslash in front of a slash and of a quote that it does not protect, and a
quote that only a backslash keeps from closing its run; and a quote that nothing closes. -/
theorem grammars_agree_hard :
    split "a \"b/c\" \\/d\\\"e/\\\"\"/\"\"" = ["a \"b/c\" \\", "d\\\"e/\\\"\"", "\"\""] ∧
    tokens? "a \"b/c\" \"\\\" d" = none := by
  obtain ⟨-, hjoin, hcut⟩ := grammars_agree
  refine ⟨hjoin ["a \"b/c\" \\", "d\\\"e/\\\"\"", "\"\""] (by decide +kernel), ?_⟩
  obtain ⟨segs, hreads, -, hrejected⟩ := hcut "a \"b/c\" \"\\\" d /e"
  have hsegs : segments "a \"b/c\" \"\\\" d /e".toList = segs := by
    simpa using (hreads _).mp (reads_grammar _)
  have hshape : segments "a \"b/c\" \"\\\" d /e".toList =
      [] ++ "a \"b/c\" \"\\\" d ".toList :: ["e".toList] := by decide +kernel
  have hfront : Balanced "a \"b/c\" ".toList := isSome_tokens?.mp (by decide +kernel)
  have hopen : ¬ closes "\\\" d ".toList := by decide +kernel
  have hstray : BehindStray "a \"b/c\" \"\\\" d ".toList [] :=
    ⟨"a \"b/c\" ".toList, "\\\" d ".toList, by decide +kernel, hfront, fun inner back hinner heq =>
      hopen (closes_iff.mpr ⟨inner, back, hinner, by rwa [List.append_nil] at heq⟩)⟩
  have htrim : String.ofList (Text.trimChars "a \"b/c\" \"\\\" d ".toList) =
      "a \"b/c\" \"\\\" d" := by decide +kernel
  rw [← htrim]
  exact (hrejected [] _ ["e".toList] (hsegs.symm.trans hshape)).1.mpr hstray

end Cutscene.Script
