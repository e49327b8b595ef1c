import Cutscene.Proofs.Script.Peg
import Cutscene.Proofs.Script.Quotes
import Cutscene.Text.Blank
import Mathlib.Data.List.TakeWhile

/-!
# Cutting a Script Loses Nothing

The grammar of scripts is a list of parsing expressions: a segment is made of closed quoted runs,
stray quotes with what follows them, and runs of plain characters, and slashes stand between
segments. It reads every text to its end, and the segments that it keeps are those that the text is
cut into.
-/

namespace Cutscene.Script

open Text (grow)

/-! ### The grammar -/

section Grammar

open Peg

/-- A backslash and any character. -/
def escaped : Peg := .seq (.char '\\') .any

/-- Protected characters and all but quotes. -/
def quotedInside : Peg := .star (.choice escaped (.seq (.not (.char '"')) .any))

def closedRun : Peg := .seq (.char '"') (.seq quotedInside (.char '"'))

/-- Protected characters and all but quotes and slashes. -/
def strayInside : Peg :=
  .star (.choice escaped (.seq (.not (.choice (.char '"') (.char '/'))) .any))

def strayQuote : Peg := .seq (.char '"') strayInside

def plainRun : Peg := plus (.seq (.not (.choice (.char '/') (.char '"'))) .any)

/-- What segments are made of. -/
def part : Peg := .choice closedRun (.choice strayQuote plainRun)

def segment : Peg := .kept (.star part)

/-- A script, from its first character to its last. -/
def grammar : Peg := .seq segment (.seq (.star (.seq (.char '/') segment)) atEnd)

/-! ### Quoted runs -/

lemma reads_escaped (c : Char) (cs : List Char) :
    Reads escaped ('\\' :: c :: cs) (some ([], cs)) :=
  .seq (.char '\\' _) (.any c cs)

lemma escaped_fails {c : Char} {cs : List Char} (h : c = '\\' → cs = []) :
    Reads escaped (c :: cs) none := by
  by_cases hback : c = '\\'
  · subst hback
    rw [h rfl]
    exact .seq_fails_then (.char _ _) .any_fails
  · exact .seq_fails (reads_char_of_ne hback)

lemma reads_protected {inner : List Char} (h : Protected inner) (back : List Char) :
    Reads quotedInside (inner ++ '"' :: back) (some ([], '"' :: back)) := by
  induction h with
  | nil =>
    exact .ends (.second (escaped_fails (by simp)) (reads_unless_fails (.char _ _)))
  | pair c _ ih => exact .more (.first (reads_escaped c _)) ih
  | char hquote hback _ ih =>
    exact .more (.second (escaped_fails fun h => absurd h hback)
      (reads_unless (reads_char_of_ne hquote))) ih

/-- Where no quote closes a run, its inside would reach to the end of the text. -/
lemma reads_unclosed (cs : List Char) (h : ¬ closes cs) :
    Reads quotedInside cs (some ([], [])) := by
  fun_induction closes cs with
  | case1 =>
    exact .ends (.second (.seq_fails reads_char_nil) (reads_unless_nil reads_char_nil))
  | case2 c rest ih => exact .more (.first (reads_escaped c rest)) (ih h)
  | case3 rest => simp at h
  | case4 c rest hpair hquote ih =>
    have hescaped : Reads escaped (c :: rest) none := escaped_fails fun hback => by
      cases rest with
      | nil => rfl
      | cons d rest => exact absurd rfl (hpair d rest hback)
    exact .more (.second hescaped (reads_unless (reads_char_of_ne hquote))) (ih h)

lemma reads_closedRun {inner : List Char} (h : Protected inner) (back : List Char) :
    Reads closedRun ('"' :: (inner ++ '"' :: back)) (some ([], back)) :=
  .seq (.char _ _) (.seq (reads_protected h back) (.char _ _))

lemma closedRun_fails {cs : List Char} (h : ¬ closes cs) : Reads closedRun ('"' :: cs) none :=
  .seq_fails_then (.char _ _) (.seq_fails_then (reads_unclosed cs h) reads_char_nil)

lemma reads_strayRun {inner rest : List Char} (h : StrayRun inner rest) :
    Reads strayInside (inner ++ rest) (some ([], rest)) := by
  induction h with
  | ends =>
    exact .ends (.second (.seq_fails reads_char_nil)
      (reads_unless_nil (.second reads_char_nil reads_char_nil)))
  | slash rest =>
    exact .ends (.second (escaped_fails (by simp))
      (reads_unless_fails (.second (reads_char_of_ne (by decide)) (.char _ _))))
  | last =>
    have hread : Reads (.seq (.not (.choice (.char '"') (.char '/'))) .any) ['\\']
        (some ([], [])) :=
      reads_unless (.second (reads_char_of_ne (by decide)) (reads_char_of_ne (by decide)))
    refine .more (.second (escaped_fails fun _ => rfl) hread) ?_
    exact .ends (.second (.seq_fails reads_char_nil)
      (reads_unless_nil (.second reads_char_nil reads_char_nil)))
  | pair c _ ih => exact .more (.first (reads_escaped c _)) ih
  | char hquote hslash hback _ ih =>
    exact .more (.second (escaped_fails fun h => absurd h hback)
      (reads_unless (.second (reads_char_of_ne hquote) (reads_char_of_ne hslash)))) ih

/-! ### Segments -/

/-- Neither a slash nor a quote. -/
def isPlain (c : Char) : Bool := c != '/' && c != '"'

lemma isPlain_iff {c : Char} : isPlain c ↔ c ≠ '/' ∧ c ≠ '"' := by simp [isPlain]

lemma readsOne_plain :
    ReadsOne (.seq (.not (.choice (.char '/') (.char '"'))) .any) isPlain := by
  have hclass : isPlain = fun c => !(c == '/' || c == '"') := funext fun c => by simp [isPlain, bne]
  exact hclass ▸ ((ReadsOne.char '/').choice (.char '"')).outside

lemma segments_plains (cs : List Char) :
    segments cs = growAll (cs.takeWhile isPlain) (segments (cs.dropWhile isPlain)) := by
  induction cs with
  | nil => rfl
  | cons c cs ih =>
    by_cases hplain : isPlain c
    · obtain ⟨hslash, hquote⟩ := isPlain_iff.mp hplain
      rw [List.dropWhile_cons_of_pos hplain, List.takeWhile_cons_of_pos hplain,
        segments_plain hslash hquote, growAll_cons, ← ih]
    · rw [List.dropWhile_cons_of_neg hplain, List.takeWhile_cons_of_neg hplain, growAll_nil]

/-- The text is cut behind its first segment: nothing follows, or a slash and the other segments. -/
def CutBehind (cs first rest : List Char) : Prop :=
  (rest = [] ∧ segments cs = [first]) ∨
    ∃ back, rest = '/' :: back ∧ segments cs = first :: segments back

/-- Characters that stay in the first segment stand before the cut. -/
lemma CutBehind.grow {cs cs' first rest front : List Char} (h : CutBehind cs first rest)
    (hcs : segments cs' = growAll front (segments cs)) : CutBehind cs' (front ++ first) rest := by
  rcases h with ⟨rfl, hone⟩ | ⟨back, rfl, hmore⟩
  · exact .inl ⟨rfl, by rw [hcs, hone, growAll_piece]⟩
  · exact .inr ⟨back, rfl, by rw [hcs, hmore, growAll_piece]⟩

/-- Every text is put together from slashes, runs of plain characters, closed runs and stray quotes;
what a run of plain characters stands before begins with no plain character. -/
theorem partInduction {P : List Char → Prop} (nil : P [])
    (slash : ∀ cs, P cs → P ('/' :: cs))
    (plains : ∀ c cs, c ≠ '/' → c ≠ '"' → P (cs.dropWhile isPlain) → P (c :: cs))
    (run : ∀ inner cs, Protected inner → P cs → P ('"' :: (inner ++ '"' :: cs)))
    (stray : ∀ inner cs, StrayRun inner cs → ¬ closes (inner ++ cs) → P cs →
      P ('"' :: (inner ++ cs))) (cs : List Char) : P cs := by
  induction cs using blockInduction isPlain (by decide) with
  | nil => exact nil
  | block c cs hplain ih =>
    obtain ⟨hslash, hquote⟩ := isPlain_iff.mp hplain
    exact plains c cs hslash hquote ih
  | other c cs hplain hquote ih =>
    have hslash : c = '/' := by
      by_contra hslash
      exact hplain (isPlain_iff.mpr ⟨hslash, hquote⟩)
    exact hslash ▸ slash cs ih
  | run inner cs hinner ih => exact run inner cs hinner ih
  | stray inner cs hrun hopen ih => exact stray inner cs hrun hopen ih

/-- The parts of a segment are read up to the cut. -/
lemma reads_parts (cs : List Char) : ∃ first rest, cs = first ++ rest ∧
    Reads (.star part) cs (some ([], rest)) ∧ CutBehind cs first rest := by
  induction cs using partInduction with
  | nil =>
    refine ⟨[], [], rfl, .ends ?_, .inl ⟨rfl, rfl⟩⟩
    exact .second (.seq_fails reads_char_nil)
      (.second (.seq_fails reads_char_nil) readsOne_plain.plus_ends)
  | slash cs _ =>
    refine ⟨[], '/' :: cs, rfl, .ends ?_, .inr ⟨cs, rfl, segments_slash cs⟩⟩
    exact .second (.seq_fails (reads_char_of_ne (by decide)))
      (.second (.seq_fails (reads_char_of_ne (by decide)))
        (readsOne_plain.plus_fails (by decide) cs))
  | plains c cs hslash hquote ih =>
    obtain ⟨first, rest, hsplit, hread, hcut⟩ := ih
    have hrun : Reads plainRun (c :: cs) (some ([], cs.dropWhile isPlain)) :=
      readsOne_plain.plus (isPlain_iff.mpr ⟨hslash, hquote⟩) cs
    refine ⟨c :: cs.takeWhile isPlain ++ first, rest, ?_,
      .more (.second (.seq_fails (reads_char_of_ne hquote))
        (.second (.seq_fails (reads_char_of_ne hquote)) hrun)) hread, hcut.grow ?_⟩
    · rw [List.append_assoc, ← hsplit, List.cons_append, List.takeWhile_append_dropWhile]
    · rw [segments_plain hslash hquote, segments_plains cs, growAll_cons]
  | run inner cs hinner ih =>
    obtain ⟨first, rest, rfl, hread, hcut⟩ := ih
    exact ⟨'"' :: (inner ++ ['"']) ++ first, rest, by simp,
      .more (.first (reads_closedRun hinner _)) hread, hcut.grow (segments_run hinner _)⟩
  | stray inner cs hrun hopen ih =>
    obtain ⟨first, rest, rfl, hread, hcut⟩ := ih
    exact ⟨'"' :: inner ++ first, rest, by simp,
      .more (.second (closedRun_fails hopen)
        (.first (.seq (.char _ _) (reads_strayRun hrun)))) hread,
      hcut.grow (segments_stray hrun hopen)⟩

lemma reads_segments (cs : List Char) : ∃ first rest ps,
    Reads segment cs (some ([first], rest)) ∧
      Reads (.star (.seq (.char '/') segment)) rest (some (ps, [])) ∧
      segments cs = first :: ps := by
  suffices h : ∀ n, ∀ cs : List Char, cs.length < n → ∃ first rest ps,
      Reads segment cs (some ([first], rest)) ∧
        Reads (.star (.seq (.char '/') segment)) rest (some (ps, [])) ∧
        segments cs = first :: ps from
    h (cs.length + 1) cs (Nat.lt_succ_self _)
  intro n
  induction n with
  | zero => exact fun cs h => absurd h (Nat.not_lt_zero _)
  | succ n ih =>
    intro cs hlen
    obtain ⟨first, rest, hsplit, hparts, hcut⟩ := reads_parts cs
    have hread : Reads segment cs (some ([first], rest)) := by
      rw [hsplit] at hparts ⊢
      exact .kept hparts
    rcases hcut with ⟨rfl, hone⟩ | ⟨back, rfl, hmore⟩
    · exact ⟨first, [], [], hread, .ends (.seq_fails reads_char_nil), hone⟩
    · rw [hsplit, List.length_append, List.length_cons] at hlen
      obtain ⟨second, rest, ps, hsecond, hothers, hsegments⟩ := ih back (by omega)
      refine ⟨first, '/' :: back, second :: ps, hread, ?_, by rw [hmore, hsegments]⟩
      exact .more (p := [second]) (.seq (p := []) (.char _ _) hsecond) hothers

/-- The grammar reads every text to its end and keeps the segments. -/
theorem reads_grammar (cs : List Char) : Reads grammar cs (some (segments cs, [])) := by
  obtain ⟨first, rest, ps, hfirst, hothers, hsegments⟩ := reads_segments cs
  rw [hsegments]
  have hback := Reads.seq hothers reads_atEnd
  rw [List.append_nil] at hback
  exact .seq (p := [first]) hfirst hback

end Grammar

/-! ### Where the text is cut -/

/-- What stands behind a segment: the other segments, each with its slash. -/
def behind (others : List (List Char)) : List Char := others.flatMap ('/' :: ·)

lemma intercalate_cons (s : List Char) (ss : List (List Char)) :
    ['/'].intercalate (s :: ss) = s ++ behind ss := by
  induction ss generalizing s with
  | nil => simp [List.intercalate, behind]
  | cons t ss ih =>
    have hstep : ['/'].intercalate (s :: t :: ss) = s ++ '/' :: ['/'].intercalate (t :: ss) := by
      simp [List.intercalate]
    rw [hstep, ih, behind, behind, List.flatMap_cons, List.cons_append]

/-- The segments with slashes between them are the text. -/
theorem intercalate_segments (cs : List Char) : ['/'].intercalate (segments cs) = cs := by
  have hgrow : ∀ front cs, ['/'].intercalate (segments cs) = cs →
      ['/'].intercalate (growAll front (segments cs)) = front ++ cs := by
    intro front cs ih
    obtain ⟨s, ss, hs⟩ := exists_segments_eq cs
    rw [hs, intercalate_cons] at ih
    rw [hs, growAll_piece, intercalate_cons, List.append_assoc, ih]
  induction cs using quoteInduction with
  | nil => rfl
  | slash cs ih =>
    obtain ⟨s, ss, hs⟩ := exists_segments_eq cs
    rw [hs, intercalate_cons] at ih
    rw [segments_slash, intercalate_cons, hs, behind, List.flatMap_cons, ← behind,
      List.nil_append, List.cons_append, ih]
  | plain c cs hslash hquote ih =>
    rw [segments_plain hslash hquote]
    exact hgrow [c] cs ih
  | run inner cs hinner ih =>
    rw [segments_run hinner, hgrow _ cs ih]
    simp
  | stray inner cs hrun hopen ih =>
    rw [segments_stray hrun hopen, hgrow _ cs ih]
    rfl

/-- The first pieces of a text whose first piece has grown. -/
lemma eq_of_growAll_eq_append (front : List Char) {ps l r : List (List Char)} (hps : ps ≠ [])
    (hl : l ≠ []) (h : growAll front ps = l ++ r) :
    ∃ l', l' ≠ [] ∧ ps = l' ++ r ∧
      ['/'].intercalate l = front ++ ['/'].intercalate l' := by
  obtain ⟨p, ps, rfl⟩ := List.exists_cons_of_ne_nil hps
  obtain ⟨s, l, rfl⟩ := List.exists_cons_of_ne_nil hl
  rw [growAll_piece, List.cons_append] at h
  obtain ⟨rfl, rfl⟩ := List.cons.inj h
  exact ⟨p :: l, List.cons_ne_nil _ _, rfl, by
    rw [intercalate_cons, intercalate_cons, List.append_assoc]⟩

/-- No cut is made inside a closed quoted run. -/
lemma not_inQuotes_of_cut {cs : List Char} {l r : List (List Char)} (hcut : segments cs = l ++ r)
    (hl : l ≠ []) (hr : r ≠ []) :
    ¬ InQuotes (['/'].intercalate l) ('/' :: ['/'].intercalate r) := by
  rintro ⟨front, inner, inner', back, hbefore, hbehind, hfront, hinner⟩
  have hcs : cs = front ++ '"' :: (inner ++ inner' ++ '"' :: back) := by
    obtain ⟨t, r, rfl⟩ := List.exists_cons_of_ne_nil hr
    obtain ⟨s, l, rfl⟩ := List.exists_cons_of_ne_nil hl
    rw [← intercalate_segments cs, hcut, List.cons_append, intercalate_cons, behind,
      List.flatMap_append, ← List.append_assoc, ← behind, ← intercalate_cons, hbefore,
      List.flatMap_cons, ← behind, List.cons_append, ← intercalate_cons, hbehind]
    simp
  clear hbehind
  -- Reading the front takes the same steps off the text and off its first segments.
  induction hfront generalizing cs l with
  | nil =>
    subst hcs
    rw [List.nil_append, segments_run hinner] at hcut
    obtain ⟨l', -, -, hl'⟩ := eq_of_growAll_eq_append _ (segmentsFrom_ne_nil _ _) hl hcut
    have hlen := congrArg List.length (hbefore.symm.trans hl')
    simp only [List.nil_append, List.length_cons, List.length_append] at hlen
    omega
  | @char c front hquote _ ih =>
    subst hcs
    by_cases hslash : c = '/'
    · subst hslash
      rw [List.cons_append, segments_slash] at hcut
      obtain ⟨s, l, rfl⟩ := List.exists_cons_of_ne_nil hl
      rw [List.cons_append] at hcut
      obtain ⟨rfl, hcut'⟩ := List.cons.inj hcut
      rw [intercalate_cons, List.nil_append, List.cons_append] at hbefore
      rcases l with _ | ⟨t, l⟩
      · simp [behind] at hbefore
      · rw [behind, List.flatMap_cons, ← behind, List.cons_append, ← intercalate_cons] at hbefore
        exact ih hcut' (List.cons_ne_nil t l) (List.cons.inj hbefore).2 rfl
    · rw [List.cons_append, segments_plain hslash hquote] at hcut
      obtain ⟨l', hl', hcut', hjoin⟩ :=
        eq_of_growAll_eq_append [c] (segmentsFrom_ne_nil _ _) hl hcut
      rw [hjoin, List.cons_append, List.cons_append, List.nil_append] at hbefore
      exact ih hcut' hl' (List.cons.inj hbefore).2 rfl
  | @run run front hrun _ ih =>
    subst hcs
    have hshape : '"' :: (run ++ '"' :: front) ++ '"' :: (inner ++ inner' ++ '"' :: back) =
        '"' :: (run ++ '"' :: (front ++ '"' :: (inner ++ inner' ++ '"' :: back))) := by simp
    rw [hshape, segments_run hrun] at hcut
    obtain ⟨l', hl', hcut', hjoin⟩ := eq_of_growAll_eq_append _ (segmentsFrom_ne_nil _ _) hl hcut
    have hrest : ['/'].intercalate l' = front ++ '"' :: inner := by
      rw [hjoin] at hbefore
      simpa using hbefore
    exact ih hcut' hl' hrest rfl

/-! ### Which slashes are kept -/

lemma InQuotes.plain {c : Char} {before back : List Char} (hc : c ≠ '"')
    (h : InQuotes before back) : InQuotes (c :: before) back := by
  obtain ⟨front, inner, inner', rest, rfl, rfl, hfront, hinner⟩ := h
  exact ⟨c :: front, inner, inner', rest, rfl, rfl, .char hc hfront, hinner⟩

lemma InQuotes.run {run before back : List Char} (hrun : Protected run)
    (h : InQuotes before back) : InQuotes ('"' :: (run ++ '"' :: before)) back := by
  obtain ⟨front, inner, inner', rest, rfl, rfl, hfront, hinner⟩ := h
  exact ⟨_, inner, inner', rest, by simp, rfl, .run hrun hfront, hinner⟩

lemma BehindStray.plain {c : Char} {before back : List Char} (hc : c ≠ '"')
    (h : BehindStray before back) : BehindStray (c :: before) back := by
  obtain ⟨front, inner, rfl, hfront, hopen⟩ := h
  exact ⟨c :: front, inner, rfl, .char hc hfront, hopen⟩

lemma BehindStray.run {run before back : List Char} (hrun : Protected run)
    (h : BehindStray before back) : BehindStray ('"' :: (run ++ '"' :: before)) back := by
  obtain ⟨front, inner, rfl, hfront, hopen⟩ := h
  exact ⟨_, inner, by simp, .run hrun hfront, hopen⟩

/-- A slash of two texts put together is a slash of one of them. -/
lemma slash_of_append {front p x y : List Char} (h : front ++ p = x ++ '/' :: y) :
    (∃ x', x = front ++ x' ∧ p = x' ++ '/' :: y) ∨ ∃ y', front = x ++ '/' :: y' ∧ y = y' ++ p := by
  rcases List.append_eq_append_iff.mp h with ⟨x', rfl, hp⟩ | ⟨y', rfl, hy⟩
  · exact .inl ⟨x', rfl, hp⟩
  · rcases y' with _ | ⟨c, y'⟩
    · exact .inl ⟨[], by simp, by simpa using hy.symm⟩
    · obtain ⟨rfl, rfl⟩ := List.cons.inj hy
      exact .inr ⟨y', rfl, rfl⟩

/-- A slash of a closed run stands inside it, since both ends of the run are quotes. -/
lemma inQuotes_of_run {inner x y : List Char} (hinner : Protected inner)
    (h : '"' :: (inner ++ ['"']) = x ++ '/' :: y) (rest : List Char) :
    InQuotes x ('/' :: (y ++ rest)) := by
  rcases x with _ | ⟨c, x⟩
  · simp at h
  obtain ⟨rfl, hinside⟩ := List.cons.inj h
  rcases slash_of_append hinside with ⟨x', -, hx'⟩ | ⟨y', rfl, rfl⟩
  · rcases x' with _ | ⟨d, x'⟩ <;> simp at hx'
  · exact ⟨[], x, '/' :: y', rest, rfl, by simp, .nil, hinner⟩

/-- A segment is the first one and has grown, or it stands behind the first one. -/
lemma grown_or_behind {front cs s : List Char} {l r : List (List Char)}
    (hcut : growAll front (segments cs) = l ++ s :: r) :
    (∃ p, s = front ++ p ∧ segments cs = [] ++ p :: r) ∨ ∃ l', segments cs = l' ++ s :: r := by
  obtain ⟨p, ps, hp⟩ := exists_segments_eq cs
  rw [hp, growAll_piece] at hcut
  rcases l with _ | ⟨t, l⟩
  · obtain ⟨rfl, rfl⟩ := List.cons.inj hcut
    exact .inl ⟨p, rfl, hp⟩
  · obtain ⟨-, rfl⟩ := List.cons.inj hcut
    exact .inr ⟨p :: l, hp⟩

/-- Every slash that is not cut at lies inside a closed quoted run, or behind a quote of its segment
that nothing in the text closes. -/
lemma kept_slash {cs s x y : List Char} {l r : List (List Char)} (hcut : segments cs = l ++ s :: r)
    (hs : s = x ++ '/' :: y) :
    InQuotes x ('/' :: y) ∨ BehindStray x ('/' :: (y ++ behind r)) := by
  induction cs using quoteInduction generalizing l s x with
  | nil =>
    have hmem : s ∈ segments [] := hcut ▸ List.mem_append_right l List.mem_cons_self
    rw [segments_nil, List.mem_singleton, hs] at hmem
    simp at hmem
  | slash cs ih =>
    rw [segments_slash] at hcut
    rcases l with _ | ⟨t, l⟩
    · rw [← (List.cons.inj hcut).1] at hs
      simp at hs
    · exact ih (List.cons.inj hcut).2 hs
  | plain c cs hslash hquote ih =>
    rw [segments_plain hslash hquote, ← growAll_nil (segments cs), ← growAll_cons] at hcut
    rcases grown_or_behind hcut with ⟨p, rfl, hp⟩ | ⟨l', hl'⟩
    · rcases slash_of_append hs with ⟨x', rfl, hx'⟩ | ⟨y', hy', -⟩
      · exact (ih hp hx').imp (.plain hquote) (.plain hquote)
      · -- A plain character is no slash.
        rcases x with _ | ⟨d, x⟩ <;> simp_all
    · exact ih hl' hs
  | run inner cs hinner ih =>
    rw [segments_run hinner] at hcut
    rcases grown_or_behind hcut with ⟨p, rfl, hp⟩ | ⟨l', hl'⟩
    · rcases slash_of_append hs with ⟨x', rfl, hx'⟩ | ⟨y', hy', rfl⟩
      · rw [List.cons_append, List.append_assoc, List.singleton_append]
        exact (ih hp hx').imp (.run hinner) (.run hinner)
      · exact .inl (inQuotes_of_run hinner hy' p)
    · exact ih hl' hs
  | stray inner cs hrun hopen ih =>
    rw [segments_stray hrun hopen] at hcut
    rcases grown_or_behind hcut with ⟨p, rfl, hp⟩ | ⟨l', hl'⟩
    · rcases x with _ | ⟨d, x⟩
      · simp at hs
      rw [List.cons_append, List.cons_append, List.cons.injEq] at hs
      obtain ⟨rfl, hxy⟩ := hs
      have hcs : cs = p ++ behind r := by
        rw [← intercalate_segments cs, hp, List.nil_append, intercalate_cons]
      refine .inr ⟨[], x, rfl, .nil, fun inner' back hinner' heq => hopen ?_⟩
      rw [closes_iff]
      refine ⟨inner', back, hinner', ?_⟩
      rw [← heq, hcs, ← List.append_assoc, hxy, List.append_assoc, List.cons_append]
    · exact ih hl' hs

/-! ### The commands -/

lemma trimFront_eq_nil_iff {cs : List Char} : Text.trimFront cs = [] ↔ cs.all Text.isBlank := by
  rw [Text.trimFront, List.dropWhile_eq_nil_iff, List.all_eq_true]

/-- Nothing is left of a blank text when it is trimmed, and of no other. -/
lemma trimChars_eq_nil_iff {cs : List Char} : Text.trimChars cs = [] ↔ cs.all Text.isBlank := by
  rw [Text.trimChars, Text.trimBack, List.reverse_eq_nil_iff, trimFront_eq_nil_iff,
    List.all_reverse]
  constructor
  · intro h
    rw [← List.takeWhile_append_dropWhile (p := Text.isBlank) (l := cs), List.all_append,
      Bool.and_eq_true]
    exact ⟨List.all_takeWhile, h⟩
  · intro h
    rw [trimFront_eq_nil_iff.mpr h]
    rfl

/-- The commands of a script are its segments that are not blank, without the blanks around
them. -/
lemma split_eq (text : String) : split text =
    ((segments text.toList).filter fun s => !s.all Text.isBlank).map
      fun s => String.ofList (Text.trimChars s) := by
  unfold split
  induction segments text.toList with
  | nil => rfl
  | cons s ss ih =>
    by_cases hblank : s.all Text.isBlank
    · rw [List.map_cons, List.filterMap_cons, if_pos (trimChars_eq_nil_iff.mpr hblank), ih,
        List.filter_cons_of_neg (by simp [hblank])]
    · rw [List.map_cons, List.filterMap_cons, if_neg (mt trimChars_eq_nil_iff.mp hblank), ih,
        List.filter_cons_of_pos (by simpa using hblank), List.map_cons]

/-- **Cutting a script loses nothing.** The grammar of scripts reads every text, to its end and in
one way. The segments that it keeps give the text back when slashes are put between them, and the
commands of the script are those segments in their order, trimmed and without the blank ones. No
cut is made inside a closed quoted run, and every slash that stays in a segment lies inside a closed
quoted run of the segment, or behind a quote of the segment that nothing in the text closes. -/
theorem cut_loses_nothing (text : String) : ∃ segs : List (List Char),
    (∀ r, grammar.Reads text.toList r ↔ r = some (segs, [])) ∧
    ['/'].intercalate segs = text.toList ∧
    split text = (segs.filter fun s => !s.all Text.isBlank).map
      (fun s => String.ofList (Text.trimChars s)) ∧
    (∀ l r, segs = l ++ r → l ≠ [] → r ≠ [] →
      ¬ InQuotes (['/'].intercalate l) ('/' :: ['/'].intercalate r)) ∧
    ∀ l s r x y, segs = l ++ s :: r → s = x ++ '/' :: y →
      InQuotes x ('/' :: y) ∨ BehindStray x ('/' :: (y ++ behind r)) := by
  have hreads := reads_grammar text.toList
  refine ⟨segments text.toList, fun r => ⟨fun h => h.unique hreads, fun h => h ▸ hreads⟩,
    intercalate_segments _, split_eq text, fun l r => not_inQuotes_of_cut, fun l s r x y => ?_⟩
  exact kept_slash

end Cutscene.Script
