import Cutscene.Proofs.Script.Agreement
import Mathlib.Data.Set.Card
import Mathlib.Order.Interval.Finset.Nat

/-!
# Which Slashes End Commands

A slash ends a command if it stands in no closed quoted run and is not shielded: a backslash in
front of it protects it from a quote before it that nothing closes. Such a slash parts the text, and
both parts are cut as if they stood alone. So the segments are one more than these slashes, and
whatever quote a command leaves open, the other commands are what they are without it.
-/

namespace Cutscene.Script

/-- What a quote that nothing closes keeps of the text behind it: no quote and no slash stands here
unprotected. -/
inductive Held : List Char → Prop
  | nil : Held []
  | pair (c : Char) {inner : List Char} : Held inner → Held ('\\' :: c :: inner)
  | char {c : Char} {inner : List Char} :
    c ≠ '"' → c ≠ '/' → c ≠ '\\' → Held inner → Held (c :: inner)

/-- The quote between the two texts belongs to no closed run: it stands in none, it ends none, and
none begins with it. -/
def Unclosed (before behind : List Char) : Prop :=
  ¬ InQuotes before ('"' :: behind) ∧
    ∀ inner back, Protected inner → behind ≠ inner ++ '"' :: back

/-- A backslash stands in front of the place, and it protects what stands there from a quote that
nothing closes. -/
def Shielded (before behind : List Char) : Prop :=
  ∃ front inner, before = front ++ '"' :: (inner ++ ['\\']) ∧ Held inner ∧
    Unclosed front (inner ++ '\\' :: behind)

/-- The slash between the two texts stands in no closed run and is not shielded. -/
def EndsCommand (before behind : List Char) : Prop :=
  ¬ InQuotes before ('/' :: behind) ∧ ¬ Shielded before ('/' :: behind)

lemma segments_ne_nil (cs : List Char) : segments cs ≠ [] := segmentsFrom_ne_nil .plain cs

/-! ### What closes a quote -/

lemma closes_cons {c : Char} (hquote : c ≠ '"') (hback : c ≠ '\\') (cs : List Char) :
    closes (c :: cs) = closes cs := by
  rw [closes]
  · exact fun _ _ h => absurd h hback
  · exact hquote

/-- What closes a quote stands before a character or behind it, unless the character protects the
next one. -/
lemma closes_append_cons {c : Char} (hc : c ≠ '\\') (u w : List Char) :
    closes (u ++ c :: w) = (closes (u ++ [c]) || closes w) := by
  fun_induction closes u with
  | case1 =>
    by_cases hquote : c = '"'
    · simp [hquote, closes]
    · rw [List.nil_append, List.nil_append, closes_cons hquote hc, closes_cons hquote hc]
      rfl
  | case2 d rest ih => simpa [closes] using ih
  | case3 rest => simp [closes]
  | case4 d rest hpair hquote ih =>
    by_cases hback : d = '\\'
    · cases rest with
      | nil => simp [hback, closes]
      | cons e rest => exact absurd rfl (hpair e rest hback)
    · simp only [List.cons_append, closes_cons (fun h => hquote h) hback, ih]

lemma closes_append_singleton {c : Char} (hc : c ≠ '"') (u : List Char) :
    closes (u ++ [c]) = closes u := by
  fun_induction closes u with
  | case1 =>
    by_cases hback : c = '\\'
    · simp [hback, closes]
    · rw [List.nil_append, closes_cons hc hback, closes]
  | case2 d rest ih => simpa [closes] using ih
  | case3 rest => simp [closes]
  | case4 d rest hpair hquote ih =>
    by_cases hback : d = '\\'
    · cases rest with
      | nil => simp [hback, closes]
      | cons e rest => exact absurd rfl (hpair e rest hback)
    · rw [List.cons_append, closes_cons (fun h => hquote h) hback, ih]

lemma closes_append_slash (u w : List Char) : closes (u ++ '/' :: w) = (closes u || closes w) := by
  rw [closes_append_cons (by decide), closes_append_singleton (by decide)]

lemma closes_append_quote {w : List Char} (h : closes w) (u : List Char) :
    closes (u ++ '"' :: w) := by
  rw [closes_append_cons (by decide), h, Bool.or_true]

lemma closes_append {u : List Char} (h : closes u) (w : List Char) : closes (u ++ w) := by
  obtain ⟨inner, back, hinner, rfl⟩ := closes_iff.mp h
  rw [List.append_assoc]
  exact closes_of_protected hinner (back ++ w)

/-- A quote is closed in one of the segments behind it, or in its own. -/
lemma closes_append_behind (u : List Char) (r : List (List Char)) :
    closes (u ++ behind r) ↔ closes u ∨ ∃ s ∈ r, closes s := by
  induction r generalizing u with
  | nil => simp [behind]
  | cons s r ih =>
    have hshape : u ++ behind (s :: r) = u ++ '/' :: (s ++ behind r) := rfl
    rw [hshape, closes_append_slash, Bool.or_eq_true, ih]
    simp

lemma closes_intercalate (ps : List (List Char)) :
    closes (['/'].intercalate ps) ↔ ∃ s ∈ ps, closes s := by
  cases ps with
  | nil => simp [List.intercalate, closes]
  | cons s r => simp [intercalate_cons, closes_append_behind]

/-! ### Closed runs and places -/

lemma not_inQuotes_nil (behind : List Char) : ¬ InQuotes [] behind := by
  rintro ⟨front, inner, -, -, hnil, -⟩
  simp at hnil

lemma inQuotes_plain {c : Char} {before behind : List Char} (hc : c ≠ '"') :
    InQuotes (c :: before) behind ↔ InQuotes before behind :=
  ⟨.of_plain hc, .plain hc⟩

lemma inQuotes_run {run before behind : List Char} (hrun : Protected run) :
    InQuotes ('"' :: (run ++ '"' :: before)) behind ↔ InQuotes before behind :=
  ⟨.of_run hrun, .run hrun⟩

lemma InQuotes.closes {before behind : List Char} (h : InQuotes before behind) (u : List Char) :
    closes (u ++ (before ++ behind)) := by
  obtain ⟨front, inner, inner', back, rfl, rfl, -, hinner⟩ := h
  have hclosed := closes_append_quote (closes_of_protected hinner back) (u ++ front)
  simpa using hclosed

/-- No run is closed behind a quote that nothing closes. -/
lemma not_inQuotes_of_open {u before behind : List Char}
    (hopen : ¬ closes (u ++ (before ++ behind))) :
    ¬ InQuotes before behind ∧ ¬ InQuotes ('"' :: (u ++ before)) behind := by
  refine ⟨fun h => hopen (h.closes u), ?_⟩
  rintro ⟨front, inner, inner', back, hbefore, rfl, -, hinner⟩
  cases front with
  | nil =>
    obtain ⟨-, rfl⟩ := List.cons.inj hbefore
    have hclosed := closes_of_protected hinner back
    exact hopen (by simpa using hclosed)
  | cons c front =>
    have hclosed := closes_append_quote (closes_of_protected hinner back) front
    have hshape : u ++ (before ++ (inner' ++ '"' :: back)) =
        front ++ '"' :: (inner ++ inner' ++ '"' :: back) := by
      rw [← List.append_assoc, (List.cons.inj hbefore).2]
      simp
    exact hopen (hshape ▸ hclosed)

lemma InQuotes.quote_mem {before behind : List Char} (h : InQuotes before behind) :
    '"' ∈ behind := by
  obtain ⟨front, inner, inner', back, -, rfl, -⟩ := h
  simp

lemma inQuotes_of_closes {w behind : List Char} (hopen : ¬ closes w) (h : closes (w ++ behind)) :
    InQuotes ('"' :: w) behind := by
  obtain ⟨inner, back, hinner, heq⟩ := closes_iff.mp h
  rcases List.append_eq_append_iff.mp heq with ⟨inner', rfl, hback⟩ | ⟨w', rfl, hback⟩
  · exact ⟨[], w, inner', back, rfl, hback, .nil, hinner⟩
  · cases w' with
    | nil => exact ⟨[], inner, [], back, by simp, hback.symm, .nil, by simpa using hinner⟩
    | cons c w' =>
      obtain ⟨rfl, -⟩ := List.cons.inj hback
      exact absurd (closes_of_protected hinner w') hopen

lemma unclosed_iff {before behind : List Char} :
    Unclosed before behind ↔ ¬ InQuotes before ('"' :: behind) ∧ ¬ closes behind := by
  rw [Unclosed, closes_iff]
  simp only [ne_eq, not_exists, not_and]

/-! ### Shielded places -/

lemma not_shielded_nil (behind : List Char) : ¬ Shielded [] behind := by
  rintro ⟨front, inner, hnil, -⟩
  simp at hnil

lemma Shielded.getLast?_eq {before behind : List Char} (h : Shielded before behind) :
    before.getLast? = some '\\' := by
  obtain ⟨front, inner, rfl, -⟩ := h
  rw [← List.cons_append, ← List.append_assoc, List.getLast?_concat]

lemma shielded_plain {c : Char} {before behind : List Char} (hc : c ≠ '"') :
    Shielded (c :: before) behind ↔ Shielded before behind := by
  constructor
  · rintro ⟨front, inner, hbefore, hinner, hopen⟩
    cases front with
    | nil => exact absurd (List.cons.inj hbefore).1 hc
    | cons d front =>
      obtain ⟨rfl, rfl⟩ := List.cons.inj hbefore
      rw [unclosed_iff, inQuotes_plain hc, ← unclosed_iff] at hopen
      exact ⟨front, inner, rfl, hinner, hopen⟩
  · rintro ⟨front, inner, rfl, hinner, hopen⟩
    refine ⟨c :: front, inner, rfl, hinner, ?_⟩
    rwa [unclosed_iff, inQuotes_plain hc, ← unclosed_iff]

/-- No quote of a closed run is unclosed. -/
lemma shielded_run {run before behind : List Char} (hrun : Protected run) :
    Shielded ('"' :: (run ++ '"' :: before)) behind ↔ Shielded before behind := by
  constructor
  · rintro ⟨front, inner, hbefore, hinner, hopen⟩
    have hback : '"' :: (inner ++ '\\' :: behind) = '"' :: (inner ++ ['\\']) ++ behind := by simp
    cases front with
    | nil =>
      obtain ⟨-, hrest⟩ := List.cons.inj hbefore
      refine absurd ?_ (hopen.2 run (before ++ behind) hrun)
      rw [← List.cons_append, ← List.append_assoc, hrest]
      simp
    | cons c front =>
      obtain ⟨rfl, hrest⟩ := List.cons.inj hbefore
      rcases List.append_eq_append_iff.mp hrest with ⟨back, rfl, hquote⟩ | ⟨front', rfl, hquote⟩
      · cases back with
        | nil => exact absurd ⟨[], run, [], _, by simp, rfl, .nil, by simpa using hrun⟩ hopen.1
        | cons d back =>
          obtain ⟨rfl, rfl⟩ := List.cons.inj hquote
          rw [unclosed_iff, inQuotes_run hrun, ← unclosed_iff] at hopen
          exact ⟨back, inner, rfl, hinner, hopen⟩
      · cases front' with
        | nil => exact absurd ⟨[], front, [], _, rfl, rfl, .nil, by simpa using hrun⟩ hopen.1
        | cons d front' =>
          obtain ⟨rfl, -⟩ := List.cons.inj hquote
          refine absurd ⟨[], front, '"' :: front', before ++ behind, rfl, ?_, .nil, hrun⟩ hopen.1
          rw [hback, hquote]
          simp
  · rintro ⟨front, inner, rfl, hinner, hopen⟩
    refine ⟨'"' :: (run ++ '"' :: front), inner, by simp, hinner, ?_⟩
    rwa [unclosed_iff, inQuotes_run hrun, ← unclosed_iff]

/-! ### Behind a stray quote -/

/-- Nothing stands here, or a slash does. -/
def AtSlash (cs : List Char) : Prop := cs = [] ∨ ∃ rest, cs = '/' :: rest

lemma held_pair {c : Char} {inner : List Char} : Held ('\\' :: c :: inner) ↔ Held inner := by
  constructor
  · intro h
    cases h with
    | pair _ h => exact h
    | char _ _ hback => exact absurd rfl hback
  · exact .pair c

lemma held_char {c : Char} {inner : List Char} (hback : c ≠ '\\') :
    Held (c :: inner) ↔ c ≠ '"' ∧ c ≠ '/' ∧ Held inner := by
  constructor
  · intro h
    cases h with
    | pair => exact absurd rfl hback
    | char hquote hslash _ h => exact ⟨hquote, hslash, h⟩
  · exact fun ⟨hquote, hslash, h⟩ => .char hquote hslash hback h

lemma Held.append_iff {u v : List Char} (h : Held u) : Held (u ++ v) ↔ Held v := by
  induction h with
  | nil => rfl
  | pair c _ ih => rw [List.cons_append, List.cons_append, held_pair, ih]
  | char hquote hslash hback _ ih =>
    rw [List.cons_append, held_char hback, ih, and_iff_right hslash, and_iff_right hquote]

/-- A quote that is held is protected, so what follows it is held. -/
lemma Held.of_quote {p q : List Char} (h : Held (p ++ '"' :: q)) : Held q := by
  generalize hcs : p ++ '"' :: q = cs at h
  induction h generalizing p with
  | nil => simp at hcs
  | @pair c inner hinner ih =>
    rcases p with _ | ⟨d, _ | ⟨e, p⟩⟩
    · cases (List.cons.inj hcs).1
    · exact (List.cons.inj (List.cons.inj hcs).2).2 ▸ hinner
    · exact ih (List.cons.inj (List.cons.inj hcs).2).2
  | @char c inner hquote _ _ _ ih =>
    rcases p with _ | ⟨d, p⟩
    · exact absurd (List.cons.inj hcs).1.symm hquote
    · exact ih (List.cons.inj hcs).2

/-- The slash that ends what a stray quote keeps is not protected. -/
lemma Held.not_shield {q b inner : List Char} (hq : Held q) (hinner : Held inner)
    (hb : AtSlash b) : q ++ b ≠ inner ++ ['\\'] := by
  intro heq
  rcases hb with rfl | ⟨b, rfl⟩
  · rw [List.append_nil] at heq
    have hlone := hinner.append_iff.mp (heq ▸ hq)
    cases hlone with
    | char _ _ hback => exact hback rfl
  · rcases List.append_eq_append_iff.mp heq with ⟨back, rfl, hback⟩ | ⟨back, rfl, hback⟩
    · rcases back with _ | ⟨c, back⟩
      · cases (List.cons.inj hback).1
      · obtain ⟨rfl, -⟩ := List.cons.inj hback
        have hslash := hq.append_iff.mp hinner
        cases hslash with
        | char _ hslash => exact hslash rfl
    · rcases back with _ | ⟨c, back⟩
      · cases (List.cons.inj hback).1
      · cases back <;> cases (List.cons.inj hback).2

lemma strayRun_slash {inner cs : List Char} (h : StrayRun inner ('/' :: cs)) : Held inner := by
  generalize hcs : '/' :: cs = rest at h
  induction h with
  | ends => cases hcs
  | slash => exact .nil
  | last => cases hcs
  | pair c _ ih => exact .pair c (ih hcs)
  | char hquote hslash hback _ ih => exact .char hquote hslash hback (ih hcs)

lemma Held.strayRun {inner b : List Char} (h : Held inner) (hb : AtSlash b) :
    StrayRun inner b := by
  induction h with
  | nil =>
    rcases hb with rfl | ⟨b, rfl⟩
    · exact .ends
    · exact .slash b
  | pair c _ ih => exact .pair c ih
  | char hquote hslash hback _ ih => exact .char hquote hslash hback ih

lemma StrayRun.rest {inner cs : List Char} (h : StrayRun inner cs) : AtSlash cs := by
  induction h with
  | ends | last => exact .inl rfl
  | slash rest => exact .inr ⟨rest, rfl⟩
  | pair _ _ ih => exact ih
  | char _ _ _ _ ih => exact ih

/-- What a stray quote keeps in front of a slash ends at the slash or at one before it. -/
lemma StrayRun.of_slash {inner b back : List Char} (h : StrayRun inner (b ++ '/' :: back)) :
    Held inner ∧ AtSlash b := by
  cases b with
  | nil => exact ⟨strayRun_slash h, .inl rfl⟩
  | cons c b =>
    obtain ⟨cs, hcs⟩ := h.rest.resolve_left (List.cons_ne_nil _ _)
    obtain ⟨rfl, -⟩ := List.cons.inj hcs
    exact ⟨strayRun_slash h, .inr ⟨b, rfl⟩⟩

lemma StrayRun.held_or {inner cs : List Char} (h : StrayRun inner cs) :
    Held inner ∨ ∃ inner', inner = inner' ++ ['\\'] ∧ Held inner' := by
  induction h with
  | ends | slash => exact .inl .nil
  | last => exact .inr ⟨[], rfl, .nil⟩
  | pair c _ ih =>
    refine ih.imp (.pair c) ?_
    rintro ⟨inner', rfl, hinner'⟩
    exact ⟨_, rfl, .pair c hinner'⟩
  | char hquote hslash hback _ ih =>
    refine ih.imp (.char hquote hslash hback) ?_
    rintro ⟨inner', rfl, hinner'⟩
    exact ⟨_, rfl, .char hquote hslash hback hinner'⟩

/-- A slash that a stray quote keeps has a backslash in front of it. -/
lemma StrayRun.slash_kept {x y cs : List Char} (h : StrayRun (x ++ '/' :: y) cs) :
    ∃ x', x = x' ++ ['\\'] ∧ Held x' := by
  generalize hrun : x ++ '/' :: y = run at h
  induction h generalizing x with
  | ends | slash => simp at hrun
  | last =>
    rcases x with _ | ⟨c, x⟩
    · cases (List.cons.inj hrun).1
    · cases x <;> cases (List.cons.inj hrun).2
  | pair c _ ih =>
    rcases x with _ | ⟨d, _ | ⟨e, x⟩⟩
    · cases (List.cons.inj hrun).1
    · exact ⟨[], by rw [(List.cons.inj hrun).1, List.nil_append], .nil⟩
    · obtain ⟨hback, hpair⟩ := List.cons.inj hrun
      obtain ⟨x', rfl, hx'⟩ := ih (List.cons.inj hpair).2
      exact ⟨'\\' :: e :: x', by rw [hback]; rfl, .pair e hx'⟩
  | char hquote hslash hback _ ih =>
    rcases x with _ | ⟨d, x⟩
    · exact absurd (List.cons.inj hrun).1.symm hslash
    · obtain ⟨rfl, hrest⟩ := List.cons.inj hrun
      obtain ⟨x', rfl, hx'⟩ := ih hrest
      exact ⟨_, rfl, .char hquote hslash hback hx'⟩

/-- What a stray quote keeps up to a slash shields no place behind that slash. -/
lemma shielded_stray {held b back : List Char} (hheld : Held held) (hb : AtSlash b)
    (hopen : ¬ closes (held ++ (b ++ back))) :
    Shielded ('"' :: (held ++ b)) back ↔ Shielded b back := by
  have hshape (front inner : List Char) : front ++ '"' :: (inner ++ ['\\']) ++ back =
      front ++ '"' :: (inner ++ '\\' :: back) := by simp
  constructor
  · rintro ⟨front, inner, hbefore, hinner, hunclosed⟩
    cases front with
    | nil => exact absurd (List.cons.inj hbefore).2 (hheld.not_shield hinner hb)
    | cons c front =>
      obtain ⟨rfl, hrest⟩ := List.cons.inj hbefore
      rcases List.append_eq_append_iff.mp hrest with ⟨front', rfl, rfl⟩ | ⟨q, rfl, hq⟩
      · rw [hshape] at hopen
        exact ⟨front', inner, rfl, hinner,
          (not_inQuotes_of_open hopen).1, hunclosed.2⟩
      · cases q with
        | nil => exact ⟨[], inner, hq.symm, hinner, not_inQuotes_nil _, hunclosed.2⟩
        | cons d q =>
          obtain ⟨rfl, hback⟩ := List.cons.inj hq
          exact absurd hback.symm (hheld.of_quote.not_shield hinner hb)
  · rintro ⟨front, inner, rfl, hinner, hunclosed⟩
    rw [hshape] at hopen
    exact ⟨'"' :: (held ++ front), inner, by simp, hinner, (not_inQuotes_of_open hopen).2,
      hunclosed.2⟩

/-! ### Cuts -/

lemma growAll_append {front : List Char} {ps : List (List Char)} (hps : ps ≠ [])
    (qs : List (List Char)) : growAll front (ps ++ qs) = growAll front ps ++ qs := by
  obtain ⟨p, ps, rfl⟩ := List.exists_cons_of_ne_nil hps
  rw [List.cons_append, growAll_piece, growAll_piece, List.cons_append]

lemma growAll_inj {front : List Char} {ps qs : List (List Char)} (hps : ps ≠ []) (hqs : qs ≠ []) :
    growAll front ps = growAll front qs ↔ ps = qs := by
  obtain ⟨p, ps, rfl⟩ := List.exists_cons_of_ne_nil hps
  obtain ⟨q, qs, rfl⟩ := List.exists_cons_of_ne_nil hqs
  rw [growAll_piece, growAll_piece, List.cons.injEq, List.cons.injEq, List.append_cancel_left_eq]

/-- The segments of a text that has grown part where they parted before. -/
lemma cut_growAll_iff {u cs cs' b b' back : List Char}
    (hcs : segments cs' = growAll u (segments cs))
    (hb : segments b' = growAll u (segments b)) :
    segments cs' = segments b' ++ segments back ↔ segments cs = segments b ++ segments back := by
  rw [hcs, hb, ← growAll_append (segments_ne_nil b), growAll_inj (segments_ne_nil cs)
    (List.append_ne_nil_of_left_ne_nil (segments_ne_nil b) _)]

/-- No cut is made within the characters that the first segment begins with. -/
lemma not_cut_within {front cs cs' b back : List Char}
    (hcs : segments cs' = growAll front (segments cs)) (hlt : b.length < front.length) :
    segments cs' ≠ segments b ++ segments back := by
  intro hcut
  obtain ⟨p, ps, hp⟩ := exists_segments_eq cs
  obtain ⟨s, ss, hs⟩ := exists_segments_eq b
  rw [hcs, hp, growAll_piece, hs, List.cons_append, List.cons.injEq] at hcut
  have hjoin := congrArg List.length (intercalate_segments b)
  rw [hs, intercalate_cons, ← hcut.1] at hjoin
  simp only [List.length_append] at hjoin
  omega

/-- **A slash parts the text** if it stands in no closed run and is not shielded. -/
theorem cut_iff {cs before behind : List Char} (hcs : cs = before ++ '/' :: behind) :
    segments cs = segments before ++ segments behind ↔ EndsCommand before behind := by
  induction cs using quoteInduction generalizing before with
  | nil => simp at hcs
  | slash cs ih =>
    cases before with
    | nil =>
      obtain ⟨-, rfl⟩ := List.cons.inj hcs
      exact iff_of_true (segments_slash cs) ⟨not_inQuotes_nil _, not_shielded_nil _⟩
    | cons c before =>
      obtain ⟨rfl, hrest⟩ := List.cons.inj hcs
      rw [segments_slash, segments_slash, List.cons_append, List.cons_inj_right, ih hrest,
        EndsCommand, EndsCommand, inQuotes_plain (by decide), shielded_plain (by decide)]
  | plain c cs hslash hquote ih =>
    cases before with
    | nil => exact absurd (List.cons.inj hcs).1 hslash
    | cons d before =>
      obtain ⟨rfl, hrest⟩ := List.cons.inj hcs
      rw [cut_growAll_iff (u := [c]) (segments_plain hslash hquote cs)
        (segments_plain hslash hquote before), ih hrest, EndsCommand, EndsCommand,
        inQuotes_plain hquote, shielded_plain hquote]
  | run inner cs hinner ih =>
    have hshape : '"' :: (inner ++ ['"']) ++ cs = before ++ '/' :: behind := by simpa using hcs
    rcases slash_of_append hshape with ⟨b, rfl, hb⟩ | ⟨y, hy, rfl⟩
    · rw [List.cons_append, List.append_assoc, List.singleton_append,
        cut_growAll_iff (segments_run hinner cs) (segments_run hinner b), ih hb, EndsCommand,
        EndsCommand, inQuotes_run hinner, shielded_run hinner]
    · -- The slash stands within the run.
      refine iff_of_false (not_cut_within (segments_run hinner cs) ?_) fun h =>
        h.1 (inQuotes_of_run hinner hy cs)
      rw [hy]
      simp
  | stray inner cs hrun hopen ih =>
    have hshape : '"' :: inner ++ cs = before ++ '/' :: behind := hcs
    rcases slash_of_append hshape with ⟨b, rfl, hb⟩ | ⟨y, hy, rfl⟩
    · -- What the quote keeps ends before the slash.
      obtain ⟨hheld, hback⟩ := (hb ▸ hrun).of_slash
      subst hb
      have hfront : ¬ closes (inner ++ b) := fun h => hopen (by
        rw [← List.append_assoc]
        exact closes_append h _)
      rw [List.cons_append, cut_growAll_iff (segments_stray hrun hopen)
        (segments_stray (hheld.strayRun hback) hfront), ih rfl, EndsCommand, EndsCommand,
        shielded_stray hheld hback hopen]
      exact and_congr_left fun _ =>
        iff_of_true (not_inQuotes_of_open hopen).1 (not_inQuotes_of_open hopen).2
    · -- The quote keeps the slash, for a backslash stands in front of it.
      refine iff_of_false (not_cut_within (segments_stray hrun hopen) ?_) fun h => h.2 ?_
      · rw [hy]
        simp
      · rcases before with _ | ⟨d, x⟩
        · simp at hy
        obtain ⟨rfl, rfl⟩ := List.cons.inj hy
        obtain ⟨x', rfl, hx'⟩ := hrun.slash_kept
        refine ⟨[], x', rfl, hx', unclosed_iff.mpr ⟨not_inQuotes_nil _, ?_⟩⟩
        simpa using hopen

/-! ### Segments without the others -/

/-- The text goes into the first segment of whatever follows it. -/
def Joins (front : List Char) : Prop :=
  ∀ cs, segments (front ++ cs) = growAll front (segments cs)

lemma joins_plain {c : Char} (hslash : c ≠ '/') (hquote : c ≠ '"') : Joins [c] :=
  segments_plain hslash hquote

lemma joins_run {inner : List Char} (h : Protected inner) : Joins ('"' :: (inner ++ ['"'])) := by
  intro cs
  rw [← segments_run h]
  simp

lemma Joins.segments_eq_iff {front cs p : List Char} {ps : List (List Char)} (h : Joins front) :
    segments (front ++ cs) = (front ++ p) :: ps ↔ segments cs = p :: ps := by
  rw [h, ← growAll_piece, growAll_inj (segments_ne_nil cs) (List.cons_ne_nil _ _)]

/-- The text is one segment, and it is the first one whatever stands behind the slash, so long as
that closes no more quotes than `back`. -/
def Stays (p back : List Char) : Prop :=
  segments p = [p] ∧ ∀ back', (closes back' → closes back) →
    segments (p ++ '/' :: back') = p :: segments back'

lemma Stays.grow {front p back : List Char} (hfront : Joins front) (h : Stays p back) :
    Stays (front ++ p) back :=
  ⟨hfront.segments_eq_iff.mpr h.1, fun back' hback => by
    rw [List.append_assoc, hfront.segments_eq_iff, h.2 back' hback]⟩

/-- A quote that nothing closes before the end of its segment is closed nowhere behind it. -/
lemma stays_of_stray {inner p back : List Char} (hrun : StrayRun inner p)
    (hopen : ¬ closes (inner ++ p))
    (h : segments ('"' :: (inner ++ p) ++ '/' :: back) = ('"' :: (inner ++ p)) :: segments back) :
    Stays ('"' :: (inner ++ p)) back := by
  have hback : ¬ closes back := fun hcloses => by
    have hcut := not_inQuotes_of_cut (l := [_]) (r := segments back) h (List.cons_ne_nil _ _)
      (segments_ne_nil back)
    rw [List.intercalate_singleton, intercalate_segments] at hcut
    refine hcut (inQuotes_of_closes hopen ?_)
    rw [closes_append_slash, hcloses, Bool.or_true]
  have hopen_at {held rest : List Char} (hheld : ¬ closes held) (hrest : ¬ closes rest) :
      ¬ closes (held ++ '/' :: rest) := by
    rw [closes_append_slash]
    simp [hheld, hrest]
  rcases hrun.rest with rfl | ⟨q, rfl⟩
  · have hone := segments_stray hrun hopen
    rw [List.append_nil] at hopen h hone ⊢
    rw [segments_nil, growAll_piece, List.append_nil] at hone
    obtain ⟨-, hshield⟩ := (cut_iff rfl).mp (h.trans (congrArg (· ++ segments back) hone).symm)
    have hheld : Held inner := by
      refine hrun.held_or.resolve_right ?_
      rintro ⟨inner', rfl, hinner'⟩
      refine hshield ⟨[], inner', rfl, hinner', unclosed_iff.mpr ⟨not_inQuotes_nil _, ?_⟩⟩
      simpa using hopen_at hopen hback
    refine ⟨hone, fun back' hback' => ?_⟩
    rw [List.cons_append, segments_stray (hheld.strayRun (.inr ⟨back', rfl⟩))
      (hopen_at hopen fun hcloses => hback (hback' hcloses)), segments_slash, growAll_piece,
      List.append_nil]
  · -- The segment would end at the first slash.
    have hlong := hopen_at hopen hback
    rw [List.append_assoc, List.cons_append] at hlong
    rw [List.cons_append, List.append_assoc, List.cons_append,
      segments_stray ((strayRun_slash hrun).strayRun (.inr ⟨_, rfl⟩)) hlong, segments_slash,
      growAll_piece] at h
    simp at h

/-- A segment that ends at a slash is one segment when it stands alone, and it ends at the slash
whatever follows, so long as that closes no quote that was open. -/
lemma stays_of_segment {p back : List Char}
    (h : segments (p ++ '/' :: back) = p :: segments back) : Stays p back := by
  induction p using quoteInduction with
  | nil => exact ⟨rfl, fun back' _ => segments_slash back'⟩
  | slash p _ => simp at h
  | plain c p hslash hquote ih =>
    have hjoins := joins_plain hslash hquote
    exact .grow hjoins (ih (hjoins.segments_eq_iff.mp h))
  | run inner p hinner ih =>
    have hjoins := joins_run hinner
    have hshape : '"' :: (inner ++ '"' :: p) = '"' :: (inner ++ ['"']) ++ p := by simp
    rw [hshape, List.append_assoc] at h
    rw [hshape]
    exact .grow hjoins (ih (hjoins.segments_eq_iff.mp h))
  | stray inner p hrun hopen _ => exact stays_of_stray hrun hopen h

/-- The segments behind the first one are those of the text that stands there. -/
lemma segments_rest {cs s : List Char} {r : List (List Char)} (h : segments cs = s :: r)
    (hr : r ≠ []) : segments (['/'].intercalate r) = r := by
  have hgrow {u cs s : List Char} (hcut : growAll u (segments cs) = s :: r)
      (ih : ∀ s, segments cs = s :: r → segments (['/'].intercalate r) = r) :
      segments (['/'].intercalate r) = r := by
    obtain ⟨p, ps, hp⟩ := exists_segments_eq cs
    rw [hp, growAll_piece] at hcut
    exact ih p ((List.cons.inj hcut).2 ▸ hp)
  induction cs using quoteInduction generalizing s with
  | nil => exact absurd (List.cons.inj h).2.symm hr
  | slash cs _ =>
    rw [segments_slash] at h
    rw [← (List.cons.inj h).2, intercalate_segments]
  | plain c cs hslash hquote ih =>
    exact hgrow (u := [c]) ((segments_plain hslash hquote cs).symm.trans h) fun _ => ih
  | run inner cs hinner ih => exact hgrow ((segments_run hinner cs).symm.trans h) fun _ => ih
  | stray inner cs hrun hopen ih =>
    exact hgrow ((segments_stray hrun hopen).symm.trans h) fun _ => ih

/-- **Segments stay segments.** Whichever of them are left out, the others are cut apart again where
slashes are put between them. -/
theorem segments_sublist {ps qs : List (List Char)} (h : segments (['/'].intercalate ps) = ps)
    (hsub : qs.Sublist ps) (hne : qs ≠ []) : segments (['/'].intercalate qs) = qs := by
  induction hsub with
  | slnil => exact absurd rfl hne
  | @cons qs ps p hsub ih =>
    have hps : ps ≠ [] := by
      rintro rfl
      exact hne (List.sublist_nil.mp hsub)
    exact ih (segments_rest h hps) hne
  | @cons_cons qs ps p hsub ih =>
    have hshape {rs : List (List Char)} (hrs : rs ≠ []) :
        ['/'].intercalate (p :: rs) = p ++ '/' :: ['/'].intercalate rs := by
      rw [List.intercalate_cons_of_ne_nil hrs]
      simp
    cases ps with
    | nil => rwa [List.sublist_nil.mp hsub]
    | cons s ps =>
      have hrest := segments_rest h (List.cons_ne_nil s ps)
      rw [hshape (List.cons_ne_nil s ps)] at h
      obtain ⟨hone, hstays⟩ := stays_of_segment (h.trans (congrArg (p :: ·) hrest.symm))
      cases qs with
      | nil => rwa [List.intercalate_singleton]
      | cons q qs =>
        have hqs := ih hrest (List.cons_ne_nil q qs)
        rw [hshape (List.cons_ne_nil q qs), hstays _ fun hcloses => ?_, hqs]
        obtain ⟨t, ht, hcloses⟩ := (closes_intercalate _).mp hcloses
        exact (closes_intercalate _).mpr ⟨t, hsub.subset ht, hcloses⟩

/-! ### The number of segments -/

/-- The segments up to some place are those of the text up to the slash there, and so are those
behind it. -/
lemma parts_of_segments {cs : List Char} {l r : List (List Char)} (h : segments cs = l ++ r)
    (hl : l ≠ []) (hr : r ≠ []) : cs = ['/'].intercalate l ++ '/' :: ['/'].intercalate r ∧
      segments (['/'].intercalate l) = l ∧ segments (['/'].intercalate r) = r := by
  have hwhole : segments (['/'].intercalate (l ++ r)) = l ++ r := by
    rw [← h, intercalate_segments]
  refine ⟨?_, segments_sublist hwhole (List.sublist_append_left l r) hl,
    segments_sublist hwhole (List.sublist_append_right l r) hr⟩
  obtain ⟨s, l, rfl⟩ := List.exists_cons_of_ne_nil hl
  obtain ⟨t, r, rfl⟩ := List.exists_cons_of_ne_nil hr
  rw [← intercalate_segments cs, h, List.cons_append, intercalate_cons, intercalate_cons,
    intercalate_cons, behind, List.flatMap_append, List.append_assoc]
  rfl

lemma parts_of_take {cs : List Char} {k : ℕ} (hk : k ∈ Finset.Ico 1 (segments cs).length) :
    cs = ['/'].intercalate ((segments cs).take k) ++
        '/' :: ['/'].intercalate ((segments cs).drop k) ∧
      segments (['/'].intercalate ((segments cs).take k)) = (segments cs).take k ∧
      segments (['/'].intercalate ((segments cs).drop k)) = (segments cs).drop k := by
  obtain ⟨hpos, hlt⟩ := Finset.mem_Ico.mp hk
  refine parts_of_segments (List.take_append_drop k _).symm ?_ ?_
  · refine List.ne_nil_of_length_pos ?_
    rw [List.length_take]
    omega
  · refine List.ne_nil_of_length_pos ?_
    rw [List.length_drop]
    omega

/-- The segments of a text part at the slashes that end commands, and nowhere else. -/
lemma places_eq (cs : List Char) :
    {before | ∃ behind, cs = before ++ '/' :: behind ∧ EndsCommand before behind} =
      (fun k => ['/'].intercalate ((segments cs).take k)) '' Finset.Ico 1 (segments cs).length := by
  ext before
  constructor
  · rintro ⟨behind, hcs, hends⟩
    have hcut := (cut_iff hcs).mpr hends
    have hbefore := List.length_pos_of_ne_nil (segments_ne_nil before)
    have hbehind := List.length_pos_of_ne_nil (segments_ne_nil behind)
    refine ⟨(segments before).length, Finset.mem_coe.mpr (Finset.mem_Ico.mpr ⟨hbefore, ?_⟩), ?_⟩
    · rw [hcut, List.length_append]
      omega
    · dsimp only
      rw [hcut, List.take_left, intercalate_segments]
  · rintro ⟨k, hk, rfl⟩
    obtain ⟨hcs, hfront, hback⟩ := parts_of_take (Finset.mem_coe.mp hk)
    refine ⟨_, hcs, (cut_iff hcs).mp ?_⟩
    rw [hfront, hback, List.take_append_drop]

lemma length_segments (cs : List Char) : (segments cs).length =
    {before | ∃ behind, cs = before ++ '/' :: behind ∧ EndsCommand before behind}.ncard + 1 := by
  have hinj : Set.InjOn (fun k => ['/'].intercalate ((segments cs).take k))
      (Finset.Ico 1 (segments cs).length) := by
    intro j hj k hk heq
    dsimp only at heq
    have htake : (segments cs).take j = (segments cs).take k := by
      rw [← (parts_of_take (Finset.mem_coe.mp hj)).2.1, heq,
        (parts_of_take (Finset.mem_coe.mp hk)).2.1]
    have hlength := congrArg List.length htake
    rw [List.length_take, List.length_take] at hlength
    have hj := Finset.mem_Ico.mp (Finset.mem_coe.mp hj)
    have hk := Finset.mem_Ico.mp (Finset.mem_coe.mp hk)
    omega
  have hpos := List.length_pos_of_ne_nil (segments_ne_nil cs)
  rw [places_eq, hinj.ncard_image, Set.ncard_coe_finset, Nat.card_Ico]
  omega

/-! ### The commands -/

lemma split_of_cut {text : String} {before behind : List Char}
    (h : segments text.toList = segments before ++ segments behind) :
    split text = split (String.ofList before) ++ split (String.ofList behind) := by
  rw [split_eq, h, List.filter_append, List.map_append, split_eq, split_eq, String.toList_ofList,
    String.toList_ofList]

/-- **A quote that nothing closes spoils its own command only.** A slash that stands in no closed
run parts the text: what stands before it and what stands behind it are cut into commands as if they
stood alone. This fails for one kind of slash, which parts nothing: a backslash in front of it
protects it from a quote before it that nothing closes. So there is one segment more than slashes of
the other kinds. Whichever segments are left out, the others remain what they are; and a segment is
no command that can be read just if it has a quote in it that nothing closes. -/
theorem stray_quote_spoils_one_command (text : String) :
    (∀ before behind, text.toList = before ++ '/' :: behind →
      (segments text.toList = segments before ++ segments behind ↔
        ¬ InQuotes before ('/' :: behind) ∧ ¬ Shielded before ('/' :: behind)) ∧
      (¬ InQuotes before ('/' :: behind) → ¬ Shielded before ('/' :: behind) →
        split text = split (String.ofList before) ++ split (String.ofList behind))) ∧
    (segments text.toList).length = {before | ∃ behind, text.toList = before ++ '/' :: behind ∧
      ¬ InQuotes before ('/' :: behind) ∧ ¬ Shielded before ('/' :: behind)}.ncard + 1 ∧
    (∀ segs, segs.Sublist (segments text.toList) → segs ≠ [] →
      segments (['/'].intercalate segs) = segs) ∧
    ∀ s, tokens? (String.ofList (Text.trimChars s)) = none ↔ BehindStray s [] := by
  refine ⟨fun before behind htext => ⟨cut_iff htext, fun hquotes hshield => ?_⟩,
    length_segments text.toList, fun segs hsub => segments_sublist ?_ hsub, fun s => ?_⟩
  · exact split_of_cut ((cut_iff htext).mpr ⟨hquotes, hshield⟩)
  · rw [intercalate_segments]
  · rw [tokens?_eq_none_iff, String.toList_ofList, behindStray_iff, behindStray_iff,
      balanced_trimChars]

/-- The quote is never closed, and the sound is a command of its own. -/
theorem sound_is_played_behind_stray_quote :
    split "speak Abigail \"never closed/playSound a" =
      ["speak Abigail \"never closed", "playSound a"] := by
  have hshape : "speak Abigail \"never closed/playSound a".toList =
      "speak Abigail \"never closed".toList ++ '/' :: "playSound a".toList := by decide +kernel
  have hquotes : ¬ InQuotes "speak Abigail \"never closed".toList
      ('/' :: "playSound a".toList) := fun h => absurd h.quote_mem (by decide +kernel)
  have hshield : ¬ Shielded "speak Abigail \"never closed".toList
      ('/' :: "playSound a".toList) := fun h => absurd h.getLast?_eq (by decide +kernel)
  obtain ⟨hcuts, -⟩ := stray_quote_spoils_one_command "speak Abigail \"never closed/playSound a"
  rw [(hcuts _ _ hshape).2 hquotes hshield]
  decide +kernel

/-- The slash stands in no closed run, and behind a backslash it ends no command. -/
theorem backslash_keeps_sound_from_playing :
    ¬ InQuotes "speak Abigail \"never closed\\".toList ('/' :: "playSound a/end".toList) ∧
      split "speak Abigail \"never closed\\/playSound a/end" =
        ["speak Abigail \"never closed\\/playSound a", "end"] :=
  ⟨fun h => absurd h.quote_mem (by decide +kernel), by decide +kernel⟩

end Cutscene.Script
