import Cutscene.Proofs.Script.Quotes
import Cutscene.Script.Token

/-!
# How Tokens Are Spelled

A token of a command stands there with its quotes and protecting backslashes, and this spelling is
what a change to the text of the command changes. A command has the tokens that its spellings mean
(`tokens?_eq_map_meaning`). A token that is a word is spelled like itself, so that words with spaces
between them are read back (`tokens?_spaced`).
-/

namespace Cutscene.Script

open Text (grow)

/-- Where the reading of a command stands: between tokens, in a token, in a quoted run of a token,
or behind a backslash there. -/
inductive Spot where
  | gap
  | word
  | quoted
  | escaped
  deriving DecidableEq, Repr

namespace Spot

/-- The spot behind a character. -/
def next : Spot → Char → Spot
  | .gap, c => if isGap c then .gap else if c = '"' then .quoted else .word
  | .word, c => if isGap c then .gap else if c = '"' then .quoted else .word
  | .quoted, c => if c = '"' then .word else if c = '\\' then .escaped else .quoted
  | .escaped, _ => .quoted

/-- The spot behind a text. -/
def after (s : Spot) (cs : List Char) : Spot := cs.foldl next s

end Spot

/-- The spellings of the tokens from a spot on; inside a token the first of them continues it. A
quoted run that does not end has none. -/
def spelledFrom? : Spot → List Char → Option (List (List Char))
  | .gap, [] => some []
  | .word, [] => some [[]]
  | _, [] => none
  | .gap, c :: cs =>
    if isGap c then spelledFrom? .gap cs else (spelledFrom? (Spot.next .gap c) cs).map (grow c)
  | .word, c :: cs =>
    if isGap c then (spelledFrom? .gap cs).map ([] :: ·)
    else (spelledFrom? (Spot.next .word c) cs).map (grow c)
  | s, c :: cs => (spelledFrom? (s.next c) cs).map (grow c)

/-- The tokens of a command as they stand in it. -/
def spellings? (command : String) : Option (List String) :=
  (spelledFrom? .gap command.toList).map (·.map String.ofList)

/-- What a spelling means from a spot on: quotes go, and a protected quote or backslash stands for
itself. -/
def meaningFrom : Spot → List Char → List Char
  | _, [] => []
  | .quoted, c :: cs =>
    if c = '"' then meaningFrom .word cs
    else if c = '\\' then meaningFrom .escaped cs
    else c :: meaningFrom .quoted cs
  | .escaped, c :: cs =>
    if c = '"' ∨ c = '\\' then c :: meaningFrom .quoted cs
    else '\\' :: c :: meaningFrom .quoted cs
  | _, c :: cs => if c = '"' then meaningFrom .quoted cs else c :: meaningFrom .word cs

/-- The token that a spelling means. -/
def meaning (spelling : String) : String := String.ofList (meaningFrom .word spelling.toList)

example : spellings? "speak  Sam \"a \\\"b\\\" c\"d" =
    some ["speak", "Sam", "\"a \\\"b\\\" c\"d"] := by decide +kernel
example : meaning "\"a \\\"b\\\" c\"d" = "a \"b\" cd" := by decide +kernel

/-! ### Tokens are what their spellings mean -/

/-- What the spellings from a spot on mean. -/
def meanings (s : Spot) : List (List Char) → List (List Char)
  | [] => []
  | p :: ps => meaningFrom s p :: ps.map (meaningFrom .word)

lemma meanings_gap (ps : List (List Char)) : meanings .gap ps = ps.map (meaningFrom .word) := by
  cases ps with
  | nil => rfl
  | cons q qs => cases q <;> rfl

lemma exists_cons_of_spelledFrom? {s : Spot} {cs : List Char} {ps : List (List Char)}
    (hs : s ≠ .gap) (h : spelledFrom? s cs = some ps) : ∃ q qs, ps = q :: qs := by
  refine List.exists_cons_of_ne_nil ?_
  rintro rfl
  fun_cases spelledFrom? s cs <;> simp_all [spelledFrom?]

/-- A character in front of the spellings changes their meanings as it does that of the first. -/
lemma map_meanings_grow {s t : Spot} {c : Char} {f : List (List Char) → List (List Char)}
    (ht : t ≠ .gap) (hf : ∀ q qs, meanings s ((c :: q) :: qs) = f (meanings t (q :: qs)))
    (cs : List Char) :
    ((spelledFrom? t cs).map (grow c)).map (meanings s) =
      ((spelledFrom? t cs).map (meanings t)).map f := by
  cases hcs : spelledFrom? t cs with
  | none => rfl
  | some ps =>
    obtain ⟨q, qs, rfl⟩ := exists_cons_of_spelledFrom? ht hcs
    simp only [Option.map_some, grow, hf]

/-- The spot of a place. -/
@[simp] def Place.spot : Place → Spot
  | .gap => .gap
  | .word => .word
  | .quoted => .quoted

lemma spelledFrom?_grow {s : Spot} {c : Char} (h : s.next c ≠ .gap) (cs : List Char) :
    spelledFrom? s (c :: cs) = (spelledFrom? (s.next c) cs).map (grow c) := by
  cases s with
  | gap | word =>
    rw [spelledFrom?, if_neg]
    exact fun hgap => h (by simp [Spot.next, hgap])
  | quoted | escaped => rw [spelledFrom?] <;> simp

/-- A character that stands for itself. -/
lemma spelled_char {s t : Spot} {c : Char} (hnext : s.next c = t) (ht : t ≠ .gap)
    (hc : ∀ q, meaningFrom s (c :: q) = c :: meaningFrom t q) (cs : List Char) :
    (spelledFrom? s (c :: cs)).map (meanings s) =
      ((spelledFrom? t cs).map (meanings t)).map (grow c) := by
  subst hnext
  rw [spelledFrom?_grow ht, map_meanings_grow ht]
  exact fun q qs => by simp only [meanings, grow, hc]

/-- A character that only marks what is behind it. -/
lemma spelled_mark {s t : Spot} {c : Char} (hnext : s.next c = t) (ht : t ≠ .gap)
    (hc : ∀ q, meaningFrom s (c :: q) = meaningFrom t q) (cs : List Char) :
    (spelledFrom? s (c :: cs)).map (meanings s) = (spelledFrom? t cs).map (meanings t) := by
  subst hnext
  rw [spelledFrom?_grow ht, map_meanings_grow (f := id) ht]
  · rw [Option.map_id, id]
  · exact fun q qs => by simp only [meanings, hc, id]

lemma tokensFrom?_eq_map_meanings (p : Place) (cs : List Char) :
    tokensFrom? p cs = (spelledFrom? p.spot cs).map (meanings p.spot) := by
  fun_induction tokensFrom? p cs with
  | case1 | case2 | case3 => rfl
  | case4 c rest hgap ih => rw [ih, Place.spot, spelledFrom?, if_pos hgap]
  | case5 rest hgap ih | case8 rest hgap ih =>
    rw [ih]
    refine (spelled_mark ?_ ?_ ?_ rest).symm <;> simp [Spot.next, hgap, meaningFrom]
  | case6 c rest hgap hquote ih | case9 c rest hgap hquote ih =>
    rw [ih]
    refine (spelled_char ?_ ?_ ?_ rest).symm <;> simp [Spot.next, hgap, hquote, meaningFrom]
  | case7 c rest hgap ih =>
    rw [ih, Place.spot, Place.spot, spelledFrom?, if_pos hgap, Option.map_map, Option.map_map]
    refine congrArg (Option.map · _) (funext fun ps => ?_)
    exact congrArg (List.cons []) (meanings_gap ps)
  | case10 rest ih | case11 rest ih =>
    -- The backslash is dropped, and what it protects stands for itself.
    rw [ih, Place.spot, spelled_mark (t := .escaped)]
    · refine (spelled_char ?_ ?_ ?_ rest).symm <;> simp [Spot.next, meaningFrom]
    all_goals simp [Spot.next, meaningFrom]
  | case12 c rest hquote hback ih =>
    -- The backslash protects nothing, and both characters stand for themselves.
    have hescaped (q : List Char) (qs : List (List Char)) : meanings .escaped ((c :: q) :: qs) =
        grow '\\' (grow c (meanings .quoted (q :: qs))) := by
      have hnot : ¬ (c = '"' ∨ c = '\\') := not_or.mpr ⟨hquote, hback⟩
      simp only [meanings, meaningFrom, if_neg hnot, grow]
    rw [ih, Place.spot, spelled_mark (t := .escaped) rfl (by simp) (by simp [meaningFrom]),
      spelledFrom?_grow (by simp [Spot.next]), Spot.next,
      map_meanings_grow (f := grow '\\' ∘ grow c) (by simp) hescaped, Option.map_map,
      Option.map_map]
    rfl
  | case13 rest _ _ _ ih =>
    rw [ih]
    refine (spelled_mark ?_ ?_ ?_ rest).symm <;> simp [Spot.next, meaningFrom]
  | case14 c rest _ _ hpair hquote ih =>
    by_cases hback : c = '\\'
    · cases rest with
      | nil => simp [hback, tokensFrom?, spelledFrom?, Spot.next]
      | cons d rest => exact absurd rfl (hpair d rest hback)
    · rw [ih]
      refine (spelled_char ?_ ?_ ?_ rest).symm <;> simp [Spot.next, hquote, hback, meaningFrom]

/-- The tokens of a command are what their spellings mean. -/
theorem tokens?_eq_map_meaning (command : String) :
    tokens? command = (spellings? command).map (·.map meaning) := by
  rw [tokens?, spellings?, tokensFrom?_eq_map_meanings, Option.map_map, Option.map_map]
  refine congrArg (Option.map · _) (funext fun ps => ?_)
  simp [meanings_gap, meaning, Function.comp_def]

/-! ### Texts inside of a token -/

namespace Spot

/-- The text can stand at the spot as a part of one token, and the reading stays where it is: it is
empty only where something of the token is there already, and nothing in it ends a token, opens or
closes a quoted run, or protects what comes next. -/
def Takes : Spot → List Char → Prop
  | .gap, cs => cs ≠ [] ∧ ∀ c ∈ cs, ¬ isGap c ∧ c ≠ '"'
  | .word, cs => ∀ c ∈ cs, ¬ isGap c ∧ c ≠ '"'
  | .quoted, cs => ∀ c ∈ cs, c ≠ '"' ∧ c ≠ '\\'
  | .escaped, cs => cs ≠ [] ∧ ∀ c ∈ cs, c ≠ '"' ∧ c ≠ '\\'

/-- The spot behind a text that a spot takes. -/
def within : Spot → Spot
  | .gap => .word
  | .word => .word
  | .quoted => .quoted
  | .escaped => .quoted

lemma next_eq_gap_iff {s : Spot} {c : Char} :
    s.next c = .gap ↔ (s = .gap ∨ s = .word) ∧ isGap c := by
  cases s with
  | gap | word | quoted => simp only [next]; split_ifs <;> simp_all
  | escaped => simp [next]

lemma within_ne_gap (s : Spot) : s.within ≠ .gap := by cases s <;> simp [within]

/-- Reading a text leads from a spot to another, and all of the text belongs to the token that is
read there. -/
structure Leads (s : Spot) (cs : List Char) (t : Spot) : Prop where
  after : s.after cs = t
  spelled : ∀ rest, spelledFrom? s (cs ++ rest) = (spelledFrom? t rest).map (growAll cs)

namespace Leads

lemma nil (s : Spot) : Leads s [] s :=
  ⟨rfl, fun rest => by cases hrest : spelledFrom? s rest <;> simp [hrest]⟩

lemma cons {s t u : Spot} {c : Char} {cs : List Char} (hc : s.next c = t) (ht : t ≠ .gap)
    (h : t.Leads cs u) : s.Leads (c :: cs) u := by
  subst hc
  refine ⟨h.after, fun rest => ?_⟩
  rw [List.cons_append, spelledFrom?_grow ht, h.spelled, Option.map_map]
  rfl

lemma stays {s : Spot} (hs : s ≠ .gap) {cs : List Char} (h : ∀ c ∈ cs, s.next c = s) :
    s.Leads cs s := by
  induction cs with
  | nil => exact nil s
  | cons c cs ih =>
    exact cons (h c List.mem_cons_self) hs (ih fun d hd => h d (List.mem_cons_of_mem c hd))

lemma append {s t u : Spot} {cs ds : List Char} (h : s.Leads cs t) (h' : t.Leads ds u) :
    s.Leads (cs ++ ds) u := by
  refine ⟨?_, fun rest => ?_⟩
  · rw [Spot.after, List.foldl_append, ← Spot.after, ← Spot.after, h.after, h'.after]
  · have hgrow : growAll cs ∘ growAll ds = growAll (cs ++ ds) :=
      funext fun ps => (List.foldr_append).symm
    rw [List.append_assoc, h.spelled, h'.spelled, Option.map_map, hgrow]

end Leads

/-- A text that a spot takes changes nothing but the token that it is a part of. -/
lemma Takes.leads {s : Spot} {cs : List Char} (h : s.Takes cs) : s.Leads cs s.within := by
  have hword {cs : List Char} (h : ∀ c ∈ cs, ¬ isGap c ∧ c ≠ '"') : Leads .word cs .word :=
    .stays (by simp) fun c hc => by simp [next, h c hc]
  have hquoted {cs : List Char} (h : ∀ c ∈ cs, c ≠ '"' ∧ c ≠ '\\') : Leads .quoted cs .quoted :=
    .stays (by simp) fun c hc => by simp [next, h c hc]
  cases s with
  | word => exact hword h
  | quoted => exact hquoted h
  | gap =>
    obtain ⟨hne, h⟩ := h
    obtain ⟨c, cs, rfl⟩ := List.exists_cons_of_ne_nil hne
    exact .cons (t := .word) (by simp [next, h c]) (by simp)
      (hword fun d hd => h d (List.mem_cons_of_mem c hd))
  | escaped =>
    obtain ⟨hne, h⟩ := h
    obtain ⟨c, cs, rfl⟩ := List.exists_cons_of_ne_nil hne
    exact .cons (t := .quoted) rfl (by simp)
      (hquoted fun d hd => h d (List.mem_cons_of_mem c hd))

end Spot

/-- The spelling that is being read is a part of the text from its front on. -/
lemma prefix_of_spelledFrom? {s : Spot} {cs q : List Char} {qs : List (List Char)}
    (hs : s ≠ .gap) (h : spelledFrom? s cs = some (q :: qs)) : q <+: cs := by
  induction cs generalizing s q qs with
  | nil => cases s <;> simp_all [spelledFrom?]
  | cons c cs ih =>
    by_cases hnext : s.next c = .gap
    · obtain ⟨hword, hgap⟩ := Spot.next_eq_gap_iff.mp hnext
      obtain rfl := hword.resolve_left hs
      rw [spelledFrom?, if_pos hgap, Option.map_eq_some_iff] at h
      obtain ⟨ps, -, hps⟩ := h
      rw [← (List.cons.inj hps).1]
      exact List.nil_prefix
    · rw [spelledFrom?_grow hnext, Option.map_eq_some_iff] at h
      obtain ⟨ps, hps, hgrow⟩ := h
      obtain ⟨p, rest, rfl⟩ := exists_cons_of_spelledFrom? hnext hps
      rw [grow, List.cons.injEq] at hgrow
      rw [← hgrow.1]
      exact List.cons_prefix_cons.mpr ⟨rfl, ih hnext hps⟩

lemma head?_of_spelledFrom? {s : Spot} {cs q : List Char} {qs : List (List Char)} {c : Char}
    (hs : s ≠ .gap) (h : spelledFrom? s cs = some (q :: qs)) (hc : c ∈ q.head?) : c ∈ cs.head? := by
  obtain ⟨rest, rfl⟩ := prefix_of_spelledFrom? hs h
  exact List.mem_head?_append_of_mem_head? hc

/-! ### Words -/

/-- A token that is spelled like itself: it is not empty and has no gap and no quote. -/
def IsWord (token : String) : Prop := token ≠ "" ∧ ∀ c ∈ token.toList, ¬ isGap c ∧ c ≠ '"'

instance (token : String) : Decidable (IsWord token) :=
  decidable_of_iff (token ≠ "" ∧ token.toList.all fun c => !isGap c && c != '"')
    (by simp [IsWord, ← ne_eq])

lemma IsWord.takes {t : String} (h : IsWord t) : Spot.gap.Takes t.toList :=
  ⟨String.toList_eq_nil_iff.not.mpr h.1, h.2⟩

lemma meaningFrom_of_no_quote {cs : List Char} (h : '"' ∉ cs) : meaningFrom .word cs = cs := by
  induction cs with
  | nil => rfl
  | cons c cs ih =>
    rw [List.mem_cons, not_or] at h
    simp [meaningFrom, Ne.symm h.1, ih h.2]

/-- Without quotes a spelling means itself. -/
lemma meaning_of_no_quote {t : String} (h : '"' ∉ t.toList) : meaning t = t := by
  rw [meaning, meaningFrom_of_no_quote h, String.ofList_toList]

lemma IsWord.meaning {t : String} (h : IsWord t) : meaning t = t :=
  meaning_of_no_quote fun hquote => (h.2 _ hquote).2 rfl

/-- A word in front of other texts with spaces between them is a spelling of its own. -/
lemma spellings?_spaced_cons {t : String} (h : IsWord t) (ts : List String) :
    spellings? (Text.spaced (t :: ts)) = (spellings? (Text.spaced ts)).map (t :: ·) := by
  have ht := h.takes.leads
  have hgrow : ∀ ps : List (List Char),
      (growAll t.toList ([] :: ps)).map String.ofList = t :: ps.map String.ofList := by
    simp [growAll_piece]
  rw [spellings?, spellings?, Text.spaced, Text.spaced, String.toList_intercalate,
    String.toList_intercalate]
  cases ts with
  | nil =>
    have hread := ht.spelled []
    rw [List.append_nil] at hread
    rw [List.map_singleton, List.intercalate_singleton, hread]
    exact congrArg some (hgrow [])
  | cons u us =>
    have hgap (cs : List Char) : spelledFrom? .word (" ".toList ++ cs) =
        (spelledFrom? .gap cs).map ([] :: ·) := by
      simp [spelledFrom?, isGap]
    rw [List.map_cons, List.map_cons, List.intercalate_cons_cons, List.append_assoc, ht.spelled,
      ← List.map_cons, Spot.within, hgap, Option.map_map, Option.map_map, Option.map_map]
    exact congrArg (Option.map · _) (funext hgrow)

/-- A word in front of other texts with spaces between them is read back. -/
lemma tokens?_spaced_cons {t : String} (h : IsWord t) (ts : List String) :
    tokens? (Text.spaced (t :: ts)) = (tokens? (Text.spaced ts)).map (t :: ·) := by
  rw [tokens?_eq_map_meaning, tokens?_eq_map_meaning, spellings?_spaced_cons h, Option.map_map,
    Option.map_map]
  refine congrArg (Option.map · _) (funext fun ws => ?_)
  rw [Function.comp_apply, Function.comp_apply, List.map_cons, h.meaning]

/-- Words with single spaces between them are read back. -/
theorem tokens?_spaced {ts : List String} (h : ∀ t ∈ ts, IsWord t) :
    tokens? (Text.spaced ts) = some ts := by
  induction ts with
  | nil => rfl
  | cons t ts ih =>
    rw [List.forall_mem_cons] at h
    rw [tokens?_spaced_cons h.1, ih h.2, Option.map_some]

/-! ### Commands without quotes -/

/-- Without quotes the reading stands between tokens or in a token. -/
lemma Spot.after_of_no_quote {s : Spot} (hs : s = .gap ∨ s = .word) {cs : List Char}
    (h : '"' ∉ cs) : s.after cs = .gap ∨ s.after cs = .word := by
  induction cs generalizing s with
  | nil => exact hs
  | cons c cs ih =>
    simp only [List.mem_cons, not_or] at h
    refine ih ?_ h.2
    rcases hs with rfl | rfl <;> by_cases hg : isGap c <;> simp [next, hg, Ne.symm h.1]

/-- Without quotes a token is spelled like itself. -/
lemma tokensFrom?_of_no_quote {p : Place} (hp : p ≠ .quoted) {cs : List Char} (h : '"' ∉ cs) :
    tokensFrom? p cs = spelledFrom? p.spot cs := by
  induction cs generalizing p with
  | nil => cases p <;> rfl
  | cons c cs ih =>
    have hc : c ≠ '"' := fun heq => h (heq ▸ List.mem_cons_self)
    have hcs : '"' ∉ cs := fun hmem => h (List.mem_cons_of_mem c hmem)
    have hgap := ih (p := .gap) (by simp) hcs
    have hword := ih (p := .word) (by simp) hcs
    cases p with
    | gap | word =>
      by_cases hg : isGap c <;> simp_all [tokensFrom?, spelledFrom?, Spot.next]
    | quoted => contradiction

lemma tokens?_of_no_quote {command : String} (h : '"' ∉ command.toList) :
    tokens? command = spellings? command := by
  rw [tokens?, spellings?, tokensFrom?_of_no_quote (by simp) h]
  rfl

/-- What is spelled without quotes is made of words. -/
lemma takes_of_spelledFrom? {cs : List Char} (h : '"' ∉ cs) :
    (∀ ps, spelledFrom? .gap cs = some ps → ∀ p ∈ ps, Spot.gap.Takes p) ∧
    ∀ p ps, spelledFrom? .word cs = some (p :: ps) →
      Spot.word.Takes p ∧ ∀ q ∈ ps, Spot.gap.Takes q := by
  induction cs with
  | nil => simp [spelledFrom?, Spot.Takes]
  | cons c cs ih =>
    have hc : c ≠ '"' := fun heq => h (heq ▸ List.mem_cons_self)
    obtain ⟨ihgap, ihword⟩ := ih fun hmem => h (List.mem_cons_of_mem c hmem)
    by_cases hg : isGap c
    · simp only [spelledFrom?, if_pos hg, Option.map_eq_some_iff]
      refine ⟨ihgap, ?_⟩
      rintro p ps ⟨qs, hqs, heq⟩
      cases heq
      exact ⟨by simp [Spot.Takes], ihgap _ hqs⟩
    · have hnext : Spot.next .gap c = .word ∧ Spot.next .word c = .word := by
        simp [Spot.next, hg, hc]
      have hgrown : ∀ ps, (spelledFrom? .word cs).map (grow c) = some ps →
          ∃ q qs, ps = (c :: q) :: qs ∧ Spot.word.Takes (c :: q) ∧
            ∀ q ∈ qs, Spot.gap.Takes q := by
        intro ps hps
        obtain ⟨qs, hqs, rfl⟩ := Option.map_eq_some_iff.mp hps
        obtain ⟨q, qs, rfl⟩ := exists_cons_of_spelledFrom? (by simp) hqs
        obtain ⟨hq, hqs⟩ := ihword q qs hqs
        exact ⟨q, qs, rfl, List.forall_mem_cons.mpr ⟨⟨hg, hc⟩, hq⟩, hqs⟩
      simp only [spelledFrom?, if_neg hg, hnext]
      constructor
      · intro ps hps
        obtain ⟨q, qs, rfl, hq, hqs⟩ := hgrown ps hps
        exact List.forall_mem_cons.mpr ⟨⟨List.cons_ne_nil c q, hq⟩, hqs⟩
      · intro p ps hps
        obtain ⟨q, qs, heq, hq, hqs⟩ := hgrown _ hps
        cases heq
        exact ⟨hq, hqs⟩

/-- The tokens of a command without quotes are words. -/
lemma isWord_of_tokens? {command : String} (h : '"' ∉ command.toList) {ts : List String}
    (hts : tokens? command = some ts) {t : String} (ht : t ∈ ts) : IsWord t := by
  rw [tokens?_of_no_quote h, spellings?, Option.map_eq_some_iff] at hts
  obtain ⟨ps, hps, rfl⟩ := hts
  obtain ⟨p, hp, rfl⟩ := List.mem_map.mp ht
  obtain ⟨hne, hword⟩ := (takes_of_spelledFrom? h).1 ps hps p hp
  exact ⟨by simpa using hne, by simpa using hword⟩

end Cutscene.Script
