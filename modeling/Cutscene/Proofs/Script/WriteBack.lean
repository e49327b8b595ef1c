import Cutscene.Proofs.Script.Agreement
import Cutscene.Proofs.Script.Quoting

/-!
# A Token Written Back

A command that rewrites itself puts a token of its own into the new text, and does so as the token
is, without quotes. A word is read back. Nothing else is: without quotes a token with gaps falls
apart and an empty one is lost, and a quote of the token opens a run that swallows the gap behind
it, after which the quotes of the text no longer add up.
-/

namespace Cutscene.Script

open Text (grow escape unescape encode)

/-! ### Counting quotes -/

lemma unescape_sublist (cs : List Char) : (unescape cs).Sublist cs := by
  fun_induction unescape cs with
  | case1 => exact .slnil
  | case2 rest ih | case3 rest ih => exact .cons _ (ih.cons_cons _)
  | case4 c rest _ _ ih => exact (ih.cons_cons c).cons_cons _
  | case5 c rest _ _ _ ih => exact ih.cons_cons c

lemma flatten_grow (c : Char) (ts : List (List Char)) : (grow c ts).flatten = c :: ts.flatten := by
  cases ts <;> rfl

lemma flatten_growAll (cs : List Char) (ts : List (List Char)) :
    (growAll cs ts).flatten = cs ++ ts.flatten := by
  induction cs with
  | nil => rfl
  | cons c cs ih =>
    have hstep : growAll (c :: cs) ts = grow c (growAll cs ts) := rfl
    rw [hstep, flatten_grow, ih, List.cons_append]

/-- A character that is no quote ends a token, or is a part of one or of none. -/
lemma tokensFrom?_plain {c : Char} (hquote : c ≠ '"') {p : Place} (hp : p ≠ .quoted)
    {cs : List Char} {ts : List (List Char)} (hts : tokensFrom? p (c :: cs) = some ts) :
    ∃ q us, q ≠ .quoted ∧ tokensFrom? q cs = some us ∧
      ts.flatten.count '"' = us.flatten.count '"' := by
  have hgrown : ∀ us, (grow c us).flatten.count '"' = us.flatten.count '"' := fun us => by
    rw [flatten_grow, List.count_cons_of_ne hquote]
  cases p with
  | quoted => exact absurd rfl hp
  | gap =>
    rw [tokensFrom?] at hts
    split at hts
    · exact ⟨.gap, ts, by simp, hts, rfl⟩
    · obtain ⟨us, hus, rfl⟩ := Option.map_eq_some_iff.mp hts
      exact ⟨.word, us, by simp, hus, hgrown us⟩
  | word =>
    rw [tokensFrom?] at hts
    split at hts
    · obtain ⟨us, hus, rfl⟩ := Option.map_eq_some_iff.mp hts
      exact ⟨.gap, us, by simp, hus, rfl⟩
    · obtain ⟨us, hus, rfl⟩ := Option.map_eq_some_iff.mp hts
      exact ⟨.word, us, by simp, hus, hgrown us⟩

/-- The quotes in tokens come from quotes of the text, and of these a closed run takes two for
itself. -/
lemma Balanced.count_quote {cs : List Char} (h : Balanced cs) {p : Place} (hp : p ≠ .quoted)
    {ts : List (List Char)} (hts : tokensFrom? p cs = some ts) :
    ts.flatten.count '"' + (if '"' ∈ cs then 2 else 0) ≤ cs.count '"' := by
  induction h generalizing p ts with
  | nil =>
    cases p with
    | gap | word =>
      obtain rfl := Option.some.inj hts
      simp
    | quoted => exact absurd rfl hp
  | @char c cs hquote hcs ih =>
    obtain ⟨q, us, hq, hus, hcount⟩ := tokensFrom?_plain hquote hp hts
    rw [hcount, List.count_cons_of_ne hquote]
    simpa [Ne.symm hquote] using ih hq hus
  | @run inner cs hinner hcs ih =>
    rw [tokensFrom?_quote hp, tokensFrom?_run hinner, Option.map_eq_some_iff] at hts
    obtain ⟨us, hus, rfl⟩ := hts
    have hinside := (unescape_sublist inner).count_le '"'
    have hbehind := ih (p := .word) (by simp) hus
    rw [flatten_growAll, List.count_append]
    simp only [List.mem_cons, true_or, if_true, List.count_cons_self, List.count_append]
    omega

lemma balanced_of_tokensFrom? {p : Place} (hp : p ≠ .quoted) {cs : List Char}
    {ts : List (List Char)} (hts : tokensFrom? p cs = some ts) : Balanced cs := by
  have hsome := Option.isSome_of_eq_some hts
  rw [tokensFrom?_eq_map_meanings, Option.isSome_map] at hsome
  cases p with
  | gap => exact (isSome_spelledFrom? cs).1.mp hsome
  | word => exact (isSome_spelledFrom? cs).2.mp hsome
  | quoted => exact absurd rfl hp

/-- What stands in front of the first quote has no part in this. -/
lemma tokensFrom?_front {front cs : List Char} (hfront : '"' ∉ front) {p : Place} (hp : p ≠ .quoted)
    {ts : List (List Char)} (hts : tokensFrom? p (front ++ cs) = some ts) :
    ∃ q us, q ≠ .quoted ∧ tokensFrom? q cs = some us ∧
      ts.flatten.count '"' = us.flatten.count '"' := by
  induction front generalizing p ts with
  | nil => exact ⟨p, ts, hp, hts, rfl⟩
  | cons c front ih =>
    rw [List.mem_cons, not_or] at hfront
    obtain ⟨q, us, hq, hus, hcount⟩ := tokensFrom?_plain (Ne.symm hfront.1) hp hts
    obtain ⟨q', vs, hq', hvs, hcount'⟩ := ih hfront.2 hq hus
    exact ⟨q', vs, hq', hvs, hcount.trans hcount'⟩

/-! ### A token that is no word -/

/-- A quote behind a gap is not protected. -/
lemma not_protected_gap (front back : List Char) : ¬ Protected (front ++ ' ' :: '"' :: back) := by
  have hquote : ∀ back, ¬ Protected ('"' :: back) := by
    intro back h
    cases h with
    | char hquote => exact hquote rfl
  intro h
  generalize hall : front ++ ' ' :: '"' :: back = inner at h
  induction h generalizing front with
  | nil => simp at hall
  | @pair c inner hinner ih =>
    rcases front with _ | ⟨d, _ | ⟨e, front⟩⟩
    · simp at hall
    · obtain ⟨-, -, rfl⟩ : d = '\\' ∧ ' ' = c ∧ '"' :: back = inner := by simpa using hall
      exact hquote back hinner
    · exact ih front (by simpa using (List.cons.inj (List.cons.inj hall).2).2)
  | @char c inner _ _ hinner ih =>
    rcases front with _ | ⟨d, front⟩
    · obtain ⟨-, rfl⟩ : ' ' = c ∧ '"' :: back = inner := by simpa using hall
      exact hquote back hinner
    · exact ih front (List.cons.inj hall).2

/-- A run that a quote in front of a quoted text opens does not last to the end of the text, so that
the end of the text opens another. -/
lemma quote_mem_of_opened {front cs inner back : List Char} (hinner : Protected inner)
    (hopen : front ++ ' ' :: encode cs = inner ++ '"' :: back) : '"' ∈ back := by
  have hshape : front ++ ' ' :: encode cs = (front ++ ' ' :: '"' :: escape cs) ++ ['"'] := by
    simp [encode]
  rcases List.eq_nil_or_concat back with rfl | ⟨rest, c, rfl⟩
  · rw [hshape] at hopen
    obtain ⟨rfl, -⟩ := List.append_inj' hopen rfl
    exact absurd hinner (not_protected_gap front (escape cs))
  · rw [hshape, List.concat_eq_append, ← List.cons_append, ← List.append_assoc] at hopen
    obtain ⟨-, hlast⟩ := List.append_inj' hopen rfl
    obtain rfl : '"' = c := by simpa using hlast
    simp

lemma count_quote_escape (cs : List Char) : (escape cs).count '"' = cs.count '"' := by
  induction cs with
  | nil => rfl
  | cons c cs ih =>
    rw [escape]
    split_ifs with hmark
    · rw [List.count_cons_of_ne (by decide), List.count_cons, List.count_cons, ih]
    · rw [List.count_cons, List.count_cons, ih]

/-- A token with a quote is not read back in front of a quoted text: the quote opens a run, and
behind the run there is another one, while the tokens that are wanted leave two quotes only for
both. -/
lemma tokensFrom?_ne_of_quote {token : List Char} (hquote : '"' ∈ token) (text : List Char) :
    tokensFrom? .gap (token ++ ' ' :: encode text) ≠ some [token, text] := by
  intro hread
  obtain ⟨front, rest, rfl, hfront⟩ := List.eq_append_cons_of_mem hquote
  rw [List.append_assoc, List.cons_append] at hread
  obtain ⟨p, us, hp, hus, hcount⟩ := tokensFrom?_front hfront (by simp) hread
  obtain ⟨inner, back, hinner, hback, hopen⟩ :=
    balanced_quote.mp (balanced_of_tokensFrom? hp hus)
  rw [hopen, tokensFrom?_quote hp, tokensFrom?_run hinner, Option.map_eq_some_iff] at hus
  obtain ⟨vs, hvs, rfl⟩ := hus
  have hbehind := hback.count_quote (p := .word) (by simp) hvs
  rw [if_pos (quote_mem_of_opened hinner hopen)] at hbehind
  have hinside := (unescape_sublist inner).count_le '"'
  have hsource :
      rest.count '"' + (text.count '"' + 2) = inner.count '"' + (back.count '"' + 1) := by
    simpa [encode, count_quote_escape] using congrArg (List.count '"') hopen
  simp only [flatten_growAll, List.flatten_cons, List.flatten_nil, List.append_nil,
    List.count_append, List.count_cons_self, List.count_eq_zero.mpr hfront] at hcount
  omega

/-- Outside of quotes, a token reaches no further than to the next gap. -/
lemma gapless_of_word {cs rest t : List Char} {ts : List (List Char)} (hquote : '"' ∉ cs)
    (hread : tokensFrom? .word (cs ++ ' ' :: rest) = some (t :: ts)) : ∀ c ∈ t, ¬ isGap c := by
  have hends {t : List Char} {ts : List (List Char)} {us : Option (List (List Char))}
      (hus : us.map ([] :: ·) = some (t :: ts)) : ∀ c ∈ t, ¬ isGap c := by
    obtain ⟨vs, -, heq⟩ := Option.map_eq_some_iff.mp hus
    rw [← (List.cons.inj heq).1]
    exact fun c hc => absurd hc List.not_mem_nil
  induction cs generalizing t ts with
  | nil => exact hends hread
  | cons c cs ih =>
    rw [List.mem_cons, not_or] at hquote
    by_cases hgap : isGap c
    · rw [List.cons_append, tokensFrom?, if_pos hgap] at hread
      exact hends hread
    · rw [List.cons_append, tokensFrom?, if_neg hgap, if_neg (Ne.symm hquote.1)] at hread
      obtain ⟨us, hus, hgrow⟩ := Option.map_eq_some_iff.mp hread
      rcases us with _ | ⟨u, us⟩
      · obtain ⟨rfl, -⟩ := List.cons.inj hgrow
        simpa using hgap
      · obtain ⟨rfl, rfl⟩ := List.cons.inj hgrow
        exact List.forall_mem_cons.mpr ⟨hgap, ih hquote.2 hus⟩

/-- A token that is read without quotes in front of a quoted text is not empty and has no gap. -/
lemma gapless_of_gap {cs text t : List Char} (hquote : '"' ∉ cs)
    (hread : tokensFrom? .gap (cs ++ ' ' :: encode text) = some [t, text]) :
    t ≠ [] ∧ ∀ c ∈ t, ¬ isGap c := by
  induction cs with
  | nil =>
    have hone := tokensFrom?_encode (p := .gap) (by simp) text []
    rw [List.nil_append, tokensFrom?, if_pos (by rfl), ← List.append_nil (encode text),
      hone] at hread
    simp [tokensFrom?, growAll_piece] at hread
  | cons c cs ih =>
    rw [List.mem_cons, not_or] at hquote
    by_cases hgap : isGap c
    · rw [List.cons_append, tokensFrom?, if_pos hgap] at hread
      exact ih hquote.2 hread
    · rw [List.cons_append, tokensFrom?, if_neg hgap, if_neg (Ne.symm hquote.1)] at hread
      obtain ⟨us, hus, hgrow⟩ := Option.map_eq_some_iff.mp hread
      rcases us with _ | ⟨u, us⟩
      · simp [grow] at hgrow
      · obtain ⟨rfl, -⟩ := List.cons.inj hgrow
        exact ⟨by simp, List.forall_mem_cons.mpr ⟨hgap, gapless_of_word hquote.2 hus⟩⟩

/-- **Words alone are read back.** An actor token that is written into a `speak` in front of a text
is read back with the text exactly if it is a word. -/
theorem tokens?_speakCommand_iff {actor text : String} :
    tokens? (Commands.speakCommand actor text) = some ["speak", actor, text] ↔ IsWord actor := by
  refine ⟨fun hread => ?_, fun h => tokens?_speakCommand h text⟩
  have hspace : ∀ c ∈ [' '], isGap c := by simp [isGap]
  have hshape : (Commands.speakCommand actor text).toList =
      "speak".toList ++ ([' '] ++ (actor.toList ++ ' ' :: encode text.toList)) := by
    simp [Commands.speakCommand, toString]
  have hspeak : IsWord "speak" := by decide
  rw [tokens?, hshape, hspeak.tokensFrom?, tokensFrom?_ends (by simp) hspace, Option.map_map,
    Option.map_map, Option.map_eq_some_iff] at hread
  obtain ⟨ts, hts, hmap⟩ := hread
  have htokens : ts = [actor.toList, text.toList] := by
    have hlists := congrArg (List.map String.toList) hmap
    simpa [growAll_piece] using hlists
  rw [htokens] at hts
  by_cases hquote : '"' ∈ actor.toList
  · exact absurd hts (tokensFrom?_ne_of_quote hquote text.toList)
  · obtain ⟨hne, hgapless⟩ := gapless_of_gap hquote hts
    exact ⟨String.toList_eq_nil_iff.not.mp hne,
      fun c hc => ⟨hgapless c hc, fun heq => hquote (heq ▸ hc)⟩⟩

end Cutscene.Script
