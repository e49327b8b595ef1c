import Cutscene.Commands.Dialogue
import Cutscene.Proofs.Script.Spelling

/-!
# Quoting Round-Trips

The reading of a command skips a closed quoted run in one step and takes what the inside stands for
(`tokensFrom?_run`). A text in quotes, with its quotes and backslashes protected, is such a run and
stands for the text, whatever is in it, so that a line which the game has for a state is spoken as
it is.
-/

namespace Cutscene.Script

open Text (escape unescape encode unquote)

/-! ### Quoted runs of a command -/

lemma unescape_pair {c : Char} (hquote : c ≠ '"') (hback : c ≠ '\\') (cs : List Char) :
    unescape ('\\' :: c :: cs) = '\\' :: c :: unescape cs := by
  rw [unescape]
  · exact hquote
  · exact hback

lemma unescape_char {c : Char} (hback : c ≠ '\\') (cs : List Char) :
    unescape (c :: cs) = c :: unescape cs := by
  rw [unescape] <;> simp [hback]

lemma tokensFrom?_pair {c : Char} (hquote : c ≠ '"') (hback : c ≠ '\\') (cs : List Char) :
    tokensFrom? .quoted ('\\' :: c :: cs) = (tokensFrom? .quoted cs).map (growAll ['\\', c]) := by
  rw [tokensFrom?]
  · rfl
  · exact hquote
  · exact hback

lemma tokensFrom?_char {c : Char} (hquote : c ≠ '"') (hback : c ≠ '\\') (cs : List Char) :
    tokensFrom? .quoted (c :: cs) = (tokensFrom? .quoted cs).map (Text.grow c) := by
  rw [tokensFrom?] <;> simp [hquote, hback]

lemma map_growAll_nil (ts : Option (List (List Char))) : ts.map (growAll []) = ts := by
  cases ts <;> rfl

/-- A closed run adds to its token what its inside stands for. -/
lemma tokensFrom?_run {inner : List Char} (h : Protected inner) (cs : List Char) :
    tokensFrom? .quoted (inner ++ '"' :: cs) =
      (tokensFrom? .word cs).map (growAll (unescape inner)) := by
  induction h with
  | nil => simp [tokensFrom?, unescape, map_growAll_nil]
  | @pair c inner _ ih =>
    rw [List.cons_append, List.cons_append]
    by_cases hquote : c = '"'
    · subst hquote
      rw [tokensFrom?, ih, unescape, Option.map_map]
      rfl
    by_cases hback : c = '\\'
    · subst hback
      rw [tokensFrom?, ih, unescape, Option.map_map]
      rfl
    · rw [tokensFrom?_pair hquote hback, ih,
        unescape_pair hquote hback, Option.map_map]
      rfl
  | @char c inner hquote hback _ ih =>
    rw [List.cons_append, tokensFrom?_char hquote hback, ih, unescape_char hback, Option.map_map]
    rfl

/-- A quote opens a run of the token it stands in, or of the token it begins. -/
lemma tokensFrom?_quote {p : Place} (hp : p ≠ .quoted) (cs : List Char) :
    tokensFrom? p ('"' :: cs) = tokensFrom? .quoted cs := by
  cases p with
  | gap | word => simp [tokensFrom?, isGap]
  | quoted => exact absurd rfl hp

/-- Gaps in front of a token are skipped. -/
lemma tokensFrom?_gap {gap : List Char} (h : ∀ c ∈ gap, isGap c) (cs : List Char) :
    tokensFrom? .gap (gap ++ cs) = tokensFrom? .gap cs := by
  induction gap with
  | nil => rfl
  | cons c gap ih =>
    rw [List.cons_append, tokensFrom?, if_pos (h c List.mem_cons_self),
      ih fun d hd => h d (List.mem_cons_of_mem c hd)]

/-- A gap ends the token in front of it. -/
lemma tokensFrom?_ends {gap : List Char} (hne : gap ≠ []) (h : ∀ c ∈ gap, isGap c)
    (cs : List Char) :
    tokensFrom? .word (gap ++ cs) = (tokensFrom? .gap cs).map ([] :: ·) := by
  obtain ⟨c, gap, rfl⟩ := List.exists_cons_of_ne_nil hne
  rw [List.cons_append, tokensFrom?, if_pos (h c List.mem_cons_self),
    tokensFrom?_gap fun d hd => h d (List.mem_cons_of_mem c hd)]

/-- A word adds itself to its token. -/
lemma tokensFrom?_word {w : List Char} (h : ∀ c ∈ w, ¬ isGap c ∧ c ≠ '"') (cs : List Char) :
    tokensFrom? .word (w ++ cs) = (tokensFrom? .word cs).map (growAll w) := by
  induction w with
  | nil => rw [List.nil_append, map_growAll_nil]
  | cons c w ih =>
    obtain ⟨hgap, hquote⟩ := h c List.mem_cons_self
    rw [List.cons_append, tokensFrom?, if_neg hgap, if_neg hquote,
      ih fun d hd => h d (List.mem_cons_of_mem c hd), Option.map_map]
    rfl

/-- A word begins a token and adds itself to it. -/
lemma IsWord.tokensFrom? {t : String} (h : IsWord t) (cs : List Char) :
    tokensFrom? .gap (t.toList ++ cs) = (tokensFrom? .word cs).map (growAll t.toList) := by
  rw [← tokensFrom?_word h.2]
  obtain ⟨c, w, hw⟩ := List.exists_cons_of_ne_nil (String.toList_eq_nil_iff.not.mpr h.1)
  obtain ⟨hgap, hquote⟩ := h.2 c (by simp [hw])
  rw [hw, List.cons_append, Script.tokensFrom?, if_neg hgap, if_neg hquote, Script.tokensFrom?,
    if_neg hgap, if_neg hquote]

/-! ### Texts in quotes -/

/-- A backslash in front of every occurrence of a character. -/
def guarded (mark : Char) (cs : List Char) : List Char :=
  cs.flatMap fun c => if c = mark then ['\\', c] else [c]

/-- Protecting every quote and backslash is to double the backslashes first, and then to put one in
front of every quote. -/
lemma escape_eq_guarded (cs : List Char) : escape cs = guarded '"' (guarded '\\' cs) := by
  induction cs with
  | nil => rfl
  | cons c cs ih =>
    have hstep : guarded '"' (guarded '\\' (c :: cs)) =
        guarded '"' (if c = '\\' then ['\\', c] else [c]) ++ guarded '"' (guarded '\\' cs) := by
      simp [guarded]
    rw [hstep, ← ih, escape]
    by_cases hback : c = '\\'
    · subst hback
      simp [guarded]
    by_cases hquote : c = '"'
    · subst hquote
      simp [guarded]
    · simp [guarded, hback, hquote]

lemma protected_escape (cs : List Char) : Protected (escape cs) := by
  induction cs with
  | nil => exact .nil
  | cons c cs ih =>
    rw [escape]
    split_ifs with hmark
    · exact .pair c ih
    · rw [not_or] at hmark
      exact .char hmark.1 hmark.2 ih

/-- A text in quotes adds to its token the text. -/
lemma tokensFrom?_encode {p : Place} (hp : p ≠ .quoted) (cs rest : List Char) :
    tokensFrom? p (encode cs ++ rest) = (tokensFrom? .word rest).map (growAll cs) := by
  have hshape : encode cs ++ rest = '"' :: (escape cs ++ '"' :: rest) := by simp [encode]
  rw [hshape, tokensFrom?_quote hp, tokensFrom?_run (protected_escape cs),
    Text.unescape_escape]

/-- The pieces stand in the text in their order, with spaces or tabs between every two of them. -/
inductive Joined : List (List Char) → List Char → Prop
  | nil : Joined [] []
  | single (p : List Char) : Joined [p] p
  | cons (p : List Char) {q text : List Char} {ps : List (List Char)} (gap : List Char) :
    gap ≠ [] → (∀ c ∈ gap, isGap c) → Joined (q :: ps) text →
      Joined (p :: q :: ps) (p ++ (gap ++ text))

/-- Joined texts in quotes are read back, each as one token. -/
lemma tokensFrom?_joined {ts : List (List Char)} {text : List Char}
    (h : Joined (ts.map encode) text) : tokensFrom? .gap text = some ts := by
  induction ts generalizing text with
  | nil =>
    cases h
    rfl
  | cons t ts ih =>
    cases ts with
    | nil =>
      cases h
      have hread := tokensFrom?_encode (p := .gap) (by simp) t []
      simpa [tokensFrom?, growAll_piece] using hread
    | cons u us =>
      cases h with
      | cons _ gap hne hgap hjoined =>
        have hrest := ih hjoined
        rw [tokensFrom?_encode (by simp), tokensFrom?_ends hne hgap, hrest]
        simp [growAll_piece]

lemma trimChars_encode (cs : List Char) : Text.trimChars (encode cs) = encode cs := by
  have hfront (cs : List Char) : Text.trimFront ('"' :: cs) = '"' :: cs := by
    rw [Text.trimFront, List.dropWhile_cons_of_neg (by decide)]
  have hback : (encode cs).reverse = '"' :: ((escape cs).reverse ++ ['"']) := by simp [encode]
  rw [Text.trimChars, Text.trimBack, encode, hfront, ← encode, hback, hfront, ← hback,
    List.reverse_reverse]

/-- The quotes around a text are taken off, and what they protect stands for itself again. -/
lemma unquote_encode (t : String) : unquote (String.ofList (encode t.toList)) = t := by
  have hinside : Text.inside? (encode t.toList) = some (escape t.toList) := by
    simp [encode, Text.inside?]
  simp only [unquote, String.toList_ofList, trimChars_encode, hinside, Text.unescape_escape,
    String.ofList_toList]

/-- The line of an actor is read back as it is. -/
theorem tokens?_speakCommand {actor : String} (h : IsWord actor) (text : String) :
    tokens? (Commands.speakCommand actor text) = some ["speak", actor, text] := by
  have hspace : ∀ c ∈ [' '], isGap c := by simp [isGap]
  have hshape : (Commands.speakCommand actor text).toList =
      "speak".toList ++ ([' '] ++ (actor.toList ++ ([' '] ++ (encode text.toList ++ [])))) := by
    simp [Commands.speakCommand, toString]
  have hspeak : IsWord "speak" := by decide
  rw [tokens?, hshape, hspeak.tokensFrom?, tokensFrom?_ends (by simp) hspace, h.tokensFrom?,
    tokensFrom?_ends (by simp) hspace, tokensFrom?_encode (by simp)]
  simp [tokensFrom?, growAll_piece]

/-- **Quoting round-trips.** A quoted text is the text with every backslash doubled, and then a
backslash in front of every quote, between two quotes. However many such texts are joined by spaces
and tabs, the command has just these texts as its tokens, and one of them alone is unquoted to its
text. -/
theorem quoting_round_trips :
    (∀ cs, encode cs = '"' :: (guarded '"' (guarded '\\' cs) ++ ['"'])) ∧
    (∀ (ts : List String) (text : List Char), Joined (ts.map fun t => encode t.toList) text →
      tokens? (String.ofList text) = some ts) ∧
    ∀ t : String, unquote (String.ofList (encode t.toList)) = t := by
  refine ⟨fun cs => by rw [encode, escape_eq_guarded], fun ts text h => ?_, unquote_encode⟩
  have hread : tokensFrom? .gap text = some (ts.map String.toList) :=
    tokensFrom?_joined (by rwa [List.map_map])
  rw [tokens?, String.toList_ofList, hread, Option.map_some, List.map_map]
  simp [Function.comp_def]

/-- An empty text, blanks, and one with a slash that ends in a backslash and a quote. -/
theorem quoting_round_trips_hard :
    tokens? "\"\" \t\" \t\n\"\t\"a/b\\\\\\\"\"" = some ["", " \t\n", "a/b\\\""] ∧
    unquote "\"a/b\\\\\\\"\"" = "a/b\\\"" := by
  obtain ⟨-, htokens, hunquote⟩ := quoting_round_trips
  have hgap : ∀ c ∈ [' ', '\t'], isGap c := by simp [isGap]
  have htab : ∀ c ∈ ['\t'], isGap c := by simp [isGap]
  have hjoined := Joined.cons (encode "".toList) [' ', '\t'] (by simp) hgap
    (.cons (encode " \t\n".toList) ['\t'] (by simp) htab (.single (encode "a/b\\\"".toList)))
  exact ⟨htokens ["", " \t\n", "a/b\\\""] _ hjoined, hunquote "a/b\\\""⟩

end Cutscene.Script
