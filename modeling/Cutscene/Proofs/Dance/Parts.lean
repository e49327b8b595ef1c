import Cutscene.Proofs.Dance.Tokens

/-!
# What a Command Contributes

The script of a dance is put together from what the commands of the template contribute, each in its
place (`assemble_eq`). The rules for frames look at the front of a command only, so that they leave
alone whatever begins with another letter than their own commands do, and no dancer is written over
that letter (`reframe_substitute`).
-/

namespace Cutscene

namespace Text

/-- The first piece of a text begins as the text does. -/
lemma head?_of_pieces {mark : Char} {text p : String} {ps : List String} {c : Char}
    (h : pieces mark text = p :: ps) (hp : p.toList.head? = some c) :
    text.toList.head? = some c := by
  rw [pieces] at h
  cases hcs : text.toList with
  | nil =>
    rw [hcs, cutChars, List.map_singleton, List.cons.injEq] at h
    rw [← h.1] at hp
    cases hp
  | cons d rest =>
    rw [hcs, cutChars] at h
    split at h
    · rw [List.map_cons, List.cons.injEq] at h
      rw [← h.1] at hp
      cases hp
    · cases hrest : cutChars mark rest <;> rw [hrest, grow, List.map_cons, List.cons.injEq] at h <;>
        simpa [← h.1] using hp

/-- Texts with spaces between them begin as the first of them does. -/
lemma head?_spaced_cons {t : String} (ht : t ≠ "") (ts : List String) :
    (spaced (t :: ts)).toList.head? = t.toList.head? := by
  have hne : t.toList ≠ [] := String.toList_eq_nil_iff.not.mpr ht
  rw [spaced, String.toList_intercalate, List.map_cons]
  cases ts with
  | nil => rw [List.map_nil, List.intercalate_singleton]
  | cons u us =>
    rw [List.map_cons, List.intercalate_cons_cons, List.append_assoc,
      List.head?_append_of_ne_nil _ hne]

end Text

namespace Script

/-- A command begins with a gap, with a quote, or as its first token does. -/
lemma head?_of_tokens? {command name : String} {body : List String}
    (h : tokens? command = some (name :: body)) {c : Char} (hc : command.toList.head? = some c) :
    isGap c ∨ c = '"' ∨ name.toList.head? = some c := by
  obtain ⟨rest, hcs⟩ : ∃ rest, command.toList = c :: rest := List.head?_eq_some_iff.mp hc
  rw [tokens?, hcs, tokensFrom?] at h
  by_cases hgap : isGap c
  · exact .inl hgap
  · by_cases hquote : c = '"'
    · exact .inr (.inl hquote)
    · rw [if_neg hgap, if_neg hquote, Option.map_map, Option.map_eq_some_iff] at h
      obtain ⟨ts, -, hts⟩ := h
      cases ts <;>
        simp only [Function.comp_apply, Text.grow, List.map_cons, List.cons.injEq] at hts <;>
        exact .inr (.inr (by rw [← hts.1, String.toList_ofList, List.head?_cons]))

/-- What is found in the runs of a command is found in those of its spellings. -/
lemma flatMap_runs_spelledFrom? {β : Type} {g : List Char → List β} (hg : Text.Additive g)
    (hgap : ∀ c, isGap c → g [c] = []) (cs : List Char) :
    ∀ s ps, spelledFrom? s cs = some ps →
      (Text.runs cs).flatMap g = ps.flatMap fun p => (Text.runs p).flatMap g := by
  have hnil : (Text.runs []).flatMap g = [] := rfl
  induction cs using Text.wordInduction with
  | nil =>
    intro s ps hps
    cases s with
    | gap | word =>
      obtain rfl := Option.some.inj hps
      rfl
    | quoted | escaped => cases hps
  | other c cs hc ih =>
    intro s ps hps
    rw [Text.flatMap_runs_cons hg hc]
    by_cases hnext : s.next c = .gap
    · obtain ⟨hs, hc⟩ := Spot.next_eq_gap_iff.mp hnext
      rw [hgap c hc, List.nil_append]
      rcases hs with rfl | rfl <;> rw [spelledFrom?, if_pos hc] at hps
      · exact ih .gap ps hps
      · obtain ⟨qs, hqs, rfl⟩ := Option.map_eq_some_iff.mp hps
        rw [ih .gap qs hqs, List.flatMap_cons, hnil, List.nil_append]
    · rw [spelledFrom?_grow hnext] at hps
      obtain ⟨qs, hqs, rfl⟩ := Option.map_eq_some_iff.mp hps
      obtain ⟨q, qs, rfl⟩ := exists_cons_of_spelledFrom? hnext hqs
      rw [ih _ _ hqs, Text.grow, List.flatMap_cons, List.flatMap_cons, Text.flatMap_runs_cons hg hc,
        List.append_assoc]
  | word w cs hw hword hcs ih =>
    intro s ps hps
    rw [(Dance.takes_word s hw hword).leads.spelled] at hps
    obtain ⟨qs, hqs, rfl⟩ := Option.map_eq_some_iff.mp hps
    obtain ⟨q, qs, rfl⟩ := exists_cons_of_spelledFrom? s.within_ne_gap hqs
    have hq : ∀ d ∈ q.head?, ¬ Text.isWord d := fun d hd =>
      hcs d (head?_of_spelledFrom? s.within_ne_gap hqs hd)
    rw [growAll_piece, Text.flatMap_runs_word hw hword hcs, ih _ _ hqs, List.flatMap_cons,
      List.flatMap_cons, Text.flatMap_runs_word hw hword hq, List.append_assoc]

end Script

/-- A command names the slots that its spellings name. -/
lemma SlotName.allIn_of_spellings? {command : String} {ws : List String}
    (h : Script.spellings? command = some ws) : allIn command = ws.flatMap allIn := by
  have hgap (c : Char) (hc : Script.isGap c) : (ofRun? [c]).toList = [] := by
    rcases (by simpa [Script.isGap] using hc : c = ' ' ∨ c = '\t') with rfl | rfl <;> rfl
  obtain ⟨ps, hps, rfl⟩ := Option.map_eq_some_iff.mp h
  rw [allIn_eq, Script.flatMap_runs_spelledFrom? additive_ofRun? hgap _ .gap ps hps,
    List.flatMap_map]
  simp only [allIn_eq, String.toList_ofList]

namespace Dance

open Script (IsWord Spot isGap tokens?)

variable {pairs : List DancePair}

/-- The token of everyone in the pairs is a word. -/
def WordsOnly (pairs : List DancePair) : Prop :=
  ∀ pair ∈ pairs, IsWord pair.leader.token ∧ IsWord pair.follower.token

lemma WordsOnly.isWord (h : WordsOnly pairs) {s : SlotName} {d : Dancer}
    (hd : s.dancer? pairs = some d) : IsWord d.token := by
  rw [SlotName.dancer?] at hd
  split at hd
  · obtain ⟨pair, hpair, rfl⟩ := Option.map_eq_some_iff.mp hd
    have hwords := h pair (List.mem_of_getElem? hpair)
    cases s.role
    exacts [hwords.1, hwords.2]
  · cases hd

/-- Words stay words where words are written into them. -/
lemma WordsOnly.isWord_substitute (h : WordsOnly pairs) {t : String} (ht : IsWord t) :
    IsWord (substitute pairs t) := by
  rw [IsWord, Ne, ← String.toList_eq_nil_iff, toList_substitute, fill]
  have hwritten : ∀ run ∈ Text.runs t.toList,
      writeRun pairs run ≠ [] ∧ ∀ c ∈ writeRun pairs run, ¬ isGap c ∧ c ≠ '"' := by
    intro run hrun
    rcases writeRun_cases pairs run with ⟨s, d, -, hd, hwrite⟩ | hwrite
    · rw [hwrite]
      exact (h.isWord hd).takes
    · rw [hwrite]
      refine ⟨List.ne_nil_of_mem_splitBy hrun, fun c hc => ht.2 c ?_⟩
      rw [← Text.flatten_runs t.toList]
      exact List.mem_flatten.mpr ⟨run, hrun, hc⟩
  constructor
  · intro hnil
    rw [List.flatMap_eq_nil_iff] at hnil
    have hruns : Text.runs t.toList = [] :=
      List.eq_nil_iff_forall_not_mem.mpr fun run hrun => (hwritten run hrun).1 (hnil run hrun)
    have hflat := Text.flatten_runs t.toList
    rw [hruns, List.flatten_nil] at hflat
    exact ht.1 (String.toList_eq_nil_iff.mp hflat.symm)
  · intro c hc
    obtain ⟨run, hrun, hc⟩ := List.mem_flatMap.mp hc
    exact (hwritten run hrun).2 c hc

/-- Words fit into a command without quotes. -/
lemma WordsOnly.fits (h : WordsOnly pairs) {command : String} (hquote : '"' ∉ command.toList) :
    Fits pairs command := by
  intro front run back hruns slot d hslot hd
  have hfront : '"' ∉ front.flatten := by
    rw [← Text.flatten_runs command.toList, hruns, List.flatten_append] at hquote
    exact fun hmem => hquote (List.mem_append_left _ hmem)
  rcases Spot.after_of_no_quote (.inl rfl) hfront with hspot | hspot <;> rw [hspot]
  exacts [(h.isWord hd).takes, (h.isWord hd).takes.2]

/-- Where words are written into a command without quotes, its tokens stay what they are but for the
words in them. -/
lemma WordsOnly.tokens?_substitute (h : WordsOnly pairs) {command : String}
    (hquote : '"' ∉ command.toList) :
    tokens? (substitute pairs command) = (tokens? command).map (·.map (substitute pairs)) := by
  rw [Dance.tokens?_substitute (h.fits hquote), ← Script.tokens?_of_no_quote hquote]
  cases hts : tokens? command with
  | none => rw [Option.map_none, Option.map_none]
  | some ts =>
    refine congrArg some (List.map_congr_left fun t ht => IsWord.meaning ?_)
    exact h.isWord_substitute (Script.isWord_of_tokens? hquote hts ht)

/-- The dancers of a command without quotes are there if those of its tokens are. -/
lemma allFilled_of_no_quote {command : String} (hquote : '"' ∉ command.toList) {ts : List String}
    (hts : tokens? command = some ts) :
    AllFilled pairs command ↔ ∀ t ∈ ts, AllFilled pairs t := by
  rw [Script.tokens?_of_no_quote hquote] at hts
  simp only [AllFilled, SlotName.allIn_of_spellings? hts, List.forall_mem_flatMap]

instance (text : String) : Decidable (AllFilled pairs text) :=
  decidable_of_iff _ allFilled_iff.symm

/-- The warps that make the rows of a command at an index. -/
def warpsAt (template : List String) (index : Nat) : List SlotWarp :=
  if layoutIndex < index then
    (template.drop (layoutIndex + 1)).filterMap SlotWarp.ofCommand? else []

/-- What the command at an index of a template contributes to the script. -/
def part (template : List String) (pairs : List DancePair) (index : Nat) (command : String) :
    List String :=
  if index = layoutIndex then [fillLayout pairs command]
  else fillCommand pairs (warpsAt template index) command

lemma assemble_eq (template : List String) (pairs : List DancePair) :
    assemble template pairs =
      (template.zipIdx.map fun place => part template pairs place.2 place.1).flatten := by
  simp only [assemble, List.flatMap_def, part, warpsAt]

/-- A command that sheds nothing goes if it names an empty slot, and is filled otherwise. -/
lemma part_of_not_sheds {template : List String} {index : Nat} {command : String}
    (hindex : index ≠ layoutIndex)
    (hkeeps : ∀ name body, tokens? command = some (name :: body) → ¬ Sheds pairs.length name body) :
    part template pairs index command = if AllFilled pairs command
      then reframe (substitute pairs (respace (warpsAt template index) pairs.length command))
      else [] := by
  have hprune : prune pairs.length command = some command := by
    rcases prune_cases pairs.length command with ⟨hprune, -⟩ | ⟨name, body, hts, hsheds, -⟩
    · exact hprune
    · exact absurd hsheds (hkeeps name body hts)
  rw [part, if_neg hindex]
  simp only [fillCommand, hprune, allFilled_iff]

/-- The rules for frames are for commands with an `s` or an `a` in front. -/
lemma reframe_of_head? {command : String}
    (h : ∀ c ∈ command.toList.head?, c ≠ 's' ∧ c ≠ 'a') : reframe command = [command] := by
  unfold reframe
  split
  · rename_i heq
    exact absurd rfl (h 's' (Text.head?_of_pieces heq rfl)).1
  · rename_i heq
    exact absurd rfl (h 'a' (Text.head?_of_pieces heq rfl)).2
  · rfl

/-- A text keeps its first character if no name of a slot begins with it. -/
lemma head?_substitute {text : String} (h : ∀ c ∈ text.toList.head?, c ≠ 'L' ∧ c ≠ 'F') :
    (substitute pairs text).toList.head? = text.toList.head? := by
  rw [toList_substitute]
  cases hcs : text.toList with
  | nil => rfl
  | cons c cs =>
    rw [hcs] at h
    by_cases hc : Text.isWord c
    · obtain ⟨w, rest, hsplit, hw, hrest⟩ := Text.exists_run true (c :: cs)
      have hne : w ≠ [] := by
        rintro rfl
        rw [List.nil_append] at hsplit
        exact hrest c (by rw [← hsplit]; rfl) hc
      have hfirst : w.head? = some c := by
        rw [← List.head?_append_of_ne_nil w hne, ← hsplit, List.head?_cons]
      have hslot : SlotName.ofRun? w = none := by
        rw [Option.eq_none_iff_forall_ne_some]
        intro s hs
        obtain ⟨role, ds, rfl, -⟩ := SlotName.of_ofRun? hs
        cases role <;> simp [Role.word] at hfirst
        exacts [(h c rfl).1 hfirst.symm, (h c rfl).2 hfirst.symm]
      rw [hsplit, fill_word hne hw (by simpa using hrest), writeRun_of_no_slot hslot,
        List.head?_append_of_ne_nil w hne, List.head?_append_of_ne_nil w hne]
    · rw [fill_cons hc]
      rfl

/-- The rules for frames leave a command alone that begins with another letter, whatever dancers
are written into it. -/
lemma reframe_substitute {text : String}
    (h : ∀ c ∈ text.toList.head?, c ∉ ['s', 'a', 'L', 'F']) :
    reframe (substitute pairs text) = [substitute pairs text] := by
  simp only [List.mem_cons, List.not_mem_nil, or_false, not_or] at h
  have hfirst : (substitute pairs text).toList.head? = text.toList.head? :=
    head?_substitute fun c hc => (h c hc).2.2
  refine reframe_of_head? fun c hc => ?_
  rw [hfirst] at hc
  exact ⟨(h c hc).1, (h c hc).2.1⟩

/-- They leave a command alone whose name is like a word that begins with another letter. -/
lemma reframe_of_alike {name word text : String} (h : Text.alike name word)
    (hword : ['s', 'a', 'L', 'F'].all fun c => some c.toLower ≠ word.toList.head?.map Char.toLower)
    (htext : ∀ c ∈ text.toList.head?, isGap c ∨ c = '"' ∨ c ∈ name.toList.head?) :
    reframe (substitute pairs text) = [substitute pairs text] := by
  refine reframe_substitute fun c hc => ?_
  rcases htext c hc with hgap | rfl | hname
  · rcases (by simpa [isGap] using hgap : c = ' ' ∨ c = '\t') with rfl | rfl <;> decide
  · decide
  · intro hmem
    have hlower := congrArg String.toList (Text.alike_iff.mp h)
    rw [Text.lower, Text.lower, String.toList_ofList, String.toList_ofList] at hlower
    refine of_decide_eq_true (List.all_eq_true.mp hword c hmem) ?_
    rw [← List.head?_map, ← hlower, List.head?_map, Option.mem_def.mp hname, Option.map_some]

end Dance

end Cutscene
