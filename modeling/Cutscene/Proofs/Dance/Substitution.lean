import Cutscene.Dance.Assembly
import Cutscene.Proofs.Script.Runs
import Cutscene.Proofs.Script.Spelling

/-!
# Writing Dancers into a Command

Slots are named by whole runs of word characters, so dancers are written in their places run by run.
Where every name can stand in the place of its slot, the spellings of a command stay what they are
but for the names in them (`spellings?_substitute`).
-/

namespace Cutscene

open Text (grow)
open Script (Spot spelledFrom? spellings? tokens?)

/-! ### The names of slots -/

namespace SlotName

/-- A decimal digit of any script is a word character. -/
lemma isWord_of_isDecimal {c : Char} (h : Text.isDecimal c) : Text.isWord c := by
  rw [Text.isWord]
  rw [Text.isDecimal] at h
  split_ifs at h ⊢ with hascii
  · simp [Char.isAlphanum, h]
  · -- Each span of digits lies in a span of word characters.
    have hspans : Text.decimalSpans.all fun s =>
        Text.wordSpans.any fun t => t.1.ble s.1 && s.2.ble t.2 := by decide +kernel
    obtain ⟨s, hs, hc⟩ := List.any_eq_true.mp h
    obtain ⟨t, ht, hst⟩ := List.any_eq_true.mp (List.all_eq_true.mp hspans s hs)
    refine List.any_eq_true.mpr ⟨t, ht, ?_⟩
    simp only [Bool.and_eq_true, decide_eq_true_eq, Nat.ble_eq] at hc hst ⊢
    omega

lemma of_digitsAfter? {role : Role} {cs ds : List Char} (h : digitsAfter? role cs = some ds) :
    cs = role.word.toList ++ ds ∧ ∀ c ∈ ds, Text.isDecimal c := by
  rw [digitsAfter?, Option.filter_eq_some_iff] at h
  obtain ⟨hafter, hdigits⟩ := h
  rw [Bool.and_eq_true, List.all_eq_true] at hdigits
  exact ⟨Text.after?_eq_some.mp hafter, hdigits.2⟩

lemma of_ofRun? {cs : List Char} {s : SlotName} (h : ofRun? cs = some s) :
    ∃ role ds, cs = (Role.word role).toList ++ ds ∧ ∀ c ∈ ds, Text.isDecimal c := by
  rw [ofRun?, Option.or_eq_some_iff, Option.map_eq_some_iff, Option.map_eq_some_iff] at h
  rcases h with ⟨ds, hds, -⟩ | ⟨-, ds, hds, -⟩
  exacts [⟨_, ds, of_digitsAfter? hds⟩, ⟨_, ds, of_digitsAfter? hds⟩]

/-- The name of a slot is a word. -/
lemma word_of_ofRun? {cs : List Char} {s : SlotName} (h : ofRun? cs = some s) :
    cs ≠ [] ∧ ∀ c ∈ cs, Text.isWord c := by
  obtain ⟨role, ds, rfl, hds⟩ := of_ofRun? h
  have hrole : role.word.toList ≠ [] ∧ role.word.toList.all Text.isWord := by
    cases role <;> decide
  refine ⟨List.append_ne_nil_of_left_ne_nil hrole.1 ds, fun c hc => ?_⟩
  rcases List.mem_append.mp hc with hc | hc
  · exact List.all_eq_true.mp hrole.2 c hc
  · exact isWord_of_isDecimal (hds c hc)

lemma ofRun?_of_no_word {cs : List Char} (h : ∀ c ∈ cs, ¬ Text.isWord c) : ofRun? cs = none := by
  by_contra hsome
  obtain ⟨s, hs⟩ := Option.ne_none_iff_exists'.mp hsome
  obtain ⟨hne, hword⟩ := word_of_ofRun? hs
  obtain ⟨c, cs, rfl⟩ := List.exists_cons_of_ne_nil hne
  exact h c List.mem_cons_self (hword c List.mem_cons_self)

/-- No slot is named by characters that are no word characters, be it all of them or a part. -/
lemma ofRun?_parts {c : Char} {r : List Char} (h : ∀ d ∈ c :: r, ¬ Text.isWord d) :
    ofRun? (c :: r) = none ∧ ofRun? [c] = none ∧ ofRun? r = none :=
  ⟨ofRun?_of_no_word h, ofRun?_of_no_word (by simpa using h c),
    ofRun?_of_no_word fun d hd => h d (List.mem_cons_of_mem c hd)⟩

/-- The only run of a word is the word. -/
lemma runs_of_ofRun? {cs : List Char} {s : SlotName} (h : ofRun? cs = some s) :
    Text.runs cs = [cs] := by
  obtain ⟨hne, hword⟩ := word_of_ofRun? h
  have hruns : Text.runs (cs ++ []) = cs :: Text.runs [] :=
    Text.runs_append_run hne hword (by simp)
  rwa [List.append_nil] at hruns

lemma additive_ofRun? : Text.Additive fun r => (ofRun? r).toList := by
  intro c r hr
  obtain ⟨hcr, hc, hr⟩ := ofRun?_parts hr
  simp only [hcr, hc, hr]
  rfl

lemma allIn_eq (text : String) :
    allIn text = (Text.runs text.toList).flatMap fun r => (ofRun? r).toList :=
  List.filterMap_eq_flatMap_toList ofRun? _

/-- A text names no slot without the letters that the words for both roles have in them. -/
lemma allIn_eq_nil_of_not_mem {c : Char} (hc : ∀ role : Role, c ∈ role.word.toList) {text : String}
    (h : c ∉ text.toList) : allIn text = [] := by
  refine List.filterMap_eq_nil_iff.mpr fun run hrun =>
    Option.eq_none_iff_forall_ne_some.mpr fun s hs => h ?_
  obtain ⟨role, ds, rfl, -⟩ := of_ofRun? hs
  rw [← Text.flatten_runs text.toList]
  exact List.mem_flatten.mpr ⟨_, hrun, List.mem_append_left ds (hc role)⟩

/-- Texts with spaces between them name what each of them names. -/
lemma allIn_spaced (ts : List String) : allIn (Text.spaced ts) = ts.flatMap allIn := by
  have hspace : (ofRun? [' ']).toList = [] := rfl
  rw [allIn_eq, Text.flatMap_runs_spaced additive_ofRun?, hspace]
  simp only [← allIn_eq]
  induction ts with
  | nil => rfl
  | cons t ts ih => cases ts <;> simp_all

end SlotName

namespace Dance

/-- A run with the dancer of the slot that it names, if it names one that is filled. -/
def writeRun (pairs : List DancePair) (run : List Char) : List Char :=
  match (SlotName.ofRun? run).bind (·.dancer? pairs) with
  | some dancer => dancer.token.toList
  | none => run

/-- The characters of a text with the dancers in place of their slots. -/
def fill (pairs : List DancePair) (cs : List Char) : List Char :=
  (Text.runs cs).flatMap (writeRun pairs)

variable {pairs : List DancePair}

lemma substitute_eq (command : String) :
    substitute pairs command = String.ofList (fill pairs command.toList) := rfl

lemma toList_substitute (command : String) :
    (substitute pairs command).toList = fill pairs command.toList :=
  String.toList_ofList

lemma writeRun_of_no_slot {run : List Char} (h : SlotName.ofRun? run = none) :
    writeRun pairs run = run := by
  rw [writeRun, h, Option.bind_none]

lemma writeRun_of_slot {run : List Char} {s : SlotName} {d : Dancer}
    (h : SlotName.ofRun? run = some s) (hd : s.dancer? pairs = some d) :
    writeRun pairs run = d.token.toList := by
  rw [writeRun, h, Option.bind_some, hd]

lemma writeRun_cases (pairs : List DancePair) (run : List Char) :
    (∃ s d, SlotName.ofRun? run = some s ∧ s.dancer? pairs = some d ∧
      writeRun pairs run = d.token.toList) ∨ writeRun pairs run = run := by
  rw [writeRun]
  split
  case h_1 d h =>
    obtain ⟨s, hs, hd⟩ := Option.bind_eq_some_iff.mp h
    exact .inl ⟨s, d, hs, hd, rfl⟩
  case h_2 => exact .inr rfl

lemma additive_writeRun : Text.Additive (writeRun pairs) := by
  intro c r hr
  obtain ⟨hcr, hc, hr⟩ := SlotName.ofRun?_parts hr
  rw [writeRun_of_no_slot hcr, writeRun_of_no_slot hc, writeRun_of_no_slot hr]
  rfl

@[simp] lemma fill_nil : fill pairs [] = [] := rfl

lemma fill_cons {c : Char} (hc : ¬ Text.isWord c) (cs : List Char) :
    fill pairs (c :: cs) = c :: fill pairs cs := by
  rw [fill, Text.flatMap_runs_cons additive_writeRun hc,
    writeRun_of_no_slot (SlotName.ofRun?_of_no_word (by simpa using hc))]
  rfl

lemma fill_word {w cs : List Char} (hw : w ≠ []) (hword : ∀ c ∈ w, Text.isWord c)
    (hcs : ∀ d ∈ cs.head?, ¬ Text.isWord d) :
    fill pairs (w ++ cs) = writeRun pairs w ++ fill pairs cs :=
  Text.flatMap_runs_word hw hword hcs

/-- Dancers are written into tokens with spaces between them as into each of them. -/
lemma substitute_spaced (ts : List String) :
    substitute pairs (Text.spaced ts) = Text.spaced (ts.map (substitute pairs)) := by
  have hspace : writeRun pairs [' '] = [' '] := writeRun_of_no_slot rfl
  rw [← String.toList_inj, toList_substitute, fill, Text.flatMap_runs_spaced additive_writeRun,
    hspace, Text.spaced, String.toList_intercalate, List.map_map]
  exact congrArg _ (List.map_congr_left fun t _ => (toList_substitute t).symm)

/-- A text that names no slot stays as it is. -/
lemma substitute_of_allIn_eq_nil {text : String} (h : SlotName.allIn text = []) :
    substitute pairs text = text := by
  have hstay : (Text.runs text.toList).flatMap (writeRun pairs) =
      (Text.runs text.toList).flatMap id := by
    refine List.flatMap_congr fun run hrun => writeRun_of_no_slot ?_
    exact List.filterMap_eq_nil_iff.mp h run hrun
  rw [substitute_eq, fill, hstay, List.flatMap_id, Text.flatten_runs,
    String.ofList_toList]

/-- The name of a slot gives way to the dancer. -/
lemma substitute_of_ofToken? {token : String} {s : SlotName} {d : Dancer}
    (h : SlotName.ofToken? token = some s) (hd : s.dancer? pairs = some d) :
    substitute pairs token = d.token := by
  rw [SlotName.ofToken?] at h
  rw [substitute_eq, fill, SlotName.runs_of_ofRun? h, List.flatMap_singleton,
    writeRun_of_slot h hd, String.ofList_toList]

/-! ### Spellings with dancers in them -/

/-- Every dancer that is written into a text can stand in the place of the slot: the reading of the
text from a spot on takes the name for a part of the token that the slot is a part of. -/
def FitsFrom (pairs : List DancePair) (s : Spot) (cs : List Char) : Prop :=
  ∀ front run back, Text.runs cs = front ++ run :: back →
    ∀ slot d, SlotName.ofRun? run = some slot → slot.dancer? pairs = some d →
      (s.after front.flatten).Takes d.token.toList

/-- Every dancer that is written into a command can stand in the place of the slot. -/
def Fits (pairs : List DancePair) (command : String) : Prop :=
  FitsFrom pairs .gap command.toList

/-- A word fits anywhere. -/
lemma takes_word (s : Spot) {w : List Char} (hw : w ≠ []) (hword : ∀ c ∈ w, Text.isWord c) :
    s.Takes w := by
  have hplain : ∀ c ∈ w, ¬ Script.isGap c ∧ c ≠ '"' ∧ c ≠ '\\' := by
    intro c hc
    have hne (d : Char) (hd : ¬ Text.isWord d) : c ≠ d := fun heq => hd (heq ▸ hword c hc)
    refine ⟨?_, hne '"' (by decide), hne '\\' (by decide)⟩
    simp [Script.isGap, hne ' ' (by decide), hne '\t' (by decide)]
  cases s with
  | gap => exact ⟨hw, fun c hc => ⟨(hplain c hc).1, (hplain c hc).2.1⟩⟩
  | word => exact fun c hc => ⟨(hplain c hc).1, (hplain c hc).2.1⟩
  | quoted => exact fun c hc => (hplain c hc).2
  | escaped => exact ⟨hw, fun c hc => (hplain c hc).2⟩

lemma FitsFrom.cons {s : Spot} {c : Char} {cs : List Char} (hc : ¬ Text.isWord c)
    (h : FitsFrom pairs s (c :: cs)) : FitsFrom pairs (s.next c) cs := by
  intro front run back hcs slot d hslot hd
  -- The character joins the run behind it or not, and that run is not the name of a slot.
  obtain ⟨front', hfront, hruns⟩ : ∃ front', front'.flatten = c :: front.flatten ∧
      Text.runs (c :: cs) = front' ++ run :: back := by
    rcases Text.runs_cons hc cs with hruns | ⟨r, rs, hr, hno, hruns⟩
    · exact ⟨[c] :: front, rfl, by rw [hruns, hcs, List.cons_append]⟩
    · cases front with
      | nil =>
        obtain ⟨rfl, -⟩ := List.cons.inj (hr.symm.trans hcs)
        rw [SlotName.ofRun?_of_no_word hno] at hslot
        cases hslot
      | cons r' front =>
        obtain ⟨rfl, rfl⟩ := List.cons.inj (hr.symm.trans hcs)
        exact ⟨(c :: r) :: front, rfl, hruns⟩
  have htakes := h front' run back hruns slot d hslot hd
  rwa [hfront] at htakes

lemma FitsFrom.word {s : Spot} {w cs : List Char} (hw : w ≠ []) (hword : ∀ c ∈ w, Text.isWord c)
    (hcs : ∀ d ∈ cs.head?, ¬ Text.isWord d) (h : FitsFrom pairs s (w ++ cs)) :
    s.Takes (writeRun pairs w) ∧ FitsFrom pairs (s.after w) cs := by
  have hruns : Text.runs (w ++ cs) = w :: Text.runs cs :=
    Text.runs_append_run hw hword (by simpa using hcs)
  constructor
  · rcases writeRun_cases pairs w with ⟨slot, d, hslot, hd, hwrite⟩ | hwrite
    · rw [hwrite]
      exact h [] w _ hruns slot d hslot hd
    · rw [hwrite]
      exact takes_word s hw hword
  · intro front run back hfront slot d hslot hd
    have htakes := h (w :: front) run back (by rw [hruns, hfront, List.cons_append]) slot d hslot hd
    rwa [List.flatten_cons, Spot.after, List.foldl_append] at htakes

lemma spelledFrom?_fill (cs : List Char) :
    ∀ s, FitsFrom pairs s cs →
      spelledFrom? s (fill pairs cs) = (spelledFrom? s cs).map (·.map (fill pairs)) := by
  induction cs using Text.wordInduction with
  | nil => intro s _; cases s <;> rfl
  | other c cs hc ih =>
    intro s h
    have hrest := ih _ (h.cons hc)
    rw [fill_cons hc]
    by_cases hnext : s.next c = .gap
    · rw [hnext] at hrest
      obtain ⟨hs, hgap⟩ := Spot.next_eq_gap_iff.mp hnext
      rcases hs with rfl | rfl <;> rw [spelledFrom?, spelledFrom?, if_pos hgap, if_pos hgap, hrest]
      rw [Option.map_map, Option.map_map]
      rfl
    · rw [Script.spelledFrom?_grow hnext, Script.spelledFrom?_grow hnext, hrest, Option.map_map,
        Option.map_map]
      refine congrArg (Option.map · _) (funext fun ps => ?_)
      cases ps <;> simp [grow, fill_cons hc]
  | word w cs hw hword hcs ih =>
    intro s h
    obtain ⟨htakes, hrest⟩ := h.word hw hword hcs
    have hleads := (takes_word s hw hword).leads
    rw [fill_word hw hword hcs, htakes.leads.spelled, hleads.spelled, ih _ (hleads.after ▸ hrest)]
    cases hps : spelledFrom? s.within cs with
    | none => rfl
    | some ps =>
      obtain ⟨q, qs, rfl⟩ := Script.exists_cons_of_spelledFrom? s.within_ne_gap hps
      -- The rest of the token that the word is a part of begins no word.
      have hq : ∀ d ∈ q.head?, ¬ Text.isWord d := fun d hd =>
        hcs d (Script.head?_of_spelledFrom? s.within_ne_gap hps hd)
      simp only [Option.map_some, List.map_cons, Script.growAll_piece, fill_word hw hword hq]

/-- Where every dancer fits in the place of the slot, the spellings of a command stay what they are
but for the dancers in them. -/
theorem spellings?_substitute {command : String} (h : Fits pairs command) :
    spellings? (substitute pairs command) =
      (spellings? command).map (·.map (substitute pairs)) := by
  rw [spellings?, spellings?, toList_substitute, spelledFrom?_fill _ _ h, Option.map_map,
    Option.map_map]
  refine congrArg (Option.map · _) (funext fun ps => ?_)
  simp [substitute_eq]

example : tokens? (substitute [⟨.villager "Old Sam", .villager "Haley"⟩]
    "speak Follower1 \"Leader1 leads\"") = some ["speak", "Haley", "Old Sam leads"] := by
  decide +kernel

end Dance

end Cutscene
