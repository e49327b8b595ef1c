import Cutscene.Proofs.Dance.Substitution

/-!
# The Tokens of an Assembled Dance

What every command of a template contributes to the script of a dance, said of its tokens
(`assembly_keeps_tokens`). The layout keeps the groups that are not those of empty slots. Any other
command goes if it names an empty slot; if it stays, the dancers stand in its spellings in the place
of their slots, a move has lost the groups of empty slots, and a warp of a slot has its place in the
row. What is decoded on the way is written back without quotes, so that there the tokens have to be
words.
-/

namespace Cutscene.Dance

open Script (tokens? spellings? meaning IsWord fours leftover)

/-- Every slot that the text names has a dancer. -/
def AllFilled (pairs : List DancePair) (text : String) : Prop :=
  ∀ s ∈ SlotName.allIn text, ∃ d, s.dancer? pairs = some d

/-! ### The layout -/

/-- The dancer in the slot that a whole token names; any other token stays. -/
def inPlace (pairs : List DancePair) (token : String) : String :=
  match (SlotName.ofToken? token).bind (·.dancer? pairs) with
  | some dancer => dancer.token
  | none => token

/-- A group of four with the dancer in the place of its slot; nothing is left of the group of an
empty slot. -/
def castGroup (pairs : List DancePair) (group : List String) : List String :=
  if isEmptySlot pairs.length (group.headD "") then []
  else inPlace pairs (group.headD "") :: group.tail

/-- The groups of four that are not those of empty slots, with the dancers in the places of their
slots. -/
def castIn (pairs : List DancePair) (tokens : List String) : List String :=
  (fours tokens).flatMap (castGroup pairs)

/-- What becomes of a layout: in groups of four it keeps those that are not of empty slots, and
otherwise it stays as it is written. -/
inductive LayoutFilled (pairs : List DancePair) (layout filled : String) : Prop
  | inFours {ts : List String} : tokens? layout = some ts → ts.length % 4 = 0 →
    ((∀ t ∈ castIn pairs ts, IsWord t) → tokens? filled = some (castIn pairs ts)) →
    LayoutFilled pairs layout filled
  | asWritten : (∀ ts, tokens? layout = some ts → ts.length % 4 ≠ 0) → filled = layout →
    LayoutFilled pairs layout filled

lemma isFilled_iff {pairs : List DancePair} {s : SlotName} :
    s.isFilled pairs.length ↔ ∃ d, s.dancer? pairs = some d := by
  rw [SlotName.isFilled, SlotName.dancer?]
  rcases s.number? with _ | _ | k
  · simp
  · simp
  · simp only [Bool.and_eq_true, decide_eq_true_eq, Option.map_eq_some_iff]
    constructor
    · exact fun h => ⟨_, pairs[k], List.getElem?_eq_getElem (by omega), rfl⟩
    · rintro ⟨d, pair, hpair, -⟩
      obtain ⟨hk, -⟩ := List.getElem?_eq_some_iff.mp hpair
      omega

lemma isEmptySlot_iff {pairs : List DancePair} {token : String} :
    isEmptySlot pairs.length token ↔
      ∃ s, SlotName.ofToken? token = some s ∧ s.dancer? pairs = none := by
  have hempty (s : SlotName) : s.isFilled pairs.length = false ↔ s.dancer? pairs = none := by
    rw [← Bool.not_eq_true, isFilled_iff, Option.eq_none_iff_forall_not_mem, not_exists]
    rfl
  rw [isEmptySlot]
  cases SlotName.ofToken? token <;> simp [hempty]

lemma fillLayout_eq (pairs : List DancePair) {layout : String} {ts : List String}
    (hts : tokens? layout = some ts) (hfours : ts.length % 4 = 0) :
    fillLayout pairs layout = Text.spaced (castIn pairs ts) := by
  unfold fillLayout castIn
  simp only [hts, if_pos hfours, List.flatMap_def]
  refine congrArg Text.spaced ?_
  have hgroups : ∀ g ∈ fours ts, g ≠ [] := fun g hg hnil => by
    simpa [hnil] using Script.length_of_mem_fours hg
  generalize fours ts = groups at hgroups ⊢
  induction groups with
  | nil => rfl
  | cons g groups ih =>
    obtain ⟨name, rest, rfl⟩ := List.exists_cons_of_ne_nil (hgroups g List.mem_cons_self)
    have hrest := ih fun g' hg' => hgroups g' (List.mem_cons_of_mem _ hg')
    rw [List.filterMap_cons, List.map_cons, List.flatten_cons, ← hrest]
    simp only [castGroup, List.headD_cons, List.tail_cons]
    have hempty : isEmptySlot pairs.length name ↔ _ := isEmptySlot_iff
    cases hslot : SlotName.ofToken? name with
    | none => simp [hempty, inPlace, hslot]
    | some slot => cases hd : slot.dancer? pairs <;> simp [hempty, inPlace, hslot, hd]

lemma fillLayout_filled (pairs : List DancePair) (layout : String) :
    LayoutFilled pairs layout (fillLayout pairs layout) := by
  by_cases h : ∃ ts, tokens? layout = some ts ∧ ts.length % 4 = 0
  · obtain ⟨ts, hts, hfours⟩ := h
    refine .inFours hts hfours fun hwords => ?_
    rw [fillLayout_eq pairs hts hfours, Script.tokens?_spaced hwords]
  · have h : ∀ ts, tokens? layout = some ts → ts.length % 4 ≠ 0 := by
      simpa using h
    refine .asWritten h ?_
    unfold fillLayout
    split
    · rename_i ts hts
      exact if_neg (h ts hts)
    · rfl

/-! ### Moves with empty slots -/

/-- The command is a move that has a group of an empty slot. -/
def Sheds (filled : Nat) (name : String) (body : List String) : Prop :=
  Text.alike name "move" ∧ ∃ g ∈ fours body, isEmptySlot filled (g.headD "")

/-- What is left of the arguments of a move without the groups of empty slots. -/
def remaining (filled : Nat) (body : List String) : List String :=
  ((fours body).filter fun g => !isEmptySlot filled (g.headD "")).flatten ++ leftover body

lemma sheds_iff {filled : Nat} {name : String} {body : List String} :
    Sheds filled name body ↔
      ¬ (!Text.alike name "move" ∨
        ((fours body).filter fun g => !isEmptySlot filled (g.headD "")).length =
          (fours body).length) := by
  rw [List.length_filter_eq_length_iff]
  simp [Sheds]

/-- A move with groups of empty slots is written anew, or goes if it has no other groups; any other
command stays as it is. -/
lemma prune_cases (filled : Nat) (command : String) :
    (prune filled command = some command ∧
      ∀ name body, tokens? command = some (name :: body) → ¬ Sheds filled name body) ∨
    ∃ name body, tokens? command = some (name :: body) ∧ Sheds filled name body ∧
      (prune filled command = none ∧ (∀ g ∈ fours body, isEmptySlot filled (g.headD "")) ∨
        prune filled command = some (Text.spaced (name :: remaining filled body)) ∧
          ∃ g ∈ fours body, ¬ isEmptySlot filled (g.headD "")) := by
  cases hts : tokens? command with
  | none => exact .inl ⟨by simp only [prune, hts], by simp⟩
  | some ts =>
    cases ts with
    | nil => exact .inl ⟨by simp only [prune, hts], by simp⟩
    | cons name body =>
      by_cases hsheds : Sheds filled name body
      · refine .inr ⟨name, body, rfl, hsheds, ?_⟩
        simp only [prune, hts, if_neg (sheds_iff.mp hsheds)]
        split
        case isTrue hgone => exact .inl ⟨rfl, by simpa using hgone⟩
        case isFalse hstays => exact .inr ⟨rfl, by simpa using hstays⟩
      · refine .inl ⟨?_, fun name' body' h => ?_⟩
        · simp only [prune, hts]
          exact if_pos (not_not.mp (mt sheds_iff.mpr hsheds))
        · cases h
          exact hsheds

/-! ### Other commands -/

/-- A command goes: it names an empty slot, or it is a move and no group is left of it, or what is
left of it names an empty slot. -/
inductive Goes (pairs : List DancePair) (command : String) : Prop
  | empty :
    (∀ name body, tokens? command = some (name :: body) → ¬ Sheds pairs.length name body) →
    ¬ AllFilled pairs command → Goes pairs command
  | bare {name : String} {body : List String} :
    tokens? command = some (name :: body) → Sheds pairs.length name body →
    (∀ g ∈ fours body, isEmptySlot pairs.length (g.headD "")) → Goes pairs command
  | shed {name : String} {body : List String} :
    tokens? command = some (name :: body) → Sheds pairs.length name body →
    ¬ (∀ t ∈ name :: remaining pairs.length body, AllFilled pairs t) → Goes pairs command

/-- What becomes of a command that stays. Its tokens are spelled as before, with the dancers written
into the spellings. A move without its groups of empty slots and a warp with a place in its row are
written anew from their tokens. -/
inductive Filled (pairs : List DancePair) (place : Option Int) (command filled : String) : Prop
  | asWritten :
    (∀ name body, tokens? command = some (name :: body) → ¬ Sheds pairs.length name body) →
    place = none → AllFilled pairs command →
    (Fits pairs command →
      tokens? filled = (spellings? command).map (·.map fun w => meaning (substitute pairs w))) →
    Filled pairs place command filled
  | shed {name : String} {body : List String} :
    tokens? command = some (name :: body) → Sheds pairs.length name body →
    (∃ g ∈ fours body, ¬ isEmptySlot pairs.length (g.headD "")) →
    (∀ t ∈ name :: remaining pairs.length body, AllFilled pairs t) →
    ((∀ t ∈ name :: remaining pairs.length body, IsWord (substitute pairs t)) →
      tokens? filled = some ((name :: remaining pairs.length body).map (substitute pairs))) →
    Filled pairs place command filled
  | respaced {name who x : String} {rest : List String} {x' : Int} :
    tokens? command = some (name :: who :: x :: rest) → place = some x' → AllFilled pairs command →
    ((∀ t ∈ name :: who :: rest, IsWord (substitute pairs t)) →
      tokens? filled = some (substitute pairs name :: substitute pairs who :: Numeral.ofInt x' ::
        rest.map (substitute pairs))) →
    Filled pairs place command filled

lemma allFilled_iff {pairs : List DancePair} {text : String} :
    AllFilled pairs text ↔ (SlotName.allIn text).all (·.isFilled pairs.length) := by
  simp only [AllFilled, List.all_eq_true, isFilled_iff]

lemma allFilled_spaced {pairs : List DancePair} {ts : List String} :
    AllFilled pairs (Text.spaced ts) ↔ ∀ t ∈ ts, AllFilled pairs t := by
  simp only [AllFilled, SlotName.allIn_spaced, List.forall_mem_flatMap]

/-- Other characters than word characters stay where dancers are written into a text. -/
lemma mem_fill {pairs : List DancePair} {c : Char} {cs : List Char} (hc : ¬ Text.isWord c)
    (h : c ∈ cs) : c ∈ fill pairs cs := by
  rw [← Text.flatten_runs cs] at h
  obtain ⟨run, hrun, hmem⟩ := List.mem_flatten.mp h
  refine List.mem_flatMap.mpr ⟨run, hrun, ?_⟩
  rcases writeRun_cases pairs run with ⟨s, -, hs, -, -⟩ | hwrite
  · exact absurd ((SlotName.word_of_ofRun? hs).2 c hmem) hc
  · rwa [hwrite]

lemma isWord_of_substitute {pairs : List DancePair} {t : String} (h : IsWord (substitute pairs t)) :
    IsWord t := by
  refine ⟨fun hempty => h.1 (by rw [hempty]; rfl), fun c hc => ?_⟩
  have hmem (hword : ¬ Text.isWord c) := h.2 c ((toList_substitute t).symm ▸ mem_fill hword hc)
  by_cases hword : Text.isWord c
  · exact (takes_word .gap (List.cons_ne_nil c []) (by simpa using hword)).2 c List.mem_cons_self
  · exact hmem hword

/-- An integer is written in digits, with a minus sign or without one. -/
lemma mem_ofInt {x : Int} {c : Char} (h : c ∈ (Numeral.ofInt x).toList) : c = '-' ∨ c.isDigit := by
  cases x with
  | ofNat n =>
    rw [Numeral.ofInt, Numeral.ofNat, String.toList_ofList] at h
    exact .inr (Numeral.isDigit_of_mem_digits h)
  | negSucc n =>
    rw [Numeral.ofInt, String.toList_append] at h
    rcases List.mem_append.mp h with h | h
    · exact .inl (List.mem_singleton.mp h)
    · rw [Numeral.ofNat, String.toList_ofList] at h
      exact .inr (Numeral.isDigit_of_mem_digits h)

lemma isWord_ofInt (x : Int) : IsWord (Numeral.ofInt x) := by
  refine ⟨?_, fun c hc => ?_⟩
  · cases x with
    | ofNat n => simpa [Numeral.ofInt, Numeral.ofNat] using Numeral.digits_ne_nil n
    | negSucc n => simp [Numeral.ofInt]
  · rcases mem_ofInt hc with rfl | hdigit
    · decide
    · have hne (d : Char) (hd : ¬ d.isDigit) : c ≠ d := fun heq => hd (heq ▸ hdigit)
      refine ⟨?_, hne '"' (by decide)⟩
      simp [Script.isGap, hne ' ' (by decide), hne '\t' (by decide)]

lemma allIn_ofInt (x : Int) : SlotName.allIn (Numeral.ofInt x) = [] := by
  have hrole (role : Role) : 'e' ∈ role.word.toList := by cases role <;> decide
  refine SlotName.allIn_eq_nil_of_not_mem hrole fun he => ?_
  rcases mem_ofInt he with heq | hdigit
  · cases heq
  · cases hdigit

lemma substitute_ofInt (pairs : List DancePair) (x : Int) :
    substitute pairs (Numeral.ofInt x) = Numeral.ofInt x :=
  substitute_of_allIn_eq_nil (allIn_ofInt x)

lemma not_warp_of_move {name : String} (h : Text.alike name "move") :
    ¬ Text.alike name "warp" := by
  rw [Text.alike_iff, Text.alike_iff.mp h]
  decide

lemma ofCommand?_of_not_warp {command name : String} {rest : List String}
    (hts : tokens? command = some (name :: rest)) (hwarp : ¬ Text.alike name "warp") :
    SlotWarp.ofCommand? command = none := by
  rw [SlotWarp.ofCommand?, hts]
  split
  · rename_i h
    cases h
    exact if_neg hwarp
  · rfl

lemma respace_of_not_warp {warps : List SlotWarp} {filled : Nat} {command : String}
    (h : SlotWarp.ofCommand? command = none) : respace warps filled command = command := by
  rw [respace, h]
  rfl

lemma exists_tokens_of_ofCommand? {command : String} {w : SlotWarp}
    (h : SlotWarp.ofCommand? command = some w) :
    ∃ name who x rest, tokens? command = some (name :: who :: x :: rest) ∧
      Text.alike name "warp" := by
  rw [SlotWarp.ofCommand?] at h
  split at h
  · split_ifs at h with hwarp
    exact ⟨_, _, _, _, ‹_›, hwarp⟩
  · cases h

lemma tokens?_substitute {pairs : List DancePair} {command : String} (h : Fits pairs command) :
    tokens? (substitute pairs command) =
      (spellings? command).map (·.map fun w => meaning (substitute pairs w)) := by
  rw [Script.tokens?_eq_map_meaning, spellings?_substitute h, Option.map_map]
  simp [Function.comp_def]

lemma tokens?_substitute_spaced {pairs : List DancePair} {ts : List String}
    (h : ∀ t ∈ ts, IsWord (substitute pairs t)) :
    tokens? (substitute pairs (Text.spaced ts)) = some (ts.map (substitute pairs)) := by
  rw [substitute_spaced, Script.tokens?_spaced (by simpa using h)]

lemma respace_filled {pairs : List DancePair} (warps : List SlotWarp) {command : String}
    (hkeeps : ∀ name body, tokens? command = some (name :: body) → ¬ Sheds pairs.length name body)
    (hall : AllFilled pairs command) :
    Filled pairs ((SlotWarp.ofCommand? command).bind (placeInRow warps pairs.length)) command
      (substitute pairs (respace warps pairs.length command)) := by
  cases hplace : (SlotWarp.ofCommand? command).bind (placeInRow warps pairs.length) with
  | none =>
    have hstays : respace warps pairs.length command = command := by simp only [respace, hplace]
    exact .asWritten hkeeps rfl hall fun hfits => by rw [hstays, tokens?_substitute hfits]
  | some x' =>
    obtain ⟨w, hw, -⟩ := Option.bind_eq_some_iff.mp hplace
    obtain ⟨name, who, x, rest, hts, -⟩ := exists_tokens_of_ofCommand? hw
    refine .respaced hts rfl hall fun hwords => ?_
    have hwritten : respace warps pairs.length command =
        Text.spaced (name :: who :: Numeral.ofInt x' :: rest) := by
      simp only [respace, hplace, hts]
    rw [hwritten, tokens?_substitute_spaced]
    · simp only [List.map_cons, substitute_ofInt]
    · intro t ht
      have ht : t = Numeral.ofInt x' ∨ t ∈ name :: who :: rest := by
        simpa [or_left_comm] using ht
      rcases ht with rfl | ht
      · rw [substitute_ofInt]
        exact isWord_ofInt x'
      · exact hwords t ht

lemma fillCommand_filled (pairs : List DancePair) (warps : List SlotWarp) (command : String) :
    (fillCommand pairs warps command = [] ∧ Goes pairs command) ∨
    ∃ filled, fillCommand pairs warps command = reframe filled ∧
      Filled pairs ((SlotWarp.ofCommand? command).bind (placeInRow warps pairs.length))
        command filled := by
  rcases prune_cases pairs.length command with
    ⟨hprune, hkeeps⟩ | ⟨name, body, hts, hsheds, ⟨hprune, hempty⟩ | ⟨hprune, hstands⟩⟩
  · by_cases hall : AllFilled pairs command
    · refine .inr ⟨substitute pairs (respace warps pairs.length command), ?_, ?_⟩
      · simp only [fillCommand, hprune, if_pos (allFilled_iff.mp hall)]
      · exact respace_filled warps hkeeps hall
    · refine .inl ⟨?_, .empty hkeeps hall⟩
      simp only [fillCommand, hprune, if_neg (mt allFilled_iff.mpr hall)]
  · exact .inl ⟨by simp only [fillCommand, hprune], .bare hts hsheds hempty⟩
  · set shed := Text.spaced (name :: remaining pairs.length body)
    by_cases hall : AllFilled pairs shed
    · refine .inr ⟨substitute pairs (respace warps pairs.length shed), ?_, ?_⟩
      · simp only [fillCommand, hprune, if_pos (allFilled_iff.mp hall)]
      · refine .shed hts hsheds hstands (allFilled_spaced.mp hall) fun hwords => ?_
        have hshed : tokens? shed = some (name :: remaining pairs.length body) :=
          Script.tokens?_spaced fun t ht => isWord_of_substitute (hwords t ht)
        have hstays : respace warps pairs.length shed = shed :=
          respace_of_not_warp (ofCommand?_of_not_warp hshed (not_warp_of_move hsheds.1))
        rw [hstays, tokens?_substitute_spaced hwords]
    · refine .inl ⟨?_, .shed hts hsheds (mt allFilled_spaced.mpr hall)⟩
      simp only [fillCommand, hprune, if_neg (mt allFilled_iff.mpr hall)]

/-! ### The script of a dance -/

/-- The place in its row of the warp that stands at an index of a template. Only warps behind the
layout make rows. -/
def placeAt (template : List String) (filled index : Nat) (command : String) : Option Int :=
  let warps := (template.drop (layoutIndex + 1)).filterMap SlotWarp.ofCommand?
  (SlotWarp.ofCommand? command).bind
    (placeInRow (if layoutIndex < index then warps else []) filled)

/-- **Assembly keeps tokens.** A text that names no slot stays as it is where dancers are written
into it, a token that is the name of a slot becomes the token of the dancer, and tokens are what
their spellings mean. Every command of a template contributes to the script at its place: the layout
is filled, and any other command is filled and goes through the rules for frames, or goes where it
names an empty slot. -/
theorem assembly_keeps_tokens (template : List String) (pairs : List DancePair) :
    (∀ text, SlotName.allIn text = [] → substitute pairs text = text) ∧
    (∀ token s d, SlotName.ofToken? token = some s → s.dancer? pairs = some d →
      substitute pairs token = d.token) ∧
    (∀ command, tokens? command = (spellings? command).map (·.map meaning)) ∧
    ∃ parts : List (List String), assemble template pairs = parts.flatten ∧
      parts.length = template.length ∧
      ∀ index command part, template[index]? = some command → parts[index]? = some part →
        (index = layoutIndex → ∃ filled, part = [filled] ∧ LayoutFilled pairs command filled) ∧
        (index ≠ layoutIndex →
          (part = [] ∧ Goes pairs command) ∨
          ∃ filled, part = reframe filled ∧
            Filled pairs (placeAt template pairs.length index command) command filled) := by
  refine ⟨fun _ => substitute_of_allIn_eq_nil, fun _ _ _ => substitute_of_ofToken?,
    Script.tokens?_eq_map_meaning, ?_⟩
  set warps := (template.drop (layoutIndex + 1)).filterMap SlotWarp.ofCommand?
  refine ⟨template.zipIdx.map fun place =>
    if place.2 = layoutIndex then [fillLayout pairs place.1]
    else fillCommand pairs (if layoutIndex < place.2 then warps else []) place.1, ?_, by simp, ?_⟩
  · rw [assemble, List.flatMap_def]
  · intro index command part hcommand hpart
    simp only [List.getElem?_map, List.getElem?_zipIdx, hcommand, Option.map_some, Nat.zero_add,
      Option.some.injEq] at hpart
    constructor
    · intro hindex
      rw [if_pos hindex] at hpart
      exact ⟨_, hpart.symm, fillLayout_filled pairs command⟩
    · intro hindex
      rw [if_neg hindex] at hpart
      rw [← hpart]
      exact fillCommand_filled pairs _ command

/-- Of two slots one is filled, and its dancer stands in the layout in the place of the slot. -/
theorem filled_slot_stands_in_layout :
    let template := ["none", "follow", "Leader1 1 2 3 Leader2 4 5 6 Lewis 0 0 2"]
    let pairs := [DancePair.mk (.villager "Alex") (.villager "Haley")]
    ∃ parts : List (List String), assemble template pairs = parts.flatten ∧
      ∃ filled, parts[2]? = some [filled] ∧
        tokens? filled = some ["Alex", "1", "2", "3", "Lewis", "0", "0", "2"] := by
  intro template pairs
  obtain ⟨-, -, -, parts, hscript, hlength, hparts⟩ := assembly_keeps_tokens template pairs
  obtain ⟨part, hpart⟩ : ∃ part, parts[2]? = some part :=
    ⟨_, List.getElem?_eq_getElem (by rw [hlength]; decide)⟩
  obtain ⟨filled, rfl, hfilled⟩ := (hparts 2 _ _ rfl hpart).1 rfl
  refine ⟨parts, hscript, filled, hpart, ?_⟩
  have htokens : tokens? "Leader1 1 2 3 Leader2 4 5 6 Lewis 0 0 2" =
      some ["Leader1", "1", "2", "3", "Leader2", "4", "5", "6", "Lewis", "0", "0", "2"] := by
    decide +kernel
  cases hfilled with
  | inFours hts _ hread =>
    obtain rfl := Option.some.inj (htokens.symm.trans hts)
    have hcast : castIn pairs
        ["Leader1", "1", "2", "3", "Leader2", "4", "5", "6", "Lewis", "0", "0", "2"] =
        ["Alex", "1", "2", "3", "Lewis", "0", "0", "2"] := by decide +kernel
    rw [hcast] at hread
    exact hread (by decide +kernel)
  | asWritten h => exact absurd rfl (h _ htokens)

/-- Assembly is not token by token: a move sheds the groups of empty slots, though its command
stays, dancers are written inside of a quoted token as well, and a name of two words is two tokens
in a layout. No rule for frames applies here. -/
theorem assembly_sheds_movers_and_fills_quotes :
    let template := ["none", "follow", "Lewis 0 0 2", "move Leader1 0 1 2 Leader2 0 1 2",
      "speak Lewis \"Leader1 leads\""]
    let pairs := [DancePair.mk (.villager "Alex") (.villager "Haley")]
    let script := assemble template pairs
    (script = ["none", "follow", "Lewis 0 0 2", "move Alex 0 1 2", "speak Lewis \"Alex leads\""] ∧
      (∀ command ∈ script, reframe command = [command]) ∧
      ∀ index ∈ [3, 4], script[index]?.bind tokens? ≠
        (template[index]?.bind tokens?).map (·.map (inPlace pairs))) ∧
    let template := ["none", "follow", "Leader1 1 2 3"]
    let pairs := [DancePair.mk (.villager "Old Sam") (.villager "Haley")]
    (assemble template pairs)[2]?.bind tokens? = some ["Old", "Sam", "1", "2", "3"] := by
  decide +kernel

end Cutscene.Dance
