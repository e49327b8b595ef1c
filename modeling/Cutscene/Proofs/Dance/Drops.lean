import Cutscene.Proofs.Dance.Movers
import Cutscene.Proofs.Script.Branches

/-!
# Which Commands a Dance Drops

Moving a warp in its row, writing dancers and the rules for frames each look for slots in their own
way, but none of them brings a slot into a command. So a command that is no move goes just if it
names an empty slot, and what becomes of any other names no slot but those that dancers are named
after.
-/

namespace Cutscene

namespace Text

/-- The pieces of a text with the marks between them are the text. -/
lemma spaced_pieces (text : String) : spaced (pieces ' ' text) = text := by
  rw [← String.toList_inj, spaced, String.toList_intercalate, pieces, List.map_map,
    cutChars_eq_splitOn]
  have hid : String.toList ∘ String.ofList = id := funext fun _ => String.toList_ofList
  rw [hid, List.map_id]
  exact List.intercalate_splitOn ' '

lemma pieces_spaced (ts : List String) (hne : ts ≠ []) (h : ∀ t ∈ ts, ' ' ∉ t.toList) :
    pieces ' ' (spaced ts) = ts := by
  have hcut : (" ".toList.intercalate (ts.map String.toList)).splitOn ' ' = ts.map String.toList :=
    List.splitOn_intercalate ' ' (by simpa using h) (by simpa using hne)
  have hid : String.ofList ∘ String.toList = id := funext fun _ => String.ofList_toList
  rw [pieces, spaced, String.toList_intercalate, cutChars_eq_splitOn, hcut, List.map_map, hid,
    List.map_id]

end Text

namespace SlotName

/-- The slot has no pair: its number is zero or greater than that of the last pair, or it cannot be
read. -/
def IsEmpty (filled : Nat) (s : SlotName) : Prop :=
  ∀ n, s.number? = some n → n = 0 ∨ filled < n

lemma isEmpty_iff {filled : Nat} {s : SlotName} : s.IsEmpty filled ↔ ¬ s.isFilled filled := by
  rw [IsEmpty, isFilled]
  cases s.number? with
  | none => simp
  | some n => simp; omega

instance (filled : Nat) (s : SlotName) : Decidable (s.IsEmpty filled) :=
  decidable_of_iff _ isEmpty_iff.symm

lemma le_foldl_max {l : List ℕ} {a n : ℕ} (h : n ≤ a ∨ n ∈ l) : n ≤ l.foldl max a := by
  induction l generalizing a with
  | nil => simpa using h
  | cons m l ih =>
    rcases h with h | h
    · exact ih (.inl (h.trans (Nat.le_max_left a m)))
    · rcases List.mem_cons.mp h with rfl | h
      · exact ih (.inl (Nat.le_max_right a n))
      · exact ih (.inr h)

/-- No number in a template is greater than its count of slots. -/
lemma le_slotCount {template : List String} {command : String} {s : SlotName} {n : ℕ}
    (hcommand : command ∈ template) (hs : s ∈ allIn command) (hn : s.number? = some n) :
    n ≤ slotCount template :=
  le_foldl_max (.inr (List.mem_filterMap.mpr ⟨s, List.mem_flatMap.mpr ⟨command, hcommand, hs⟩, hn⟩))

end SlotName

namespace Dance

open Script (tokens? fours)

variable {pairs : List DancePair}

/-! ### The rules for frames -/

/-- What the rules for frames make of a command: a player who is to show the frames of a villager
shows another one and turns, and another animation is played. -/
inductive Reframed : String → List String → Prop
  | ready {who : String} : isPlayerToken who →
    Reframed (Text.spaced ["showFrame", who, "44"])
      [Text.spaced ["showFrame", who, "12"], Text.spaced ["faceDirection", who, "0"]]
  | idle {who : String} : isPlayerToken who →
    Reframed (Text.spaced ["showFrame", who, "40"])
      [Text.spaced ["showFrame", who, "0"], Text.spaced ["faceDirection", who, "2"]]
  | dance {who flip loop time : String} : isPlayerToken who → isWordText flip → isWordText loop →
    isDigitText time →
    Reframed (Text.spaced ["animate", who, flip, loop, time, "44", "45"])
      [Text.spaced ["animate", who, flip, loop, time, "12", "13"]]

lemma space_not_mem_of_isPlayerToken {who : String} (h : isPlayerToken who) : ' ' ∉ who.toList := by
  rw [isPlayerToken] at h
  split at h
  · rename_i digits hdigits
    rw [Text.after?_eq_some.mp hdigits, List.mem_append]
    rw [Bool.and_eq_true, List.all_eq_true] at h
    rintro (hmem | hmem)
    · exact absurd hmem (by decide)
    · exact absurd (h.2 ' ' hmem) (by decide)
  · cases h

lemma space_not_mem_of_all {p : Char → Bool} (hp : ¬ p ' ') {text : String}
    (h : (text != "" && text.toList.all p) = true) : ' ' ∉ text.toList := by
  rw [Bool.and_eq_true, List.all_eq_true] at h
  exact fun hmem => hp (h.2 ' ' hmem)

lemma reframe_of_reframed {command : String} {texts : List String} (h : Reframed command texts) :
    reframe command = texts := by
  cases h with
  | @ready who hwho =>
    have hspace := space_not_mem_of_isPlayerToken hwho
    have hpieces := Text.pieces_spaced ["showFrame", who, "44"] (by simp) (by simpa)
    simp only [reframe, hpieces, hwho, and_self, if_true]
    simp [← String.toList_inj, Text.spaced, toString]
  | @idle who hwho =>
    have hspace := space_not_mem_of_isPlayerToken hwho
    have hpieces := Text.pieces_spaced ["showFrame", who, "40"] (by simp) (by simpa)
    have hframe : ("40" = "44") = False := by decide
    simp only [reframe, hpieces, hwho, hframe, and_false, and_self, if_true, if_false]
    simp [← String.toList_inj, Text.spaced, toString]
  | @dance who flip loop time hwho hflip hloop htime =>
    have hspaces : ∀ t ∈ [who, flip, loop, time], ' ' ∉ t.toList := by
      simp [space_not_mem_of_isPlayerToken hwho, space_not_mem_of_all (by decide) hflip,
        space_not_mem_of_all (by decide) hloop, space_not_mem_of_all (by decide) htime]
    have hpieces := Text.pieces_spaced ["animate", who, flip, loop, time, "44", "45"]
      (by simp) (by simpa using hspaces)
    simp only [reframe, hpieces, hwho, hflip, hloop, htime, and_self, if_true]
    simp [← String.toList_inj, Text.spaced, toString]

/-- A command that no rule is for stays as it is. -/
lemma reframe_cases (command : String) :
    Reframed command (reframe command) ∨
      reframe command = [command] ∧ ∀ texts, ¬ Reframed command texts := by
  by_cases h : ∃ texts, Reframed command texts
  · obtain ⟨texts, htexts⟩ := h
    exact .inl (reframe_of_reframed htexts ▸ htexts)
  · rw [not_exists] at h
    refine .inr ⟨?_, h⟩
    have hcommand := Text.spaced_pieces command
    unfold reframe
    split
    · rename_i who frame hpieces
      rw [hpieces] at hcommand
      split_ifs with hready hidle
      · obtain ⟨hwho, rfl⟩ := hready
        subst hcommand
        exact absurd (.ready hwho) (h _)
      · obtain ⟨hwho, rfl⟩ := hidle
        subst hcommand
        exact absurd (.idle hwho) (h _)
      · rfl
    · rename_i who flip loop time hpieces
      rw [hpieces] at hcommand
      split_ifs with hdance
      · obtain ⟨hwho, hflip, hloop, htime⟩ := hdance
        subst hcommand
        exact absurd (.dance hwho hflip hloop htime) (h _)
      · rfl
    · rfl

/-- The rules bring no slot into a command. -/
lemma Reframed.allIn_eq_nil {command : String} {texts : List String} (h : Reframed command texts)
    (hcommand : SlotName.allIn command = []) : ∀ text ∈ texts, SlotName.allIn text = [] := by
  have hconstants : ∀ t ∈ ["faceDirection", "0", "2", "12", "13"], SlotName.allIn t = [] := by
    decide +kernel
  cases h with
  | ready | idle | dance =>
    simp only [SlotName.allIn_spaced, List.flatMap_cons, List.flatMap_nil,
      List.append_eq_nil_iff] at hcommand
    simp only [List.forall_mem_cons] at hconstants
    simp [SlotName.allIn_spaced, hcommand, hconstants]

lemma Reframed.length {command : String} {texts : List String} (h : Reframed command texts) :
    texts.length = 1 ∨ texts.length = 2 := by
  cases h <;> simp

lemma length_reframe (command : String) :
    (reframe command).length = 1 ∨ (reframe command).length = 2 := by
  rcases reframe_cases command with hrule | ⟨hstays, -⟩
  · exact hrule.length
  · exact .inl (congrArg List.length hstays)

/-! ### Slots that are named -/

lemma not_allFilled_iff {text : String} :
    ¬ AllFilled pairs text ↔ ∃ s ∈ SlotName.allIn text, s.IsEmpty pairs.length := by
  simp only [AllFilled, not_forall, exists_prop, ← isFilled_iff, SlotName.isEmpty_iff]

/-- Where dancers are written into a text, every slot gives way to those that the dancer is named
after. -/
lemma allIn_substitute (text : String) : SlotName.allIn (substitute pairs text) =
    (SlotName.allIn text).flatMap fun s =>
      ((s.dancer? pairs).map fun d => SlotName.allIn d.token).getD [s] := by
  simp only [SlotName.allIn_eq, toList_substitute]
  induction text.toList using Text.wordInduction with
  | nil => rfl
  | other c cs hc ih =>
    have hnone : SlotName.ofRun? [c] = none := SlotName.ofRun?_of_no_word (by simpa using hc)
    rw [fill_cons hc, Text.flatMap_runs_cons SlotName.additive_ofRun? hc,
      Text.flatMap_runs_cons SlotName.additive_ofRun? hc, ih, hnone]
    rfl
  | word w cs hw hword hcs ih =>
    have hrest : ∀ d ∈ (fill pairs cs).head?, ¬ Text.isWord d := by
      cases cs with
      | nil => simp
      | cons c cs =>
        rw [fill_cons (hcs c rfl)]
        exact hcs
    rw [fill_word hw hword hcs, Text.flatMap_runs_append SlotName.additive_ofRun? _ hrest, ih,
      Text.flatMap_runs_word hw hword hcs, List.flatMap_append]
    refine congrArg (· ++ _) ?_
    have hone : (Text.runs w).flatMap (fun r => (SlotName.ofRun? r).toList) =
        (SlotName.ofRun? w).toList := by
      rw [← List.append_nil w, Text.flatMap_runs_word hw hword (by simp), List.append_nil]
      exact List.append_nil _
    cases hs : SlotName.ofRun? w with
    | none => rw [writeRun_of_no_slot hs, hone, hs]; rfl
    | some s =>
      cases hd : s.dancer? pairs with
      | none =>
        have hwrite : writeRun pairs w = w := by rw [writeRun, hs, Option.bind_some, hd]
        rw [hwrite, hone, hs]
        simp [hd]
      | some d => simp [writeRun_of_slot hs hd, hd]

/-- No villager among the pairs is named after a slot. -/
def NamesNoSlot (pairs : List DancePair) : Prop :=
  ∀ pair ∈ pairs, ∀ name, pair.leader = .villager name ∨ pair.follower = .villager name →
    SlotName.allIn name = []

/-- The token of a player names no slot. -/
lemma allIn_player (n : Nat) : SlotName.allIn (Dancer.player n).token = [] := by
  obtain ⟨rest, htoken⟩ : ∃ rest, (Dancer.player n).token.toList = 'f' :: rest :=
    ⟨"armer".toList ++ Numeral.digits n, by
      rw [Dancer.token, Dancer.id, ActorId.text, String.toList_append, Numeral.ofNat,
        String.toList_ofList]
      rfl⟩
  have hword : ∀ c ∈ (Dancer.player n).token.toList, Text.isWord c := by
    intro c hc
    rw [Dancer.token, Dancer.id, ActorId.text, String.toList_append] at hc
    rcases List.mem_append.mp hc with hc | hc
    · exact List.all_eq_true.mp (by decide : playerWord.toList.all Text.isWord) c hc
    · rw [Numeral.ofNat, String.toList_ofList] at hc
      exact Numeral.of_mem_digits (P := fun c => Text.isWord c) (by decide) hc
  rw [htoken] at hword
  have hruns : Text.runs ('f' :: rest ++ []) = _ :=
    Text.runs_append_run (List.cons_ne_nil 'f' rest) hword (by simp)
  rw [List.append_nil] at hruns
  rw [SlotName.allIn, htoken, hruns]
  rfl

lemma NamesNoSlot.allIn_token (h : NamesNoSlot pairs) {s : SlotName} {d : Dancer}
    (hd : s.dancer? pairs = some d) : SlotName.allIn d.token = [] := by
  rw [SlotName.dancer?] at hd
  split at hd
  · obtain ⟨pair, hpair, rfl⟩ := Option.map_eq_some_iff.mp hd
    have hpair := h pair (List.mem_of_getElem? hpair)
    cases hdancer : pair.dancer s.role with
    | player n => exact allIn_player n
    | villager name =>
      refine hpair name ?_
      cases hrole : s.role <;> rw [hrole] at hdancer
      exacts [.inl hdancer, .inr hdancer]
  · cases hd

/-- No slot is left where all of them are filled. -/
lemma NamesNoSlot.allIn_substitute (h : NamesNoSlot pairs) {text : String}
    (hall : AllFilled pairs text) : SlotName.allIn (substitute pairs text) = [] := by
  rw [Dance.allIn_substitute, List.flatMap_eq_nil_iff]
  intro s hs
  obtain ⟨d, hd⟩ := hall s hs
  rw [hd, Option.map_some, Option.getD_some, h.allIn_token hd]

/-! ### Warps in their rows -/

/-- A warp that is moved in its row names a slot by its mover, and is written anew. -/
lemma respace_cases (warps : List SlotWarp) (filled : Nat) (command : String) :
    respace warps filled command = command ∨ ∃ name who x rest x',
      tokens? command = some (name :: who :: x :: rest) ∧ Text.alike name "warp" ∧
        SlotName.allIn who ≠ [] ∧
        respace warps filled command = Text.spaced (name :: who :: Numeral.ofInt x' :: rest) := by
  cases hwarp : SlotWarp.ofCommand? command with
  | none => exact .inl (respace_of_not_warp hwarp)
  | some w =>
    cases hplace : placeInRow warps filled w with
    | none => exact .inl (by simp only [respace, hwarp, Option.bind_some, hplace])
    | some x' =>
      refine .inr ?_
      obtain ⟨name, who, x, rest, htokens, halike⟩ := exists_tokens_of_ofCommand? hwarp
      refine ⟨name, who, x, rest, x', htokens, halike, ?_, ?_⟩
      · intro hnone
        rw [SlotWarp.ofCommand?, htokens] at hwarp
        split at hwarp
        case h_1 heq =>
          cases heq
          rw [if_pos halike, hnone] at hwarp
          cases hwarp
        case h_2 => cases hwarp
      · simp only [respace, hwarp, Option.bind_some, hplace, htokens]

/-- The command is neither the layout nor a move, and it is written without quotes if it is a
warp. -/
structure IsPlain (index : Nat) (command : String) : Prop where
  not_layout : index ≠ layoutIndex
  not_move : ∀ name body, tokens? command = some (name :: body) → ¬ Text.alike name "move"
  no_quote : ∀ name body, tokens? command = some (name :: body) → Text.alike name "warp" →
    '"' ∉ command.toList

section Plain

variable {template : List String} {index : Nat} {command : String}

lemma IsPlain.respace_cases (h : IsPlain index command) (warps : List SlotWarp) (filled : Nat) :
    respace warps filled command = command ∨ ∃ name who x rest x',
      SlotName.allIn command = (name :: who :: x :: rest).flatMap SlotName.allIn ∧
        SlotName.allIn who ≠ [] ∧
        respace warps filled command = Text.spaced (name :: who :: Numeral.ofInt x' :: rest) := by
  rcases Dance.respace_cases warps filled command with hstays |
    ⟨name, who, x, rest, x', htokens, halike, hwho, hwritten⟩
  · exact .inl hstays
  · have hquote := h.no_quote name _ htokens halike
    rw [Script.tokens?_of_no_quote hquote] at htokens
    exact .inr ⟨name, who, x, rest, x', SlotName.allIn_of_spellings? htokens, hwho, hwritten⟩

/-- A warp has no other slots in it when it is moved in its row. -/
lemma IsPlain.allFilled_respace (h : IsPlain index command) (warps : List SlotWarp)
    (hall : AllFilled pairs command) : AllFilled pairs (respace warps pairs.length command) := by
  rcases h.respace_cases warps pairs.length with hstays |
    ⟨name, who, x, rest, x', hnames, -, hwritten⟩
  · rwa [hstays]
  · rw [AllFilled, hnames, List.forall_mem_flatMap] at hall
    rw [hwritten, allFilled_spaced]
    intro t ht
    rcases (by simpa [or_left_comm] using ht : t = Numeral.ofInt x' ∨ t ∈ name :: who :: rest) with
      rfl | ht
    · exact allFilled_of_allIn_eq_nil (allIn_ofInt x')
    · refine hall t ?_
      simp only [List.mem_cons] at ht ⊢
      tauto

/-- A command that names no slot is no warp of a row. -/
lemma IsPlain.respace_of_allIn_eq_nil (h : IsPlain index command) (warps : List SlotWarp)
    (filled : Nat) (hnone : SlotName.allIn command = []) :
    respace warps filled command = command := by
  refine (h.respace_cases warps filled).resolve_right ?_
  rintro ⟨name, who, x, rest, x', hnames, hwho, -⟩
  rw [hnone, eq_comm, List.flatMap_eq_nil_iff] at hnames
  exact hwho (hnames who (by simp))

lemma IsPlain.part_eq (h : IsPlain index command) : part template pairs index command =
    if AllFilled pairs command
      then reframe (substitute pairs (respace (warpsAt template index) pairs.length command))
      else [] :=
  part_of_not_sheds h.not_layout fun name body htokens hsheds => h.not_move name body htokens hsheds.1

lemma IsPlain.part_eq_nil_iff (h : IsPlain index command) :
    part template pairs index command = [] ↔ ¬ AllFilled pairs command := by
  rw [h.part_eq, ite_eq_right_iff]
  refine forall_congr' fun _ => iff_of_false (fun hnil => ?_) id
  rcases length_reframe (substitute pairs (respace (warpsAt template index) pairs.length command))
    with hlength | hlength <;> rw [hnil] at hlength <;> cases hlength

/-- What is contributed names no slot. -/
lemma IsPlain.allIn_part (h : IsPlain index command) (hnames : NamesNoSlot pairs) :
    ∀ text ∈ part template pairs index command, SlotName.allIn text = [] := by
  rw [h.part_eq]
  split_ifs with hall
  · have hfilled := hnames.allIn_substitute (h.allFilled_respace (warpsAt template index) hall)
    rcases reframe_cases (substitute pairs (respace (warpsAt template index) pairs.length command))
      with hrule | ⟨hstays, -⟩
    · exact hrule.allIn_eq_nil hfilled
    · rw [hstays]
      simpa using hfilled
  · simp

/-- A command without slots is copied if no rule for frames is for it. -/
lemma IsPlain.part_of_allIn_eq_nil (h : IsPlain index command)
    (hnone : SlotName.allIn command = []) :
    part template pairs index command = reframe command := by
  rw [h.part_eq, if_pos (allFilled_of_allIn_eq_nil hnone), h.respace_of_allIn_eq_nil _ _ hnone,
    substitute_of_allIn_eq_nil hnone]

/-- A move without quotes stays where all of its slots have a pair. -/
lemma part_of_filled_move {name : String} {body : List String} (hindex : index ≠ layoutIndex)
    (htokens : tokens? command = some (name :: body)) (hmove : Text.alike name "move")
    (hquote : '"' ∉ command.toList) (hall : AllFilled pairs command) :
    part template pairs index command ≠ [] := by
  rw [allFilled_of_no_quote hquote htokens] at hall
  rw [Ne, (part_of_plain_move hindex htokens hmove hquote).1]
  rintro (⟨hgroups, hnone⟩ | ⟨t, ht, hempty⟩)
  · obtain ⟨g, groups, hfours⟩ := List.exists_cons_of_ne_nil hgroups
    have hg : g ∈ fours body := hfours ▸ List.mem_cons_self
    have hempty : isEmptySlot pairs.length (g.headD "") := by
      have hgone := List.filter_eq_nil_iff.mp hnone g hg
      rwa [Bool.not_eq_true, Bool.not_eq_false'] at hgone
    obtain ⟨mover, tail, rfl⟩ := exists_mover hg
    refine not_allFilled_of_isEmptyMover (isEmptyMover_of_isEmptySlot hempty)
      (hall mover (List.mem_cons_of_mem name ?_))
    rw [← Script.flatten_fours_append_leftover body]
    exact List.mem_append_left _ (List.mem_flatten.mpr ⟨_, hg, List.mem_cons_self⟩)
  · have hbody := (List.mem_cons.mp ht).imp_right mem_of_mem_remaining
    exact hempty (hall t (List.mem_cons.mpr hbody))

/-- Nothing is dropped where all slots have a pair. -/
lemma part_ne_nil (hall : AllFilled pairs command)
    (hkind : index = layoutIndex ∨ IsPlain index command ∨ '"' ∉ command.toList) :
    part template pairs index command ≠ [] := by
  by_cases hindex : index = layoutIndex
  · rw [part, if_pos hindex]
    exact List.cons_ne_nil _ _
  rcases hkind.resolve_left hindex with hplain | hquote
  · exact fun hgone => hplain.part_eq_nil_iff.mp hgone hall
  · by_cases hmove : ∃ name body, tokens? command = some (name :: body) ∧ Text.alike name "move"
    · obtain ⟨name, body, htokens, halike⟩ := hmove
      exact part_of_filled_move hindex htokens halike hquote hall
    · have hplain : IsPlain index command :=
        ⟨hindex, fun name body htokens halike => hmove ⟨name, body, htokens, halike⟩,
          fun _ _ _ _ => hquote⟩
      exact fun hgone => hplain.part_eq_nil_iff.mp hgone hall

end Plain

/-- **Only commands of empty slots are dropped.** The script of a dance is what the commands of the
template contribute, each at its place. A command that is neither the layout nor a move, and has no
quotes if it is a warp, goes just if it names an empty slot. What it contributes otherwise is one
command, or two where a rule for frames splits it; no slot is named there if no villager is named
after one; and a command that names no slot is copied as it is if no rule for frames is for it. So
nothing is dropped, no move without quotes either, where all slots have a pair. That is so if there
are as many pairs as `slotCount` says and every number of a slot can be read and is not zero. -/
theorem only_commands_of_empty_slots_go (template : List String) (pairs : List DancePair) :
    assemble template pairs =
      (template.zipIdx.map fun place => part template pairs place.2 place.1).flatten ∧
    (∀ index command, IsPlain index command →
      let own := part template pairs index command
      let filled := substitute pairs (respace (warpsAt template index) pairs.length command)
      (own = [] ↔ ∃ s ∈ SlotName.allIn command, s.IsEmpty pairs.length) ∧
      (own ≠ [] → (own.length = 1 ∨ own.length = 2) ∧
        (Reframed filled own ∨ own = [filled] ∧ ∀ texts, ¬ Reframed filled texts)) ∧
      (NamesNoSlot pairs → ∀ text ∈ own, SlotName.allIn text = []) ∧
      (SlotName.allIn command = [] → (∀ texts, ¬ Reframed command texts) → own = [command])) ∧
    ((∀ command ∈ template, ∀ s ∈ SlotName.allIn command, ¬ s.IsEmpty pairs.length) →
      ∀ index command, template[index]? = some command →
        index = layoutIndex ∨ IsPlain index command ∨ '"' ∉ command.toList →
        part template pairs index command ≠ []) ∧
    (slotCount template ≤ pairs.length → ∀ command ∈ template, ∀ s ∈ SlotName.allIn command,
      s.IsEmpty pairs.length ↔ s.number? = none ∨ s.number? = some 0) := by
  refine ⟨assemble_eq template pairs, fun index command hplain => ?_,
    fun hall index command hcommand => ?_, fun hcount command hcommand s hs => ?_⟩
  · intro own filled
    refine ⟨hplain.part_eq_nil_iff.trans not_allFilled_iff, fun hthere => ?_, hplain.allIn_part,
      fun hnone hrules => ?_⟩
    · have hown : own = reframe filled := by
        have hall : AllFilled pairs command :=
          by_contra fun hempty => hthere (hplain.part_eq_nil_iff.mpr hempty)
        exact hplain.part_eq.trans (if_pos hall)
      rw [hown]
      exact ⟨length_reframe filled, reframe_cases filled⟩
    · have hown : own = reframe command := hplain.part_of_allIn_eq_nil hnone
      rw [hown]
      exact ((reframe_cases command).resolve_left (hrules _)).1
  · refine part_ne_nil (by_contra fun hempty => ?_)
    obtain ⟨s, hs, hslot⟩ := not_allFilled_iff.mp hempty
    exact hall command (List.mem_of_getElem? hcommand) s hs hslot
  · rw [SlotName.IsEmpty]
    cases hn : s.number? with
    | none => simp
    | some n =>
      have hle := SlotName.le_slotCount hcommand hs hn
      simp only [Option.some.injEq, reduceCtorEq, false_or, forall_eq']
      omega

/-- A player poses and turns in the place of a slot, and no slot is left. -/
theorem player_poses_and_turns :
    let template := ["none", "follow", "Lewis 0 0 2", "showFrame Leader1 44"]
    let pairs := [DancePair.mk (.player 1) (.villager "Haley")]
    let own := part template pairs 3 "showFrame Leader1 44"
    own = ["showFrame farmer1 12", "faceDirection farmer1 0"] ∧
      ∀ text ∈ own, SlotName.allIn text = [] := by
  intro template pairs own
  have htokens : tokens? "showFrame Leader1 44" = some ["showFrame", "Leader1", "44"] := by
    decide +kernel
  have hplain : IsPlain 3 "showFrame Leader1 44" := by
    refine ⟨by decide, fun name body h => ?_, fun name body h => ?_⟩ <;> rw [htokens] at h <;>
      cases h <;> decide +kernel
  have hnames : NamesNoSlot pairs := by
    intro pair hpair name hname
    rw [List.mem_singleton.mp hpair] at hname
    rcases hname with h | h <;> cases h
    decide +kernel
  obtain ⟨-, hcommands, -⟩ := only_commands_of_empty_slots_go template pairs
  obtain ⟨-, -, hnone, -⟩ := hcommands 3 "showFrame Leader1 44" hplain
  refine ⟨?_, hnone hnames⟩
  decide +kernel

/-- Where there are as many pairs as the template has slots, a command goes that names the slot of
the number zero, for this is the number of no pair. -/
theorem slot_zero_is_never_filled :
    let template := ["none", "follow", "Lewis 0 0 2", "warp Leader1 1 1", "speak Leader0 hi"]
    let pairs := [DancePair.mk (.villager "Alex") (.villager "Haley")]
    slotCount template = pairs.length ∧
      assemble template pairs = ["none", "follow", "Lewis 0 0 2", "warp Alex 1 1"] := by
  decide +kernel

end Dance

end Cutscene
