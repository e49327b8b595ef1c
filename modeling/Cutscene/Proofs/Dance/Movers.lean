import Cutscene.Proofs.Dance.Parts

/-!
# Shared Moves

A move may be shared by many movers, and those of empty slots are to be left out. A mover counts as
one of them if it is the name of an empty slot as a whole token. Behind that the command goes if it
names an empty slot anywhere, so that a mover with a question mark behind the name of an empty slot
takes all the others along.
-/

namespace Cutscene.Dance

open Script (IsWord tokens? fours leftover)

variable {pairs : List DancePair}

/-- The groups of a move that are not those of empty slots. -/
def standing (filled : Nat) (body : List String) : List (List String) :=
  (fours body).filter fun group => !isEmptySlot filled (group.headD "")

/-- The mover of a group refers to an empty slot: it is the name of one, with or without a question
mark behind it. -/
def isEmptyMover (filled : Nat) (group : List String) : Bool :=
  isEmptySlot filled (ActorRef.splitMark (group.headD "")).1

lemma remaining_eq (filled : Nat) (body : List String) :
    remaining filled body = (standing filled body).flatten ++ leftover body := rfl

lemma exists_mover {body group : List String} (h : group ∈ fours body) :
    ∃ mover tail, group = mover :: tail :=
  List.exists_cons_of_length_eq_add_one (Script.length_of_mem_fours h)

lemma mem_of_mem_remaining {filled : Nat} {body : List String} {t : String}
    (h : t ∈ remaining filled body) : t ∈ body := by
  rw [← Script.flatten_fours_append_leftover body, List.mem_append]
  exact (List.mem_append.mp h).imp_left fun hmem =>
    ((List.filter_sublist (l := fours body)).flatten).subset hmem

/-! ### The name of a move -/

/-- The name of a move has none but the letters of the word in it, small or not. -/
lemma not_mem_of_move {name : String} (h : Text.alike name "move") {others : List Char}
    (hothers : others.all fun c => c.toLower ∉ ['m', 'o', 'v', 'e']) {c : Char}
    (hc : c ∈ name.toList) : c ∉ others := by
  have hlower : name.toList.map Char.toLower = ['m', 'o', 'v', 'e'] := by
    have hlower := congrArg String.toList (Text.alike_iff.mp h)
    rwa [Text.lower, Text.lower, String.toList_ofList, String.toList_ofList] at hlower
  intro hmem
  have hother := of_decide_eq_true (List.all_eq_true.mp hothers c hmem)
  exact hother (hlower ▸ List.mem_map_of_mem hc)

/-- The name of a move names no slot. -/
lemma allIn_of_move {name : String} (h : Text.alike name "move") : SlotName.allIn name = [] := by
  have hrole (role : Role) : 'r' ∈ role.word.toList := by cases role <;> decide
  refine SlotName.allIn_eq_nil_of_not_mem hrole fun hr => ?_
  have hothers : 'r' ∉ ['r'] := not_mem_of_move h (by decide) hr
  exact hothers List.mem_cons_self

lemma isWord_of_move {name : String} (h : Text.alike name "move") : IsWord name := by
  refine ⟨?_, fun c hc => ?_⟩
  · rintro rfl
    exact absurd h (by decide)
  · have hothers : c ∉ [' ', '\t', '"'] := not_mem_of_move h (by decide) hc
    simpa [Script.isGap, and_assoc] using hothers

/-- No warp begins with the name of a move. -/
lemma ofCommand?_spaced_move {name : String} (h : Text.alike name "move") (ts : List String) :
    SlotWarp.ofCommand? (Text.spaced (name :: ts)) = none := by
  have hread := Script.tokens?_spaced_cons (isWord_of_move h) ts
  cases hts : tokens? (Text.spaced ts) with
  | none =>
    rw [hts, Option.map_none] at hread
    rw [SlotWarp.ofCommand?, hread]
  | some us =>
    rw [hts, Option.map_some] at hread
    exact ofCommand?_of_not_warp hread (not_warp_of_move h)

/-- A reference to an empty slot names the slot, marked or not. -/
lemma not_allFilled_of_isEmptyMover {group : List String} (h : isEmptyMover pairs.length group) :
    ¬ AllFilled pairs (group.headD "") := by
  obtain ⟨s, hs, hempty⟩ := isEmptySlot_iff.mp h
  obtain ⟨hne, hword⟩ := SlotName.word_of_ofRun? hs
  intro hall
  obtain ⟨d, hd⟩ := hall s <| by
    rw [SlotName.allIn, ActorRef.toList_eq_splitMark,
      Text.runs_append_run (b := true) hne hword (by split <;> simp [Text.isWord])]
    exact List.mem_filterMap.mpr ⟨_, List.mem_cons_self, hs⟩
  rw [hempty] at hd
  cases hd

lemma isEmptyMover_of_isEmptySlot {filled : Nat} {group : List String}
    (h : isEmptySlot filled (group.headD "")) : isEmptyMover filled group := by
  have hplain : (group.headD "").toList.getLast? ≠ some '?' := by
    intro hmark
    rw [isEmptySlot] at h
    split at h
    · rename_i s hs
      exact absurd ((SlotName.word_of_ofRun? hs).2 '?' (List.mem_of_getLast? hmark)) (by decide)
    · cases h
  rwa [isEmptyMover, ActorRef.splitMark_of_no_mark hplain]

/-! ### What a move contributes -/

section Move

variable {template : List String} {index : Nat} {command name : String} {body : List String}

lemma sheds_iff_standing (hmove : Text.alike name "move") {filled : Nat} :
    Sheds filled name body ↔ standing filled body ≠ fours body := by
  rw [Ne, standing, List.filter_eq_self]
  simp [Sheds, hmove]

/-- A move without a group of an empty slot stays as it is written, or goes if it names an empty
slot anywhere. -/
lemma part_of_full_move (hindex : index ≠ layoutIndex)
    (htokens : tokens? command = some (name :: body)) (hmove : Text.alike name "move")
    (hfull : standing pairs.length body = fours body) :
    part template pairs index command =
      if AllFilled pairs command then [substitute pairs command] else [] := by
  have hkeeps : ∀ name' body', tokens? command = some (name' :: body') →
      ¬ Sheds pairs.length name' body' := by
    intro name' body' hts
    rw [htokens] at hts
    cases hts
    exact mt (sheds_iff_standing hmove).mp (by simpa)
  have hreframe : reframe (substitute pairs command) = [substitute pairs command] :=
    reframe_of_alike hmove (by decide) fun c hc => Script.head?_of_tokens? htokens hc
  rw [part_of_not_sheds hindex hkeeps,
    respace_of_not_warp (ofCommand?_of_not_warp htokens (not_warp_of_move hmove)), hreframe]

/-- A move with groups of empty slots is written anew without them, or goes if no group is left or
what is left names an empty slot anywhere. -/
lemma part_of_shed_move (hindex : index ≠ layoutIndex)
    (htokens : tokens? command = some (name :: body)) (hmove : Text.alike name "move")
    (hshed : standing pairs.length body ≠ fours body) :
    part template pairs index command =
      if standing pairs.length body ≠ [] ∧
        ∀ t ∈ name :: remaining pairs.length body, AllFilled pairs t
      then [Text.spaced ((name :: remaining pairs.length body).map (substitute pairs))]
      else [] := by
  have hsheds : Sheds pairs.length name body := (sheds_iff_standing hmove).mpr hshed
  rw [part, if_neg hindex]
  rcases prune_cases pairs.length command with ⟨-, hkeeps⟩ | ⟨name', body', hts, -, hcases⟩
  · exact absurd hsheds (hkeeps name body htokens)
  rw [htokens] at hts
  cases hts
  rcases hcases with ⟨hprune, hempty⟩ | ⟨hprune, hstands⟩
  · have hnone : standing pairs.length body = [] := by simpa [standing] using hempty
    simp only [fillCommand, hprune]
    exact (if_neg fun h => h.1 hnone).symm
  · have hsome : standing pairs.length body ≠ [] := by simpa [standing] using hstands
    set left := Text.spaced (name :: remaining pairs.length body) with hleft
    have hreframe : reframe (substitute pairs left) = [substitute pairs left] :=
      reframe_of_alike hmove (by decide) fun c hc =>
        .inr (.inr (by rwa [hleft, Text.head?_spaced_cons (isWord_of_move hmove).1] at hc))
    have hrespace : respace (warpsAt template index) pairs.length left = left :=
      respace_of_not_warp (ofCommand?_spaced_move hmove _)
    simp only [fillCommand, hprune, ← allFilled_iff, hrespace, hreframe]
    simp only [hleft, allFilled_spaced, hsome, ne_eq, not_false_eq_true, true_and,
      substitute_spaced]

/-- A move without quotes goes if all of its movers are empty slots, or if what is left of it names
an empty slot. If it stays, what is left of it is there. -/
lemma part_of_plain_move (hindex : index ≠ layoutIndex)
    (htokens : tokens? command = some (name :: body)) (hmove : Text.alike name "move")
    (hquote : '"' ∉ command.toList) :
    (part template pairs index command = [] ↔
      fours body ≠ [] ∧ standing pairs.length body = [] ∨
        ∃ t ∈ name :: remaining pairs.length body, ¬ AllFilled pairs t) ∧
    (WordsOnly pairs → part template pairs index command ≠ [] →
      ∃ filled, part template pairs index command = [filled] ∧
        tokens? filled = some ((name :: remaining pairs.length body).map (substitute pairs))) := by
  by_cases hfull : standing pairs.length body = fours body
  · have hbody : remaining pairs.length body = body := by
      rw [remaining_eq, hfull, Script.flatten_fours_append_leftover]
    have hall : AllFilled pairs command ↔ _ := allFilled_of_no_quote hquote htokens
    rw [part_of_full_move hindex htokens hmove hfull, hbody, hfull]
    refine ⟨?_, fun hwords hstays => ?_⟩
    · rw [ite_eq_right_iff, imp_iff_not (List.cons_ne_nil _ _), hall, not_and_self_iff, false_or]
      push Not
      rfl
    · refine ⟨_, if_pos (by_contra fun hgone => hstays (if_neg hgone)), ?_⟩
      rw [hwords.tokens?_substitute hquote, htokens, Option.map_some]
  · have hgroups : standing pairs.length body = [] → fours body ≠ [] := fun hnone hno =>
      hfull (hnone.trans hno.symm)
    rw [part_of_shed_move hindex htokens hmove hfull]
    refine ⟨?_, fun hwords hstays => ?_⟩
    · rw [ite_eq_right_iff, imp_iff_not (List.cons_ne_nil _ _), not_and_or, not_not,
        and_iff_right_of_imp hgroups]
      push Not
      rfl
    · refine ⟨_, if_pos (by_contra fun hgone => hstays (if_neg hgone)), Script.tokens?_spaced ?_⟩
      intro t ht
      obtain ⟨u, hu, rfl⟩ := List.mem_map.mp ht
      refine hwords.isWord_substitute (Script.isWord_of_tokens? hquote htokens ?_)
      exact List.mem_cons.mpr ((List.mem_cons.mp hu).imp_right mem_of_mem_remaining)

/-- Slots are named by the movers of a move only, each by a whole token with or without a question
mark behind it. -/
structure NamesMovers (pairs : List DancePair) (body : List String) : Prop where
  movers : ∀ g ∈ fours body, isEmptyMover pairs.length g ∨ AllFilled pairs (g.headD "")
  tails : ∀ g ∈ fours body, ∀ t ∈ g.tail, SlotName.allIn t = []
  flag : ∀ t ∈ leftover body, SlotName.allIn t = []

/-- The movers of empty slots are without question marks. -/
def Unmarked (filled : Nat) (body : List String) : Prop :=
  ∀ g ∈ fours body, isEmptyMover filled g → isEmptySlot filled (g.headD "")

lemma allFilled_of_allIn_eq_nil {text : String} (h : SlotName.allIn text = []) :
    AllFilled pairs text := by
  rw [AllFilled, h]
  exact List.forall_mem_nil _

lemma NamesMovers.allFilled (h : NamesMovers pairs body) (hplain : Unmarked pairs.length body) :
    ∀ t ∈ remaining pairs.length body, AllFilled pairs t := by
  intro t ht
  rcases List.mem_append.mp ht with ht | ht
  · obtain ⟨g, hg, ht⟩ := List.mem_flatten.mp ht
    obtain ⟨hg, hstands⟩ := List.mem_filter.mp hg
    obtain ⟨mover, tail, rfl⟩ := exists_mover hg
    rcases List.mem_cons.mp ht with rfl | ht
    · refine (h.movers _ hg).resolve_left fun hempty => ?_
      rw [hplain _ hg hempty] at hstands
      cases hstands
    · exact allFilled_of_allIn_eq_nil (h.tails _ hg t ht)
  · exact allFilled_of_allIn_eq_nil (h.flag t ht)

/-- Only the movers have dancers written over them. -/
lemma NamesMovers.map_substitute (h : NamesMovers pairs body) :
    (remaining pairs.length body).map (substitute pairs) =
      ((standing pairs.length body).map fun g =>
        substitute pairs (g.headD "") :: g.tail).flatten ++ leftover body := by
  have hstay : ∀ ts : List String, (∀ t ∈ ts, SlotName.allIn t = []) →
      ts.map (substitute pairs) = ts := fun ts hts =>
    (List.map_congr_left fun t ht => substitute_of_allIn_eq_nil (hts t ht)).trans (List.map_id' ts)
  rw [remaining_eq, List.map_append, hstay _ h.flag, List.map_flatten]
  refine congrArg (·.flatten ++ _) (List.map_congr_left fun g hg => ?_)
  have hg := List.mem_of_mem_filter hg
  obtain ⟨mover, tail, rfl⟩ := exists_mover hg
  rw [List.map_cons, List.headD_cons, List.tail_cons, hstay tail (h.tails _ hg)]

end Move

/-- **A shared move sheds the empty slots that are not marked.** A move that has no group of an
empty slot is filled as it is written; otherwise the groups that are left are written anew, without
quotes. It goes if no group is left, but also if what is left names an empty slot anywhere. So, of a
move without quotes in which only movers name slots, exactly the groups of empty slots are shed if
none of them has a question mark behind it, and one that has takes all the others along. -/
theorem shared_move_sheds_unmarked_slots {template : List String} {index : Nat}
    {command name : String} {body : List String} (hindex : index ≠ layoutIndex)
    (htokens : tokens? command = some (name :: body)) (hmove : Text.alike name "move") :
    let own := part template pairs index command
    let left := name :: remaining pairs.length body
    assemble template pairs =
      (template.zipIdx.map fun place => part template pairs place.2 place.1).flatten ∧
    (standing pairs.length body = fours body →
      own = if AllFilled pairs command then [substitute pairs command] else []) ∧
    (standing pairs.length body ≠ fours body →
      own = if standing pairs.length body ≠ [] ∧ ∀ t ∈ left, AllFilled pairs t
        then [Text.spaced (left.map (substitute pairs))] else []) ∧
    ('"' ∉ command.toList →
      (Unmarked pairs.length body → WordsOnly pairs → NamesMovers pairs body →
        let kept := (fours body).filter fun group => !isEmptyMover pairs.length group
        (own = [] ↔ fours body ≠ [] ∧ kept = []) ∧
        (own ≠ [] → ∃ filled, own = [filled] ∧
          tokens? filled = some (name ::
            (kept.map fun group => substitute pairs (group.headD "") :: group.tail).flatten ++
              leftover body))) ∧
      (¬ Unmarked pairs.length body → own = [])) := by
  intro own left
  refine ⟨assemble_eq template pairs, part_of_full_move hindex htokens hmove,
    part_of_shed_move hindex htokens hmove, fun hquote => ?_⟩
  obtain ⟨hgoes, hstays⟩ : (part template pairs index command = [] ↔ _) ∧ _ :=
    part_of_plain_move hindex htokens hmove hquote
  constructor
  · intro hplain hwords hnames kept
    have hkept : standing pairs.length body = kept := List.filter_congr fun g hg => by
      rw [Bool.eq_iff_iff.mpr ⟨hplain g hg, isEmptyMover_of_isEmptySlot⟩]
    have hfilled : ∀ t ∈ left, AllFilled pairs t := List.forall_mem_cons.mpr
      ⟨allFilled_of_allIn_eq_nil (allIn_of_move hmove), hnames.allFilled hplain⟩
    refine ⟨?_, fun hthere => ?_⟩
    · rw [hgoes, hkept, or_iff_left]
      rintro ⟨t, ht, hempty⟩
      exact hempty (hfilled t ht)
    · obtain ⟨filled, hown, hread⟩ := hstays hwords hthere
      refine ⟨filled, hown, ?_⟩
      rw [hread, List.map_cons, hnames.map_substitute, hkept,
        substitute_of_allIn_eq_nil (allIn_of_move hmove)]
      rfl
  · intro hmarked
    simp only [Unmarked, not_forall] at hmarked
    obtain ⟨g, hg, hempty, hmark⟩ := hmarked
    refine hgoes.mpr (.inr ⟨g.headD "", List.mem_cons_of_mem _ ?_, ?_⟩)
    · have hstands : g ∈ standing pairs.length body :=
        List.mem_filter.mpr ⟨hg, by simpa using hmark⟩
      obtain ⟨mover, tail, rfl⟩ := exists_mover hg
      exact List.mem_append_left _ (List.mem_flatten.mpr ⟨_, hstands, List.mem_cons_self⟩)
    · exact not_allFilled_of_isEmptyMover hempty

/-- Of two movers the one without a dancer is left out, and the flag stays. -/
theorem shared_move_keeps_filled_mover :
    let template := ["none", "follow", "Lewis 0 0 2", "move Leader1 0 1 2 Leader2 0 1 2 continue"]
    let pairs := [DancePair.mk (.villager "Alex") (.villager "Haley")]
    ∃ filled, part template pairs 3 "move Leader1 0 1 2 Leader2 0 1 2 continue" = [filled] ∧
      tokens? filled = some ["move", "Alex", "0", "1", "2", "continue"] := by
  intro template pairs
  have htokens : tokens? "move Leader1 0 1 2 Leader2 0 1 2 continue" =
      some ["move", "Leader1", "0", "1", "2", "Leader2", "0", "1", "2", "continue"] := by
    decide +kernel
  have hindex : 3 ≠ layoutIndex := by decide
  obtain ⟨-, -, -, hplain⟩ := @shared_move_sheds_unmarked_slots pairs template 3 _ _ _ hindex
    htokens (by decide +kernel)
  obtain ⟨hgoes, hstays⟩ := (hplain (by decide +kernel)).1 (by unfold Unmarked; decide +kernel)
    (by unfold WordsOnly; decide +kernel)
    ⟨by decide +kernel, by decide +kernel, by decide +kernel⟩
  obtain ⟨filled, hown, hread⟩ := hstays (mt hgoes.mp (by decide +kernel))
  refine ⟨filled, hown, hread.trans ?_⟩
  decide +kernel

/-- Where the mover of an empty slot has a question mark behind it, the mover that is there does not
move either, though the group is not one of an empty slot. Where a group is shed, a name of two
words is two tokens of what is left. -/
theorem marked_mover_stops_the_others :
    let pairs := [DancePair.mk (.villager "Alex") (.villager "Haley")]
    let body := ["Leader1", "0", "1", "2", "Leader2?", "0", "1", "2"]
    (tokens? "move Leader1 0 1 2 Leader2? 0 1 2" = some ("move" :: body) ∧
      ((fours body).filter fun group => !isEmptyMover pairs.length group) =
        [["Leader1", "0", "1", "2"]] ∧
      assemble ["none", "follow", "Lewis 0 0 2", "move Leader1 0 1 2 Leader2? 0 1 2"] pairs =
        ["none", "follow", "Lewis 0 0 2"]) ∧
    let body := ["Old Sam", "0", "1", "2", "Leader2", "0", "1", "2"]
    tokens? "move \"Old Sam\" 0 1 2 Leader2 0 1 2" = some ("move" :: body) ∧
      ((fours body).filter fun group => !isEmptyMover pairs.length group) =
        [["Old Sam", "0", "1", "2"]] ∧
      assemble ["none", "follow", "Lewis 0 0 2", "move \"Old Sam\" 0 1 2 Leader2 0 1 2"] pairs =
        ["none", "follow", "Lewis 0 0 2", "move Old Sam 0 1 2"] ∧
      tokens? "move Old Sam 0 1 2" = some ["move", "Old", "Sam", "0", "1", "2"] := by
  decide +kernel

end Cutscene.Dance
