import Cutscene.Content.Validation
import Cutscene.Proofs.Dance.Pairing
import Cutscene.Proofs.Troupe.Layout
import Cutscene.Scalar.Single
import Cutscene.Stage.Rehearsal

/-!
# Dancers as Actors

Nobody is asked to dance twice (`nodup_dancers`), where dancers are told apart letter by letter. The
stage does not look that closely: a name may differ from another in letter case alone, carry a mark
or read as a player. Where the names of the villagers tell them apart on the stage as well, all
dancers are actors of their own, and they all stay where a layout brings them on.
-/

namespace Cutscene

/-- Whom the token of a dancer means on the stage. -/
def Dancer.whom (localPlayer : Nat) (d : Dancer) : ActorId :=
  (ActorRef.parse d.token).id.whom localPlayer

/-- The name of a villager. -/
def Dancer.name? : Dancer → Option String
  | .player _ => none
  | .villager name => some name

/-- The villagers who may dance: those whom a granted binding names, and those of the roster. -/
def DanceInput.villagers (i : DanceInput) (roster : DanceRoster) : List String :=
  (i.kept.flatMap fun b => [b.dancer, b.partner].filterMap Dancer.name?) ++
    (roster.leaders ++ roster.followers)

/-- Names that mean villagers of their own: each is read as the name that it is, and no two differ
in letter case alone. -/
structure NamesApart (names : List String) : Prop where
  plain : ∀ name ∈ names, ActorRef.parse name = ⟨.named name, false⟩
  unlike : ∀ name ∈ names, ∀ other ∈ names, Text.alike name other → name = other

lemma Dancer.whom_player {n : Nat} (h : n < 0x100000000) (localPlayer : Nat) :
    (Dancer.player n).whom localPlayer = .player n := by
  rw [whom, token, id, ActorRef.parse_player h]
  rfl

lemma NamesApart.whom_villager {names : List String} (h : NamesApart names) {name : String}
    (hname : name ∈ names) (localPlayer : Nat) :
    (Dancer.villager name).whom localPlayer = .named (Text.lower name) := by
  have hparse : ActorRef.parse (Dancer.villager name).token = ⟨.named name, false⟩ :=
    h.plain name hname
  rw [Dancer.whom, hparse]
  rfl

/-- Dancers with such names are taken for themselves. -/
lemma NamesApart.eq_of_whom_eq {names : List String} (h : NamesApart names) {d e : Dancer}
    {localPlayer : Nat} (hd : ∀ n, d = .player n → n < 0x100000000)
    (he : ∀ n, e = .player n → n < 0x100000000) (hdn : ∀ name, d = .villager name → name ∈ names)
    (hen : ∀ name, e = .villager name → name ∈ names)
    (heq : d.whom localPlayer = e.whom localPlayer) : d = e := by
  cases d with
  | player m =>
    rw [Dancer.whom_player (hd m rfl)] at heq
    cases e with
    | player n =>
      rw [Dancer.whom_player (he n rfl)] at heq
      rw [ActorId.player.inj heq]
    | villager name => rw [h.whom_villager (hen name rfl)] at heq; cases heq
  | villager name =>
    rw [h.whom_villager (hdn name rfl)] at heq
    cases e with
    | player n => rw [Dancer.whom_player (he n rfl)] at heq; cases heq
    | villager other =>
      rw [h.whom_villager (hen other rfl)] at heq
      have halike := Text.alike_iff.mpr (ActorId.named.inj heq)
      rw [h.unlike name (hdn name rfl) other (hen other rfl) halike]

section Dance

variable {i : DanceInput} {roster : DanceRoster} {slots : Nat} {pairs : List DancePair}

/-- Whoever dances is bound by a granted binding or is a villager of the roster. -/
lemma mem_dancers (hpairs : pairDancers i roster slots = .ok pairs) {d : Dancer}
    (hd : d ∈ pairs.flatMap DancePair.dancers) :
    (∃ b ∈ i.kept, d ∈ [b.dancer, b.partner]) ∨
      ∃ name ∈ roster.leaders ++ roster.followers, d = .villager name := by
  have hd := ((perm_of_pairDancers hpairs).flatMap_right _).mem_iff.mp hd
  rw [List.flatMap_append, List.mem_append, List.flatMap_map] at hd
  refine hd.imp (fun hbound => ?_) fun hfree => ?_
  · obtain ⟨b, hb, hdb⟩ := List.mem_flatMap.mp hbound
    exact ⟨b, hb, Binding.mem_dancers_pair.mp hdb⟩
  · obtain ⟨p, hp, hdp⟩ := List.mem_flatMap.mp hfree
    obtain ⟨hleader, hfollower⟩ := DancePair.mem_of_mem_zipWith (List.mem_of_mem_take hp)
    rw [i.free_eq, List.mem_map] at hleader hfollower
    obtain ⟨leader, hl, hleader⟩ := hleader
    obtain ⟨follower, hf, hfollower⟩ := hfollower
    simp only [DancePair.dancers, List.mem_cons, List.not_mem_nil, or_false] at hdp
    rcases hdp with rfl | rfl
    · exact ⟨leader, List.mem_append_left _ (List.mem_of_mem_filter hl), hleader.symm⟩
    · exact ⟨follower, List.mem_append_right _ (List.mem_of_mem_filter hf), hfollower.symm⟩

lemma mem_online (hpairs : pairDancers i roster slots = .ok pairs) {n : Nat}
    (hn : .player n ∈ pairs.flatMap DancePair.dancers) : n ∈ i.online := by
  rcases mem_dancers hpairs hn with ⟨b, hb, hd⟩ | ⟨name, -, heq⟩
  · have hpresent := i.apart_kept.present b hb _ (Binding.mem_dancers_pair.mpr hd)
    simpa [Dancer.isPresent] using hpresent
  · cases heq

lemma mem_villagers (hpairs : pairDancers i roster slots = .ok pairs) {name : String}
    (hname : .villager name ∈ pairs.flatMap DancePair.dancers) : name ∈ i.villagers roster := by
  rcases mem_dancers hpairs hname with ⟨b, hb, hd⟩ | ⟨other, hother, heq⟩
  · exact List.mem_append_left _ (List.mem_flatMap.mpr ⟨b, hb, List.mem_filterMap.mpr ⟨_, hd, rfl⟩⟩)
  · cases heq
    exact List.mem_append_right _ hother

/-- Where the names of the villagers tell them apart, no two dancers are taken for one actor. -/
lemma NamesApart.nodup_whoms (h : NamesApart (i.villagers roster)) (localPlayer : Nat)
    (hroster : (roster.leaders ++ roster.followers).Nodup)
    (hnumbers : ∀ n ∈ i.online, n < 0x100000000)
    (hpairs : pairDancers i roster slots = .ok pairs) :
    ((pairs.flatMap DancePair.dancers).map (Dancer.whom localPlayer)).Nodup := by
  refine (nodup_dancers hroster hpairs).map_on fun d hd e he heq => ?_
  refine h.eq_of_whom_eq ?_ ?_ ?_ ?_ heq
  · rintro n rfl; exact hnumbers n (mem_online hpairs hd)
  · rintro n rfl; exact hnumbers n (mem_online hpairs he)
  · rintro name rfl; exact mem_villagers hpairs hd
  · rintro name rfl; exact mem_villagers hpairs he

end Dance

section Stage

variable {α σ : Type} [Scalar α] [Stage α σ] {s : Scene α σ}

/-- The layout brings these actors on for these dancers. -/
def Scene.Brings (s : Scene α σ) : List Dancer → List (Actor α) → Prop :=
  List.Forall₂ fun d a => ∃ tile facing, s.layoutActor? d.token tile facing = some a

lemma Scene.Brings.whoms {dancers : List Dancer} {actors : List (Actor α)}
    (h : s.Brings dancers actors) :
    actors.map (Actor.whom (Stage.localPlayer α s.stage)) =
      dancers.map (Dancer.whom (Stage.localPlayer α s.stage)) := by
  induction h with
  | nil => rfl
  | cons hbrings _ ih =>
    obtain ⟨tile, facing, hactor⟩ := hbrings
    rw [List.map_cons, List.map_cons, ih, whom_layoutActor? hactor]
    rfl

end Stage

/-- **Dancers are actors of their own, if their names are.** For a roster that content may have:
where there is a dance, no dancer is in it twice. If the names of the villagers who may dance tell
them apart on the stage, no two dancers are taken for one actor. And that no two are is just what it
takes for all of them to stay, in whatever order a layout brings them on. -/
theorem dancers_are_actors_of_their_own {α σ : Type} [Scalar α] [Stage α σ] {i : DanceInput}
    {roster : DanceRoster} {slots : Nat} {pairs : List DancePair} (localPlayer : Nat)
    (hroster : Content.rosterFaults roster = []) (hnumbers : ∀ n ∈ i.online, n < 0x100000000)
    (hpairs : pairDancers i roster slots = .ok pairs) :
    let dancers := pairs.flatMap DancePair.dancers
    let whoms := dancers.map (Dancer.whom localPlayer)
    dancers.Nodup ∧ (NamesApart (i.villagers roster) → whoms.Nodup) ∧
      ∀ (s : Scene α σ) (named : List Dancer) (actors : List (Actor α)),
        Stage.localPlayer α s.stage = localPlayer → named.Perm dancers → s.Brings named actors →
          (((Cast.empty localPlayer).after (actors.map .comesOn)).members.map Prod.snd = actors ↔
            whoms.Nodup) := by
  intro dancers whoms
  have hnames : (roster.leaders ++ roster.followers).Nodup := by
    rw [Content.rosterFaults, List.append_eq_nil_iff, List.map_eq_nil_iff,
      Content.repeated_eq_nil_iff] at hroster
    exact hroster.1.1
  refine ⟨nodup_dancers hnames hpairs,
    fun hapart => hapart.nodup_whoms localPlayer hnames hnumbers hpairs, ?_⟩
  rintro s named actors rfl hperm hbrings
  rw [Cast.snd_after_comesOn_iff, hbrings.whoms]
  exact (hperm.map _).nodup_iff

/-- The first player leads Haley, and Alex and Penny are the next of the roster: the stage takes
them for four. -/
theorem haley_is_told_apart :
    let i : DanceInput := ⟨[1], [⟨.player 1, .leader, .villager "Haley"⟩]⟩
    let roster : DanceRoster := ⟨[⟨"Alex", "Haley"⟩, ⟨"Sam", "Penny"⟩]⟩
    Content.rosterFaults roster = [] ∧ NamesApart (i.villagers roster) ∧
      ∃ pairs, pairDancers i roster 2 = .ok pairs ∧
        (pairs.flatMap DancePair.dancers).map (Dancer.whom 1) =
          [.player 1, .named "haley", .named "alex", .named "penny"] ∧
        ((pairs.flatMap DancePair.dancers).map (Dancer.whom 1)).Nodup := by
  intro i roster
  have hroster : Content.rosterFaults roster = [] := by decide
  have hapart : NamesApart (i.villagers roster) := ⟨by decide +kernel, by decide +kernel⟩
  have hpairs : pairDancers i roster 2 =
      .ok [⟨.player 1, .villager "Haley"⟩, ⟨.villager "Alex", .villager "Penny"⟩] := by
    cbv
  obtain ⟨-, hwhoms, -⟩ := dancers_are_actors_of_their_own (α := Float32) (σ := Rehearsal) 1
    hroster (by decide) hpairs
  exact ⟨hroster, hapart, _, hpairs, by decide +kernel, hwhoms hapart⟩

/-- The first player asks for haley with a small letter, and the roster has Haley dance as well: on
the stage they are one. A roster alone does it too, with Alex and alex, and with a villager who is
called like the first player. -/
theorem haley_dances_twice :
    let whoms (pairs : List DancePair) := (pairs.flatMap DancePair.dancers).map (Dancer.whom 1)
    (let i : DanceInput := ⟨[1], [⟨.player 1, .leader, .villager "haley"⟩]⟩
    let roster : DanceRoster := ⟨[⟨"Alex", "Haley"⟩, ⟨"Sam", "Penny"⟩]⟩
    Content.rosterFaults roster = [] ∧ ∃ pairs, pairDancers i roster 2 = .ok pairs ∧
      pairs = [⟨.player 1, .villager "haley"⟩, ⟨.villager "Alex", .villager "Haley"⟩] ∧
      ¬ (whoms pairs).Nodup) ∧
    (let roster : DanceRoster := ⟨[⟨"Alex", "Haley"⟩, ⟨"alex", "Penny"⟩]⟩
    Content.rosterFaults roster = [] ∧ ∃ pairs, pairDancers ⟨[], []⟩ roster 2 = .ok pairs ∧
      ¬ (whoms pairs).Nodup) ∧
    let i : DanceInput := ⟨[1], [⟨.player 1, .leader, .villager "Haley"⟩]⟩
    let roster : DanceRoster := ⟨[⟨"farmer1", "Penny"⟩]⟩
    Content.rosterFaults roster = [] ∧ ∃ pairs, pairDancers i roster 2 = .ok pairs ∧
      ¬ (whoms pairs).Nodup := by
  intro whoms
  exact ⟨⟨by decide, _, by cbv, rfl, by decide +kernel⟩, ⟨by decide, _, by cbv, by decide +kernel⟩,
    by decide, _, by cbv, by decide +kernel⟩

end Cutscene
