import Cutscene.Dance.Pairing
import Mathlib.Data.List.Flatten
import Mathlib.Data.List.Nodup
import Mathlib.Data.List.Perm.Basic

/-!
# Who Is Paired

Bindings are granted in their order, each if its two dancers are there and still free. The dance
has all that are granted, or there is none; the slots that stay open go to the villagers of the
roster whom nobody has bound, as far as they go round. Whatever the order of the stage, nobody
dances twice.
-/

namespace Cutscene

/-- The two of a pair. -/
def DancePair.dancers (p : DancePair) : List Dancer := [p.leader, p.follower]

namespace Binding

/-- A binding can be granted beside others: both dancers are there, they are two, and neither is in
one of the others. -/
def Grantable (online : List Nat) (kept : List Binding) (b : Binding) : Prop :=
  b.dancer.isPresent online ∧ b.partner.isPresent online ∧ b.dancer ≠ b.partner ∧
    ∀ k ∈ kept, ∀ d ∈ [k.dancer, k.partner], d ≠ b.dancer ∧ d ≠ b.partner

instance (online : List Nat) (kept : List Binding) (b : Binding) :
    Decidable (b.Grantable online kept) :=
  inferInstanceAs (Decidable (_ ∧ _ ∧ _ ∧ _))

/-- The bindings that are kept when a list is gone through behind those kept already. -/
def keptAfter (online : List Nat) (kept : List Binding) : List Binding → List Binding
  | [] => kept
  | b :: rest =>
    if b.Grantable online kept then keptAfter online (kept ++ [b]) rest
    else keptAfter online kept rest

end Binding

namespace DanceInput

/-- The bindings that are granted. -/
def kept (i : DanceInput) : List Binding := Binding.keptAfter i.online [] i.bindings

/-- A villager whom no granted binding names. -/
def Unbound (i : DanceInput) (name : String) : Prop :=
  ∀ k ∈ i.kept, ∀ d ∈ [k.dancer, k.partner], d ≠ .villager name

instance (i : DanceInput) : DecidablePred i.Unbound := fun name =>
  inferInstanceAs (Decidable (∀ k ∈ i.kept, ∀ d ∈ [k.dancer, k.partner], d ≠ .villager name))

end DanceInput

/-! ### Granted bindings -/

section Granting

variable {online : List Nat} {kept bindings : List Binding} {b : Binding} {i : DanceInput}

lemma Binding.mem_dancers_pair {b : Binding} {d : Dancer} :
    d ∈ b.pair.dancers ↔ d ∈ [b.dancer, b.partner] := by
  cases hrole : b.role <;> simp [Binding.pair, hrole, DancePair.dancers, or_comm]

lemma DancePair.anyHas_iff {pairs : List DancePair} {d : Dancer} :
    DancePair.anyHas pairs d ↔ ∃ p ∈ pairs, d ∈ p.dancers := by
  simp only [anyHas, has, dancers, List.any_eq_true, Bool.or_eq_true, beq_iff_eq, List.mem_cons,
    List.not_mem_nil, or_false]
  exact exists_congr fun p => and_congr_right fun _ => or_congr eq_comm eq_comm

lemma DancePair.anyHas_map_pair {d : Dancer} :
    DancePair.anyHas (kept.map Binding.pair) d ↔ ∃ k ∈ kept, d ∈ [k.dancer, k.partner] := by
  simp only [anyHas_iff, List.mem_map, exists_exists_and_eq_and, Binding.mem_dancers_pair]

lemma DanceInput.grants_iff : i.grants (kept.map Binding.pair) b ↔ b.Grantable i.online kept := by
  simp only [DanceInput.grants, Binding.Grantable, Bool.and_eq_true, Bool.not_eq_true',
    ← Bool.not_eq_true, DancePair.anyHas_map_pair, bne_iff_ne, and_assoc, not_exists, not_and]
  refine and_congr_right fun _ => and_congr_right fun _ => and_congr_right fun _ => ?_
  constructor
  · rintro ⟨hdancer, hpartner⟩ k hk d hd
    exact ⟨fun heq => hdancer k hk (heq ▸ hd), fun heq => hpartner k hk (heq ▸ hd)⟩
  · intro h
    exact ⟨fun k hk hd => (h k hk _ hd).1 rfl, fun k hk hd => (h k hk _ hd).2 rfl⟩

/-- The pairs of a dance that are bound are those of the granted bindings, in their order. -/
lemma DanceInput.bound_eq (i : DanceInput) : i.bound = i.kept.map Binding.pair := by
  have hscan : ∀ bindings kept, bindings.foldl
      (fun bound b => if i.grants bound b then bound ++ [b.pair] else bound)
      (kept.map Binding.pair) = (Binding.keptAfter i.online kept bindings).map Binding.pair := by
    intro bindings
    induction bindings with
    | nil => exact fun _ => rfl
    | cons b rest ih =>
      intro kept
      rw [List.foldl_cons, Binding.keptAfter]
      by_cases hb : b.Grantable i.online kept
      · rw [if_pos (grants_iff.mpr hb), if_pos hb, ← ih, List.map_append, List.map_singleton]
      · rw [if_neg (mt grants_iff.mp hb), if_neg hb, ih]
  exact hscan i.bindings []

/-- Dancers who are all there, none of them twice. -/
structure Binding.Apart (online : List Nat) (kept : List Binding) : Prop where
  nodup : (kept.flatMap fun b => b.pair.dancers).Nodup
  present : ∀ b ∈ kept, ∀ d ∈ b.pair.dancers, d.isPresent online

lemma Binding.Grantable.apart (hb : b.Grantable online kept) (h : Apart online kept) :
    Apart online (kept ++ [b]) := by
  obtain ⟨hdancer, hpartner, hne, hfree⟩ := hb
  constructor
  · rw [List.flatMap_append, List.flatMap_singleton, List.nodup_append]
    refine ⟨h.nodup, ?_, fun d hd e he heq => ?_⟩
    · cases hrole : b.role
      · simpa [pair, hrole, DancePair.dancers] using hne
      · simpa [pair, hrole, DancePair.dancers] using hne.symm
    · obtain ⟨k, hk, hdk⟩ := List.mem_flatMap.mp hd
      obtain ⟨hnot, hnot'⟩ := hfree k hk d (mem_dancers_pair.mp hdk)
      have he := mem_dancers_pair.mp he
      simp only [List.mem_cons, List.not_mem_nil, or_false] at he
      rcases he with rfl | rfl
      · exact hnot heq
      · exact hnot' heq
  · intro k hk d hd
    rcases List.mem_append.mp hk with hk | hk
    · exact h.present k hk d hd
    · obtain rfl := List.mem_singleton.mp hk
      have hd := mem_dancers_pair.mp hd
      simp only [List.mem_cons, List.not_mem_nil, or_false] at hd
      rcases hd with rfl | rfl
      · exact hdancer
      · exact hpartner

lemma Binding.Apart.keptAfter (h : Apart online kept) (bindings : List Binding) :
    Apart online (keptAfter online kept bindings) := by
  induction bindings generalizing kept with
  | nil => exact h
  | cons b rest ih =>
    rw [Binding.keptAfter]
    split
    · rename_i hb
      exact ih (hb.apart h)
    · exact ih h

lemma DanceInput.apart_kept (i : DanceInput) : Binding.Apart i.online i.kept :=
  have hnone : Binding.Apart i.online [] :=
    ⟨List.nodup_nil, fun _ hb => absurd hb List.not_mem_nil⟩
  hnone.keptAfter i.bindings

lemma DanceInput.unbound_iff {name : String} :
    i.Unbound name ↔ ¬ DancePair.anyHas i.bound (.villager name) := by
  rw [bound_eq, DancePair.anyHas_map_pair]
  simp only [DanceInput.Unbound, not_exists, not_and]
  constructor
  · exact fun h k hk hd => h k hk _ hd rfl
  · exact fun h k hk d hd heq => h k hk (heq ▸ hd)

/-- Those of a list of names who are free are the unbound ones. -/
lemma DanceInput.free_eq (i : DanceInput) (names : List String) :
    i.free names = (names.filter fun name => i.Unbound name).map .villager := by
  rw [DanceInput.free, List.filter_map]
  congr 1
  refine List.filter_congr fun name _ => ?_
  rw [Bool.eq_iff_iff, Function.comp_apply, decide_eq_true_iff, unbound_iff, Bool.not_eq_true',
    Bool.not_eq_true]

end Granting

/-! ### The order of the stage -/

/-- The stage takes everybody once. -/
lemma arrangeAround_perm {β : Type} (standing l : List β) :
    (arrangeAround standing l).Perm (standing ++ l) := by
  fun_induction arrangeAround standing l with
  | case1 standing => rw [List.append_nil]
  | case2 standing a => exact List.perm_append_singleton a standing |>.symm
  | case3 standing a b rest ih =>
    refine ih.trans ?_
    rw [List.cons_append, List.cons_append, List.append_assoc, List.singleton_append]
    exact (List.perm_middle (a := a)).symm

lemma DanceInput.ranked_perm (i : DanceInput) : i.ranked.Perm i.bound := by
  rw [DanceInput.ranked, List.partition_eq_filter_filter]
  exact ((List.mergeSort_perm _ _).append_right _).trans (List.filter_append_perm _ _)

lemma DanceInput.length_ranked (i : DanceInput) : i.ranked.length = i.kept.length := by
  rw [i.ranked_perm.length_eq, i.bound_eq, List.length_map]

/-! ### Roster pairs -/

/-- Pairs made of two lists have nobody twice if the lists have not. -/
lemma DancePair.nodup_zipWith {ls fs : List Dancer} (h : (ls ++ fs).Nodup) :
    ((List.zipWith DancePair.mk ls fs).flatMap DancePair.dancers).Nodup ∧
      ∀ d ∈ (List.zipWith DancePair.mk ls fs).flatMap DancePair.dancers, d ∈ ls ∨ d ∈ fs := by
  induction ls generalizing fs with
  | nil => simp
  | cons l ls ih =>
    cases fs with
    | nil => simp
    | cons f fs =>
      have hperm : (l :: ls ++ f :: fs).Perm (l :: f :: (ls ++ fs)) :=
        List.Perm.cons l List.perm_middle
      have hboth := hperm.nodup_iff.mp h
      simp only [List.nodup_cons, List.mem_cons, List.mem_append, not_or] at hboth
      obtain ⟨⟨hlf, hlls, hlfs⟩, ⟨hfls, hffs⟩, hrest⟩ := hboth
      obtain ⟨hnodup, hmem⟩ := ih hrest
      rw [List.zipWith_cons_cons, List.flatMap_cons]
      refine ⟨?_, fun d hd => ?_⟩
      · simp only [DancePair.dancers, List.cons_append, List.nil_append, List.nodup_cons,
          List.mem_cons, not_or]
        refine ⟨⟨hlf, fun hl => ?_⟩, fun hf => ?_, hnodup⟩
        · exact (hmem l hl).elim hlls hlfs
        · exact (hmem f hf).elim hfls hffs
      · rcases List.mem_append.mp hd with hd | hd
        · simp only [DancePair.dancers, List.mem_cons, List.not_mem_nil, or_false] at hd
          rcases hd with rfl | rfl <;> simp
        · rcases hmem d hd with hd | hd <;> simp [hd]

/-- If nobody dances twice, no pair does. -/
lemma DancePair.nodup_of_dancers {pairs : List DancePair}
    (h : (pairs.flatMap DancePair.dancers).Nodup) : pairs.Nodup := by
  induction pairs with
  | nil => exact List.nodup_nil
  | cons p rest ih =>
    rw [List.flatMap_cons, List.nodup_append] at h
    obtain ⟨-, hrest, hapart⟩ := h
    refine List.nodup_cons.mpr ⟨fun hp => ?_, ih hrest⟩
    have hleader : p.leader ∈ p.dancers := List.mem_cons_self
    exact hapart _ hleader _ (List.mem_flatMap.mpr ⟨p, hp, hleader⟩) rfl

lemma DancePair.mem_of_mem_zipWith {ls fs : List Dancer} {p : DancePair}
    (hp : p ∈ List.zipWith DancePair.mk ls fs) : p.leader ∈ ls ∧ p.follower ∈ fs := by
  induction ls generalizing fs with
  | nil => simp at hp
  | cons l ls ih =>
    cases fs with
    | nil => simp at hp
    | cons f fs =>
      rcases List.mem_cons.mp hp with rfl | hp
      · exact ⟨List.mem_cons_self, List.mem_cons_self⟩
      · exact ⟨List.mem_cons_of_mem l (ih hp).1, List.mem_cons_of_mem f (ih hp).2⟩

/-- The roster pairs that fill some open slots: each of a free leader and a free follower. -/
lemma DanceInput.fillers_spec (i : DanceInput) (roster : DanceRoster) (slots : Nat)
    (hroster : (roster.leaders ++ roster.followers).Nodup) :
    (((i.fillers roster).take slots).flatMap DancePair.dancers).Nodup ∧
    (∀ d ∈ ((i.fillers roster).take slots).flatMap DancePair.dancers,
      ∃ name, i.Unbound name ∧ d = .villager name) ∧
    (∀ p ∈ (i.fillers roster).take slots, ∃ leader ∈ roster.leaders, ∃ follower ∈ roster.followers,
      i.Unbound leader ∧ i.Unbound follower ∧ p = ⟨.villager leader, .villager follower⟩) ∧
    ((i.fillers roster).take slots).length = min slots
      (min (roster.leaders.filter fun name => i.Unbound name).length
        (roster.followers.filter fun name => i.Unbound name).length) := by
  have hinjective : Function.Injective Dancer.villager := fun _ _ h => Dancer.villager.inj h
  have hfree : (i.free roster.leaders ++ i.free roster.followers).Nodup := by
    rw [free_eq, free_eq, ← List.map_append, ← List.filter_append]
    exact (hroster.filter _).map hinjective
  have hmemFree : ∀ names, ∀ d ∈ i.free names,
      ∃ name ∈ names, i.Unbound name ∧ d = .villager name := by
    intro names d hd
    rw [free_eq] at hd
    obtain ⟨name, hname, rfl⟩ := List.mem_map.mp hd
    rw [List.mem_filter, decide_eq_true_eq] at hname
    exact ⟨name, hname.1, hname.2, rfl⟩
  obtain ⟨hnodup, hmem⟩ := DancePair.nodup_zipWith hfree
  have hsub := List.take_sublist slots (i.fillers roster)
  refine ⟨hnodup.sublist (hsub.flatMap _), fun d hd => ?_, fun p hp => ?_, ?_⟩
  · rcases hmem d ((hsub.flatMap _).subset hd) with hd | hd
    · obtain ⟨name, -, hunbound, rfl⟩ := hmemFree _ d hd
      exact ⟨name, hunbound, rfl⟩
    · obtain ⟨name, -, hunbound, rfl⟩ := hmemFree _ d hd
      exact ⟨name, hunbound, rfl⟩
  · obtain ⟨hleader, hfollower⟩ := DancePair.mem_of_mem_zipWith (hsub.subset hp)
    obtain ⟨leader, hl, hlfree, hleader⟩ := hmemFree _ _ hleader
    obtain ⟨follower, hf, hffree, hfollower⟩ := hmemFree _ _ hfollower
    exact ⟨leader, hl, follower, hf, hlfree, hffree, by rw [← hleader, ← hfollower]⟩
  · rw [List.length_take, DanceInput.fillers, List.length_zipWith, free_eq, free_eq,
      List.length_map, List.length_map]

/-! ### The dance -/

/-- The pairs of a dance, whatever their places: those that are bound, and roster pairs. -/
lemma pairDancers_of_le {i : DanceInput} {slots : Nat} (roster : DanceRoster)
    (hfit : i.kept.length ≤ slots) :
    ∃ pairs, pairDancers i roster slots = .ok pairs ∧ pairs.Perm
      (i.kept.map Binding.pair ++ (i.fillers roster).take (slots - i.kept.length)) := by
  have hfits : ¬ slots < i.ranked.length := by
    rw [i.length_ranked]
    exact Nat.not_lt.mpr hfit
  refine ⟨_, if_neg hfits, (arrangeAround_perm _ _).trans ?_⟩
  rw [List.nil_append, i.length_ranked, ← i.bound_eq]
  exact i.ranked_perm.append_right _

/-- If there is a dance, the bound pairs fit, and it has these and roster pairs. -/
lemma perm_of_pairDancers {i : DanceInput} {roster : DanceRoster} {slots : Nat}
    {pairs : List DancePair} (h : pairDancers i roster slots = .ok pairs) : pairs.Perm
      (i.kept.map Binding.pair ++ (i.fillers roster).take (slots - i.kept.length)) := by
  by_cases hfit : i.kept.length ≤ slots
  · obtain ⟨pairs', hpairs, hperm⟩ := pairDancers_of_le roster hfit
    obtain rfl := Except.ok.inj (h.symm.trans hpairs)
    exact hperm
  · rw [pairDancers, i.length_ranked] at h
    exact nomatch h.symm.trans (if_pos (Nat.lt_of_not_le hfit))

/-- Nobody dances twice. -/
lemma nodup_dancers {i : DanceInput} {roster : DanceRoster} {slots : Nat} {pairs : List DancePair}
    (hroster : (roster.leaders ++ roster.followers).Nodup)
    (h : pairDancers i roster slots = .ok pairs) : (pairs.flatMap DancePair.dancers).Nodup := by
  obtain ⟨hnodup, hvillagers, -, -⟩ := i.fillers_spec roster (slots - i.kept.length) hroster
  rw [((perm_of_pairDancers h).flatMap_right _).nodup_iff, List.flatMap_append, List.nodup_append,
    List.flatMap_map]
  refine ⟨i.apart_kept.nodup, hnodup, fun d hd e he heq => ?_⟩
  obtain ⟨name, hunbound, rfl⟩ := hvillagers e he
  obtain ⟨k, hk, hdk⟩ := List.mem_flatMap.mp hd
  exact hunbound k hk d (Binding.mem_dancers_pair.mp hdk) heq

/-- **The dance takes everybody once.** For a roster that names nobody twice: if more bindings are
granted than there are slots, the dance fails with those two counts. Otherwise each of them has its
pair once, with its two roles, no dancer is there twice and no player who is offline at all; every
other pair is of a leader and a follower of the roster whom nobody bound, and there are as many of
them as the slots and the free villagers allow. -/
theorem dance_takes_everybody_once (i : DanceInput) (roster : DanceRoster) (slots : Nat)
    (hroster : (roster.leaders ++ roster.followers).Nodup) :
    (slots < i.kept.length → pairDancers i roster slots = .error ⟨i.kept.length, slots⟩) ∧
    (i.kept.length ≤ slots → ∃ pairs, pairDancers i roster slots = .ok pairs ∧
      (∀ b ∈ i.kept, pairs.count b.pair = 1) ∧
      (pairs.flatMap DancePair.dancers).Nodup ∧
      (∀ p ∈ pairs, ∀ n, .player n ∈ p.dancers → n ∈ i.online) ∧
      (∀ p ∈ pairs, p ∈ i.kept.map Binding.pair ∨
        ∃ leader ∈ roster.leaders, ∃ follower ∈ roster.followers,
          i.Unbound leader ∧ i.Unbound follower ∧ p = ⟨.villager leader, .villager follower⟩) ∧
      pairs.length = min slots (i.kept.length +
        min (roster.leaders.filter fun name => i.Unbound name).length
          (roster.followers.filter fun name => i.Unbound name).length)) := by
  refine ⟨fun hmany => ?_, fun hfit => ?_⟩
  · rw [pairDancers, i.length_ranked]
    exact if_pos hmany
  · obtain ⟨pairs, hpairs, hperm⟩ := pairDancers_of_le roster hfit
    obtain ⟨-, hvillagers, hfilled, hcount⟩ :=
      i.fillers_spec roster (slots - i.kept.length) hroster
    have hkept := i.apart_kept
    have hmem : ∀ p, p ∈ pairs ↔
        p ∈ i.kept.map Binding.pair ∨ p ∈ (i.fillers roster).take (slots - i.kept.length) :=
      fun p => hperm.mem_iff.trans List.mem_append
    have hnobody := nodup_dancers hroster hpairs
    refine ⟨pairs, hpairs, fun b hb => ?_, hnobody, fun p hp n hn => ?_, fun p hp => ?_, ?_⟩
    · have honce : pairs.Nodup := DancePair.nodup_of_dancers hnobody
      exact List.count_eq_one_of_mem honce ((hmem _).mpr (.inl (List.mem_map_of_mem hb)))
    · rcases (hmem p).mp hp with hp | hp
      · obtain ⟨k, hk, rfl⟩ := List.mem_map.mp hp
        simpa [Dancer.isPresent] using hkept.present k hk _ hn
      · obtain ⟨name, -, heq⟩ := hvillagers _ (List.mem_flatMap.mpr ⟨p, hp, hn⟩)
        cases heq
    · exact ((hmem p).mp hp).imp_right (hfilled p)
    · rw [hperm.length_eq, List.length_append, List.length_map, hcount]
      omega

/-- The first player dances with Haley, who has asked for the same; the second player's wish for
Haley comes too late, and the fourth player is not there. Of the roster Sam and Penny are free. -/
theorem four_wishes_make_two_pairs :
    let i : DanceInput := ⟨[1, 2, 3],
      [⟨.player 1, .leader, .villager "Haley"⟩, ⟨.villager "Haley", .follower, .player 1⟩,
        ⟨.player 2, .leader, .villager "Haley"⟩, ⟨.player 4, .follower, .villager "Alex"⟩]⟩
    let roster : DanceRoster := ⟨[⟨"Sam", "Penny"⟩, ⟨"Alex", "Haley"⟩]⟩
    (roster.leaders ++ roster.followers).Nodup ∧ i.kept.length = 1 ∧
      ∃ pairs, pairDancers i roster 3 = .ok pairs ∧
        pairs.count ⟨.player 1, .villager "Haley"⟩ = 1 ∧
        (pairs.flatMap DancePair.dancers).Nodup ∧ pairs.length = 2 := by
  intro i roster
  have hroster : (roster.leaders ++ roster.followers).Nodup := by decide
  have hkept : i.kept = [⟨.player 1, .leader, .villager "Haley"⟩] := by decide
  obtain ⟨pairs, hpairs, hcount, hnodup, -, -, hlength⟩ :=
    (dance_takes_everybody_once i roster 3 hroster).2 (by rw [hkept]; decide)
  refine ⟨hroster, by rw [hkept]; rfl, pairs, hpairs, ?_, hnodup, hlength.trans (by decide)⟩
  exact hcount ⟨.player 1, .leader, .villager "Haley"⟩ (by rw [hkept]; exact List.mem_cons_self)

end Cutscene
