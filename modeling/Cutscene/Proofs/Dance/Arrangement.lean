import Cutscene.Proofs.Dance.Pairing
import Mathlib.Data.List.TakeDrop

/-!
# Where a Pair Stands

The pairs of a dance have an order of importance: those with players by their lowest number, those
of villagers as they were bound, those of the roster. The stage is filled from the middle outward,
to the front and to the back by turns. So the front is every other pair backwards and the back is
the others (`arrangeAround_eq`), which gives each pair its place; and the more important ones stand
among themselves as they would without the rest (`arrangeAround_take_infix`).
-/

namespace Cutscene

/-! ### From the middle outward -/

/-- The first, third, fifth and so on of a list. -/
def everyOther {β : Type} : List β → List β
  | [] => []
  | [a] => [a]
  | a :: _ :: rest => a :: everyOther rest

/-- The place on a stage of so many of the one who comes in there with a number. -/
def stagePlace (count number : Nat) : Nat :=
  if number % 2 = 0 then (count - 1) / 2 - number / 2 else (count - 1) / 2 + (number + 1) / 2

section Stage

variable {β : Type}

lemma getElem?_everyOther (l : List β) (j : Nat) : (everyOther l)[j]? = l[2 * j]? := by
  fun_induction everyOther l generalizing j with
  | case1 => simp
  | case2 a => cases j <;> simp
  | case3 a b rest ih =>
    cases j with
    | zero => rfl
    | succ j => exact ih j

lemma length_everyOther (l : List β) : (everyOther l).length = (l.length + 1) / 2 := by
  fun_induction everyOther l with
  | case1 => simp
  | case2 a => simp
  | case3 a b rest ih =>
    simp only [List.length_cons, ih]
    omega

/-- Taking from the front takes from what is picked. -/
lemma everyOther_take_prefix (l : List β) (k : Nat) : everyOther (l.take k) <+: everyOther l := by
  fun_induction everyOther l generalizing k with
  | case1 => rw [List.take_nil]; exact List.prefix_refl _
  | case2 a =>
    cases k with
    | zero => exact List.nil_prefix
    | succ k => rw [List.take_succ_cons, List.take_nil]; exact List.prefix_refl _
  | case3 a b rest ih =>
    match k with
    | 0 => exact List.nil_prefix
    | 1 => exact ⟨everyOther rest, rfl⟩
    | k + 2 => exact List.prefix_cons_inj a |>.mpr (ih k)

lemma arrangeAround_eq (standing l : List β) :
    arrangeAround standing l = (everyOther l).reverse ++ standing ++ everyOther l.tail := by
  fun_induction arrangeAround standing l with
  | case1 standing => simp [everyOther]
  | case2 standing a => simp [everyOther]
  | case3 standing a b rest ih =>
    have htail : everyOther (b :: rest) = b :: everyOther rest.tail := by
      cases rest <;> rfl
    rw [ih, List.tail_cons, htail, everyOther]
    simp

/-- Whoever comes in with a number stands in the place of that number. -/
lemma getElem?_arrangeAround (l : List β) {r : Nat} (hr : r < l.length) :
    (arrangeAround [] l)[stagePlace l.length r]? = l[r]? := by
  have hfront : (everyOther l).reverse.length = (l.length + 1) / 2 := by
    rw [List.length_reverse, length_everyOther]
  rw [arrangeAround_eq, List.append_nil, stagePlace]
  split
  · rename_i heven
    have hpicked := length_everyOther l
    rw [List.getElem?_append_left (by omega), List.getElem?_reverse (by omega),
      getElem?_everyOther]
    congr 1
    omega
  · rename_i hodd
    have hplace : (l.length - 1) / 2 + (r + 1) / 2 - (l.length + 1) / 2 = r / 2 := by omega
    rw [List.getElem?_append_right (by omega), hfront, hplace, getElem?_everyOther,
      List.getElem?_tail]
    congr 1
    omega

/-- Those who come in first stand together, as they would alone. -/
lemma arrangeAround_take_infix (l : List β) (k : Nat) :
    arrangeAround [] (l.take k) <:+: arrangeAround [] l := by
  obtain ⟨front, hfront⟩ := everyOther_take_prefix l k
  obtain ⟨back, hback⟩ := everyOther_take_prefix l.tail (k - 1)
  have htail : (l.take k).tail = l.tail.take (k - 1) := List.tail_take_eq_take_tail _ _
  refine ⟨front.reverse, back, ?_⟩
  simp only [arrangeAround_eq, List.append_nil, htail]
  rw [← hfront, ← hback, List.reverse_append]
  simp only [List.append_assoc]

end Stage

/-! ### Importance -/

/-- The pair's lowest player comes before the other's. -/
def DancePair.Before (p q : DancePair) : Prop :=
  ∃ m n, p.lowestPlayer? = some m ∧ q.lowestPlayer? = some n ∧ m < n

/-- Pairs in the order of their lowest players stand in one order only. -/
lemma DancePair.eq_of_before {l l' : List DancePair} (h : l.Pairwise Before)
    (h' : l'.Pairwise Before) (hperm : l.Perm l') : l = l' := by
  have hasymm : ∀ p q, Before p q → Before q p → p = q := by
    rintro p q ⟨m, n, hm, hn, hlt⟩ ⟨n', m', hn', hm', hlt'⟩
    obtain rfl := Option.some.inj (hm.symm.trans hm')
    obtain rfl := Option.some.inj (hn.symm.trans hn')
    exact absurd hlt (Nat.lt_asymm hlt')
  exact hperm.eq_of_pairwise (fun p q _ _ => hasymm p q) h h'

lemma DancePair.mem_dancers_of_lowestPlayer? {p : DancePair} {n : Nat}
    (h : p.lowestPlayer? = some n) : .player n ∈ p.dancers := by
  obtain ⟨leader, follower⟩ := p
  cases leader with
  | villager name =>
    cases follower with
    | villager name' => cases h
    | player k => cases h; exact .tail _ (.head _)
  | player j =>
    cases follower with
    | villager name => cases h; exact .head _
    | player k =>
      have hmin : min j k = n := Option.some.inj h
      rcases Nat.le_total j k with hle | hle
      · rw [Nat.min_eq_left hle] at hmin
        exact hmin ▸ .head _
      · rw [Nat.min_eq_right hle] at hmin
        exact hmin ▸ .tail _ (.head _)

namespace DanceInput

/-- The pairs of the granted bindings, in the order of these. -/
def granted (i : DanceInput) : List DancePair := i.kept.map Binding.pair

/-- The pairs of a dance from the most important on: granted pairs with players by their lowest
number, granted pairs of villagers as they were bound, and pairs of the unbound of the roster as
they stand there, while there are slots. -/
def IsPriority (i : DanceInput) (roster : DanceRoster) (slots : Nat)
    (priority : List DancePair) : Prop :=
  ∃ players : List DancePair,
    players.Perm (i.granted.filter DancePair.involvesPlayer) ∧
    players.Pairwise DancePair.Before ∧
    priority = players ++ i.granted.filter (fun p => !p.involvesPlayer) ++
      (List.zipWith (fun leader follower => ⟨.villager leader, .villager follower⟩)
        (roster.leaders.filter fun name => i.Unbound name)
        (roster.followers.filter fun name => i.Unbound name)).take (slots - i.granted.length)

variable {i : DanceInput}

/-- Granted pairs with players are told apart by their lowest number. -/
lemma granted_pairwise (i : DanceInput) :
    (i.granted.filter DancePair.involvesPlayer).Pairwise fun p q =>
      p.lowestPlayer? ≠ q.lowestPlayer? := by
  have hnodup : (i.granted.flatMap DancePair.dancers).Nodup := by
    rw [granted, List.flatMap_map]
    exact i.apart_kept.nodup
  refine ((List.nodup_flatMap.mp hnodup).2.sublist List.filter_sublist).imp_of_mem ?_
  intro p q hp _ hapart heq
  obtain ⟨n, hn⟩ := Option.isSome_iff_exists.mp (List.mem_filter.mp hp).2
  exact hapart (DancePair.mem_dancers_of_lowestPlayer? hn)
    (DancePair.mem_dancers_of_lowestPlayer? (heq ▸ hn))

/-- The players' part of the bound pairs, in its order. -/
lemma exists_players (i : DanceInput) : ∃ players,
    i.ranked = players ++ i.granted.filter (fun p => !p.involvesPlayer) ∧
    players.Perm (i.granted.filter DancePair.involvesPlayer) ∧
    players.Pairwise DancePair.Before := by
  set byNumber : DancePair → DancePair → Bool := fun p q =>
    p.lowestPlayer?.getD 0 ≤ q.lowestPlayer?.getD 0 with hbyNumber
  set players := (i.granted.filter DancePair.involvesPlayer).mergeSort byNumber with hplayers
  have hperm : players.Perm (i.granted.filter DancePair.involvesPlayer) :=
    List.mergeSort_perm _ _
  refine ⟨players, ?_, hperm, ?_⟩
  · rw [ranked, List.partition_eq_filter_filter, i.bound_eq]
    rfl
  · have hsorted : players.Pairwise fun p q => byNumber p q := by
      refine List.pairwise_mergeSort (fun p q r hpq hqr => ?_) (fun p q => ?_) _
      · simp only [hbyNumber, decide_eq_true_eq] at hpq hqr ⊢
        exact Nat.le_trans hpq hqr
      · simp only [hbyNumber, Bool.or_eq_true, decide_eq_true_eq]
        exact Nat.le_total _ _
    have hdistinct := hperm.symm.pairwise i.granted_pairwise fun h => h.symm
    refine (hsorted.and hdistinct).imp_of_mem ?_
    rintro p q hp hq ⟨hle, hne⟩
    obtain ⟨m, hm⟩ := Option.isSome_iff_exists.mp (List.mem_filter.mp (hperm.subset hp)).2
    obtain ⟨n, hn⟩ := Option.isSome_iff_exists.mp (List.mem_filter.mp (hperm.subset hq)).2
    rw [hm, hn] at hne
    simp only [hbyNumber, hm, hn, Option.getD_some, decide_eq_true_eq] at hle
    exact ⟨m, n, hm, hn, Nat.lt_of_le_of_ne hle fun heq => hne (congrArg some heq)⟩

lemma fillers_eq (i : DanceInput) (roster : DanceRoster) : i.fillers roster =
    List.zipWith (fun leader follower => ⟨.villager leader, .villager follower⟩)
      (roster.leaders.filter fun name => i.Unbound name)
      (roster.followers.filter fun name => i.Unbound name) := by
  rw [fillers, free_eq, free_eq, List.zipWith_map]

/-- The bound pairs by importance and the roster pairs behind them have the order of importance. -/
lemma isPriority_ranked (i : DanceInput) (roster : DanceRoster) (slots : Nat) :
    i.IsPriority roster slots (i.ranked ++ (i.fillers roster).take (slots - i.ranked.length)) := by
  obtain ⟨players, hranked, hperm, hordered⟩ := i.exists_players
  refine ⟨players, hperm, hordered, ?_⟩
  rw [i.length_ranked, i.fillers_eq, hranked, granted, List.length_map]

/-- The order of importance leaves no choice. -/
lemma IsPriority.eq {roster : DanceRoster} {slots : Nat} {l l' : List DancePair}
    (h : i.IsPriority roster slots l) (h' : i.IsPriority roster slots l') : l = l' := by
  obtain ⟨players, hperm, hordered, rfl⟩ := h
  obtain ⟨players', hperm', hordered', rfl⟩ := h'
  rw [DancePair.eq_of_before hordered hordered' (hperm.trans hperm'.symm)]

end DanceInput

/-- **The stage is filled from the middle outward by importance.** Where the pairs of a dance fit,
there is one order of importance, and the pair that it has with a number stands in the place of
that number: the first in the middle, the next behind it, the next before it and so on. So the most
important ones, however many, stand side by side. -/
theorem stage_is_filled_from_middle {i : DanceInput} {roster : DanceRoster} {slots : Nat}
    {pairs : List DancePair} (h : pairDancers i roster slots = .ok pairs) :
    ∃ priority, (∀ l, i.IsPriority roster slots l ↔ l = priority) ∧
      priority.length = pairs.length ∧
      (∀ r < pairs.length, pairs[stagePlace pairs.length r]? = priority[r]?) ∧
      ∀ k, ∃ front block back,
        pairs = front ++ block ++ back ∧ block.Perm (priority.take k) := by
  have his := i.isPriority_ranked roster slots
  set priority := i.ranked ++ (i.fillers roster).take (slots - i.ranked.length)
  obtain rfl : arrangeAround [] priority = pairs := by
    unfold pairDancers at h
    dsimp only at h
    split at h
    · cases h
    · exact Except.ok.inj h
  have hlength : (arrangeAround [] priority).length = priority.length := by
    rw [(arrangeAround_perm _ _).length_eq, List.nil_append]
  refine ⟨priority, fun l => ⟨fun hl => hl.eq his, fun hl => hl ▸ his⟩, hlength.symm, ?_, ?_⟩
  · intro r hr
    rw [hlength] at hr ⊢
    exact getElem?_arrangeAround priority hr
  · intro k
    obtain ⟨front, back, heq⟩ := arrangeAround_take_infix priority k
    exact ⟨front, _, back, heq.symm, arrangeAround_perm _ _⟩

/-- The third player stands in the middle though the sixth came first; behind them the villagers who
asked each other, and before them a pair of the roster. -/
theorem third_player_stands_in_middle :
    let i : DanceInput := ⟨[6, 3],
      [⟨.villager "Sam", .leader, .villager "Penny"⟩, ⟨.player 6, .follower, .villager "Alex"⟩,
        ⟨.player 3, .leader, .villager "Haley"⟩]⟩
    let roster : DanceRoster := ⟨[⟨"Alex", "Haley"⟩, ⟨"Elliott", "Leah"⟩]⟩
    ∃ pairs, pairDancers i roster 5 = .ok pairs ∧ pairs.length = 4 ∧
      pairs[1]? = some ⟨.player 3, .villager "Haley"⟩ ∧
      pairs[2]? = some ⟨.villager "Alex", .player 6⟩ ∧
      pairs[0]? = some ⟨.villager "Sam", .villager "Penny"⟩ ∧
      pairs[3]? = some ⟨.villager "Elliott", .villager "Leah"⟩ := by
  intro i roster
  have hfit : i.kept.length ≤ 5 := by decide
  obtain ⟨pairs, hpairs, -⟩ := pairDancers_of_le roster hfit
  obtain ⟨priority, hpriority, hlength, hplace, -⟩ := stage_is_filled_from_middle hpairs
  obtain rfl : [⟨.player 3, .villager "Haley"⟩, ⟨.villager "Alex", .player 6⟩,
      ⟨.villager "Sam", .villager "Penny"⟩, ⟨.villager "Elliott", .villager "Leah"⟩] = priority :=
    (hpriority _).mp ⟨[⟨.player 3, .villager "Haley"⟩, ⟨.villager "Alex", .player 6⟩],
      by decide, List.pairwise_pair.mpr ⟨3, 6, rfl, rfl, by decide⟩, by decide⟩
  replace hlength : pairs.length = 4 := hlength.symm
  rw [hlength] at hplace
  exact ⟨pairs, hpairs, hlength, hplace 0 (by decide), hplace 1 (by decide), hplace 2 (by decide),
    hplace 3 (by decide)⟩

end Cutscene
