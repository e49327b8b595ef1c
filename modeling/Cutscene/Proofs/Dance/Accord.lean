import Cutscene.Proofs.Dance.Arrangement

/-!
# Choices in Accord

Bindings are granted first come, first served. Where those that could be granted ask for the same
pair or share no dancer, nobody comes too late: the pairs that are granted are just those that are
asked for (`mem_granted_iff`). If a player is in each of them, their order is that of the players,
and so the dance does not depend on the order in which the choices were made.
-/

namespace Cutscene

namespace Binding

/-- Both dancers are there. -/
def Present (online : List Nat) (b : Binding) : Prop :=
  b.dancer.isPresent online ∧ b.partner.isPresent online

instance (online : List Nat) : DecidablePred (Present online) := fun _ =>
  inferInstanceAs (Decidable (_ ∧ _))

/-- Two bindings ask for the same pair, or for nobody in common. -/
def Accords (b c : Binding) : Prop := b.pair = c.pair ∨ ∀ d ∈ b.pair.dancers, d ∉ c.pair.dancers

instance : DecidableRel Accords := fun _ _ => inferInstanceAs (Decidable (_ ∨ _))

/-- The bindings of those who are there do not get in each other's way. -/
def InAccord (online : List Nat) (bindings : List Binding) : Prop :=
  ∀ b ∈ bindings, ∀ c ∈ bindings, b.Present online → c.Present online → b.Accords c

instance (online : List Nat) (bindings : List Binding) : Decidable (InAccord online bindings) :=
  inferInstanceAs (Decidable (∀ b ∈ bindings, ∀ c ∈ bindings, _ → _ → b.Accords c))

variable {online : List Nat} {kept bindings : List Binding} {b : Binding}

/-- What is kept is kept already or comes from the list, and could be granted. -/
lemma of_mem_keptAfter (h : b ∈ keptAfter online kept bindings) :
    b ∈ kept ∨ b ∈ bindings ∧ b.Present online ∧ b.dancer ≠ b.partner := by
  induction bindings generalizing kept with
  | nil => exact .inl h
  | cons c rest ih =>
    rw [keptAfter] at h
    split at h
    case isTrue hc =>
      rcases ih h with hkept | hrest
      · rcases List.mem_append.mp hkept with hkept | hnew
        · exact .inl hkept
        · obtain rfl := List.mem_singleton.mp hnew
          exact .inr ⟨List.mem_cons_self, ⟨hc.1, hc.2.1⟩, hc.2.2.1⟩
      · exact .inr ⟨List.mem_cons_of_mem c hrest.1, hrest.2⟩
    case isFalse =>
      exact (ih h).imp_right fun hrest => ⟨List.mem_cons_of_mem c hrest.1, hrest.2⟩

lemma mem_keptAfter_of_mem (h : b ∈ kept) (bindings : List Binding) :
    b ∈ keptAfter online kept bindings := by
  induction bindings generalizing kept with
  | nil => exact h
  | cons c rest ih =>
    rw [keptAfter]
    split
    · exact ih (List.mem_append_left [c] h)
    · exact ih h

/-- Of bindings in accord none is refused for another pair: its own is granted already. -/
lemma exists_pair_of_not_grantable (hb : b.Present online) (hne : b.dancer ≠ b.partner)
    (hkept : ∀ k ∈ kept, k.Accords b) (h : ¬ b.Grantable online kept) :
    ∃ k ∈ kept, k.pair = b.pair := by
  have htaken : ¬ ∀ k ∈ kept, ∀ d ∈ [k.dancer, k.partner], d ≠ b.dancer ∧ d ≠ b.partner :=
    fun hfree => h ⟨hb.1, hb.2, hne, hfree⟩
  push Not at htaken
  obtain ⟨k, hk, d, hd, hshared⟩ := htaken
  have hdb : d ∈ [b.dancer, b.partner] := by
    by_cases heq : d = b.dancer
    · exact heq ▸ List.mem_cons_self
    · exact hshared heq ▸ List.mem_cons_of_mem _ List.mem_cons_self
  refine ⟨k, hk, (hkept k hk).resolve_right fun hdisjoint => ?_⟩
  exact hdisjoint d (mem_dancers_pair.mpr hd) (mem_dancers_pair.mpr hdb)

/-- Every binding of a list in accord that could be granted has its pair among those kept. -/
lemma InAccord.exists_kept (h : InAccord online (kept ++ bindings))
    (hkept : ∀ k ∈ kept, k.Present online) (hmem : b ∈ bindings) (hb : b.Present online)
    (hne : b.dancer ≠ b.partner) : ∃ k ∈ keptAfter online kept bindings, k.pair = b.pair := by
  induction bindings generalizing kept with
  | nil => exact absurd hmem List.not_mem_nil
  | cons c rest ih =>
    rw [keptAfter]
    split
    case isTrue hc =>
      rcases List.mem_cons.mp hmem with rfl | hmem
      · exact ⟨b, mem_keptAfter_of_mem (List.mem_append_right kept List.mem_cons_self) rest, rfl⟩
      · refine ih (by rwa [List.append_assoc, List.singleton_append]) (fun k hk => ?_) hmem
        rcases List.mem_append.mp hk with hk | hk
        · exact hkept k hk
        · exact List.mem_singleton.mp hk ▸ ⟨hc.1, hc.2.1⟩
    case isFalse hc =>
      rcases List.mem_cons.mp hmem with rfl | hmem
      · have haccord : ∀ k ∈ kept, k.Accords b := fun k hk =>
          h k (List.mem_append_left _ hk) b (List.mem_append_right _ List.mem_cons_self)
            (hkept k hk) hb
        obtain ⟨k, hk, hpair⟩ := exists_pair_of_not_grantable hb hne haccord hc
        exact ⟨k, mem_keptAfter_of_mem hk rest, hpair⟩
      · refine ih (fun x hx y hy => h x ?_ y ?_) hkept hmem
        · exact (List.append_sublist_append_left kept).mpr (List.sublist_cons_self c rest)
            |>.subset hx
        · exact (List.append_sublist_append_left kept).mpr (List.sublist_cons_self c rest)
            |>.subset hy

end Binding

namespace DanceInput

variable {i j : DanceInput}

/-- Of choices in accord all are granted that ask two dancers who are there. -/
lemma mem_granted_iff (h : Binding.InAccord i.online i.bindings) {p : DancePair} :
    p ∈ i.granted ↔
      ∃ b ∈ i.bindings, b.Present i.online ∧ b.dancer ≠ b.partner ∧ b.pair = p := by
  rw [granted, List.mem_map]
  constructor
  · rintro ⟨b, hb, rfl⟩
    obtain ⟨hmem, hpresent, hne⟩ :=
      (Binding.of_mem_keptAfter hb).resolve_left List.not_mem_nil
    exact ⟨b, hmem, hpresent, hne, rfl⟩
  · rintro ⟨b, hmem, hpresent, hne, rfl⟩
    have haccord : Binding.InAccord i.online ([] ++ i.bindings) := h
    exact haccord.exists_kept (fun _ hk => absurd hk List.not_mem_nil) hmem hpresent hne

/-- No pair is granted twice. -/
lemma nodup_granted (i : DanceInput) : i.granted.Nodup := by
  refine DancePair.nodup_of_dancers ?_
  rw [granted, List.flatMap_map]
  exact i.apart_kept.nodup

lemma unbound_iff_granted {name : String} :
    i.Unbound name ↔ ∀ p ∈ i.granted, .villager name ∉ p.dancers := by
  rw [unbound_iff, bound_eq, ← granted, DancePair.anyHas_iff]
  simp only [not_exists, not_and]

/-- The order of importance depends on the granted pairs with players, and on who is bound. -/
lemma IsPriority.congr {roster : DanceRoster} {slots : Nat} {l : List DancePair}
    (hperm : i.granted.Perm j.granted) (hplayers : ∀ p ∈ i.granted, p.involvesPlayer)
    (h : i.IsPriority roster slots l) : j.IsPriority roster slots l := by
  obtain ⟨players, hfound, hordered, rfl⟩ := h
  have hvillagers : i.granted.filter (fun p => !p.involvesPlayer) = [] :=
    List.filter_eq_nil_iff.mpr fun p hp => by simp [hplayers p hp]
  have hvillagers' : j.granted.filter (fun p => !p.involvesPlayer) = [] :=
    List.filter_eq_nil_iff.mpr fun p hp => by simp [hplayers p (hperm.mem_iff.mpr hp)]
  have hunbound : i.Unbound = j.Unbound := by
    funext name
    simp only [unbound_iff_granted, hperm.mem_iff]
  refine ⟨players, hfound.trans (hperm.filter _), hordered, ?_⟩
  simp only [hvillagers, hvillagers', hunbound, hperm.length_eq]

end DanceInput

/-- **Pairing does not depend on the order of choices.** Where the same players are online and the
same bindings were made, in whatever order and however often each, the dance is the same: the same
pairs in the same places, or the same fault. It takes that every binding of two who are there has a
player in it, and that any two of these ask for the same pair or share no dancer. -/
theorem pairing_ignores_order {i j : DanceInput} (roster : DanceRoster) (slots : Nat)
    (honline : ∀ n, n ∈ i.online ↔ n ∈ j.online)
    (hbindings : ∀ b, b ∈ i.bindings ↔ b ∈ j.bindings)
    (hplayers : ∀ b ∈ i.bindings, b.Present i.online → b.pair.involvesPlayer)
    (haccord : Binding.InAccord i.online i.bindings) :
    pairDancers i roster slots = pairDancers j roster slots := by
  have hpresent : ∀ b, Binding.Present i.online b ↔ Binding.Present j.online b := by
    have hdancer : ∀ d, Dancer.isPresent i.online d ↔ Dancer.isPresent j.online d := by
      rintro (n | name)
      · simpa [Dancer.isPresent] using honline n
      · rfl
    exact fun b => and_congr (hdancer _) (hdancer _)
  have haccord' : Binding.InAccord j.online j.bindings := fun b hb c hc hbp hcp =>
    haccord b ((hbindings b).mpr hb) c ((hbindings c).mpr hc) ((hpresent b).mpr hbp)
      ((hpresent c).mpr hcp)
  have hperm : i.granted.Perm j.granted := by
    refine (List.perm_ext_iff_of_nodup i.nodup_granted j.nodup_granted).mpr fun p => ?_
    simp only [DanceInput.mem_granted_iff haccord, DanceInput.mem_granted_iff haccord', hbindings,
      hpresent]
  have hgranted : ∀ p ∈ i.granted, p.involvesPlayer := by
    intro p hp
    obtain ⟨b, hb, hbp, -, rfl⟩ := (DanceInput.mem_granted_iff haccord).mp hp
    exact hplayers b hb hbp
  have hlength : i.ranked.length = j.ranked.length := by
    have hlength := hperm.length_eq
    rwa [DanceInput.granted, DanceInput.granted, List.length_map, List.length_map,
      ← i.length_ranked, ← j.length_ranked] at hlength
  have hpriority := ((i.isPriority_ranked roster slots).congr hperm hgranted).eq
    (j.isPriority_ranked roster slots)
  unfold pairDancers
  dsimp only
  rw [hpriority, hlength]

/-- The first player and Haley ask for each other, the second player asks for Alex, and the fourth,
who would like Haley too, is not there. Whoever comes first, the dance is the same. -/
theorem latecomer_dances_alike :
    let first : Binding := ⟨.player 1, .leader, .villager "Haley"⟩
    let back : Binding := ⟨.villager "Haley", .follower, .player 1⟩
    let second : Binding := ⟨.player 2, .follower, .villager "Alex"⟩
    let away : Binding := ⟨.player 4, .leader, .villager "Haley"⟩
    let i : DanceInput := ⟨[1, 2], [first, back, second, away]⟩
    let j : DanceInput := ⟨[2, 1], [away, second, back, first]⟩
    let roster : DanceRoster := ⟨[⟨"Alex", "Haley"⟩, ⟨"Sam", "Penny"⟩]⟩
    i.bindings.Perm j.bindings ∧ Binding.InAccord i.online i.bindings ∧
      ∃ pairs, pairDancers i roster 3 = .ok pairs ∧ pairDancers j roster 3 = .ok pairs := by
  intro first back second away i j roster
  have hperm : i.bindings.Perm j.bindings := by decide
  have haccord : Binding.InAccord i.online i.bindings := by decide
  have hsame : pairDancers i roster 3 = pairDancers j roster 3 :=
    pairing_ignores_order roster 3 (fun _ => (List.Perm.swap 2 1 []).mem_iff)
      (fun _ => hperm.mem_iff) (by decide) haccord
  have hfit : i.kept.length ≤ 3 := by decide
  obtain ⟨pairs, hpairs, -⟩ := pairDancers_of_le roster hfit
  exact ⟨hperm, haccord, pairs, hpairs, hsame ▸ hpairs⟩

end Cutscene
