import Cutscene.Proofs.Troupe.Identity
import Mathlib.Data.List.Induction
import Mathlib.Data.List.Nodup

/-!
# Who Comes On and Stays

Whoever comes on takes the place of the one whom he is taken for. So of actors who come on one after
the other those are there in the end whom nobody later is taken for (`mem_after_comesOn_iff`), and
all of them if and only if no two are taken for the same (`snd_after_comesOn_iff`).
-/

namespace Cutscene

variable {α : Type}

namespace Cast

variable {c : Cast α}

/-- No two live actors are taken for the same. -/
lemma Singular.whoms_nodup (hc : c.Singular) :
    ((c.members.map Prod.snd).map (Actor.whom c.localPlayer)).Nodup := by
  rw [List.map_map, List.Nodup, List.pairwise_map]
  refine (List.pairwise_map.mp hc.nodup).imp_of_mem fun {m n} hm hn hne heq => hne ?_
  refine hc.single m hm n hn (identity n.2) (Actor.answers_iff.mpr heq) (Actor.answers_iff.mpr rfl)

lemma Orderly.mem_snd_iff (hc : c.Orderly) {a : Actor α} :
    a ∈ c.members.map Prod.snd ↔ ∃ h, c.get? h = some a := by
  rw [List.mem_map]
  constructor
  · rintro ⟨m, hm, rfl⟩
    exact ⟨m.1, hc.get?_eq_some_iff.mpr hm⟩
  · rintro ⟨h, ha⟩
    exact ⟨_, hc.get?_eq_some_iff.mp ha, rfl⟩

/-- The handle of a newcomer is that of the live actor whom he is taken for. -/
lemma Singular.fst_spawn_eq_iff (hc : c.Singular) {a b : Actor α} {h : Handle}
    (hb : c.get? h = some b) :
    (c.spawn a).1 = h ↔ b.whom c.localPlayer = a.whom c.localPlayer := by
  have hfound : c.find? (identity a) = some h ↔ b.whom c.localPlayer = a.whom c.localPlayer :=
    hc.find?_iff_of_live hb
  rw [← hfound]
  cases hfind : c.find? (identity a) with
  | none =>
    have hgiven := hc.given _ (hc.get?_eq_some_iff.mp hb)
    rw [spawn_of_new hfind]
    refine iff_of_false (fun heq => ?_) nofun
    rw [← heq] at hgiven
    exact Nat.lt_irrefl _ hgiven
  | some k => rw [spawn_of_live hfind, Option.some.injEq]

/-- A newcomer is there, with all those whom he is not taken for. -/
lemma Singular.mem_spawn_iff (hc : c.Singular) {a b : Actor α} :
    b ∈ (c.spawn a).2.members.map Prod.snd ↔
      b = a ∨ b ∈ c.members.map Prod.snd ∧ a.whom c.localPlayer ≠ b.whom c.localPlayer := by
  rw [(hc.spawn a).toOrderly.mem_snd_iff, hc.toOrderly.mem_snd_iff]
  simp only [get?_spawn hc.toOrderly a]
  constructor
  · rintro ⟨h, hb⟩
    split at hb
    · exact .inl (Option.some.inj hb).symm
    · rename_i hne
      exact .inr ⟨⟨h, hb⟩, fun heq => hne ((hc.fst_spawn_eq_iff hb).mpr heq.symm).symm⟩
  · rintro (rfl | ⟨⟨h, hb⟩, hne⟩)
    · exact ⟨_, if_pos rfl⟩
    · refine ⟨h, (if_neg fun heq => hne ?_).trans hb⟩
      exact ((hc.fst_spawn_eq_iff hb).mp heq.symm).symm

/-- Of actors who come on one after the other those are there in the end whom nobody later is taken
for. -/
theorem mem_after_comesOn_iff (localPlayer : Nat) (actors : List (Actor α)) (b : Actor α) :
    b ∈ ((empty localPlayer).after (actors.map .comesOn)).members.map Prod.snd ↔
      actors.reverse.find? (fun a => a.whom localPlayer = b.whom localPlayer) = some b := by
  induction actors using List.reverseRecOn with
  | nil => simp [after, empty]
  | append_singleton earlier a ih =>
    have hc := (Singular.empty (α := α) localPlayer).after (earlier.map .comesOn)
    have hplayer : ((empty localPlayer).after (earlier.map (CastChange.comesOn (α := α)))).localPlayer
        = localPlayer := localPlayer_after _ _
    have hlast : (empty localPlayer).after ((earlier ++ [a]).map .comesOn) =
        (((empty localPlayer).after (earlier.map .comesOn)).spawn a).2 := by
      rw [List.map_append, after, List.foldl_append]
      rfl
    rw [hlast, hc.mem_spawn_iff, ih, hplayer, List.reverse_append, List.reverse_singleton,
      List.singleton_append, List.find?_cons]
    by_cases heq : a.whom localPlayer = b.whom localPlayer
    · simp [heq, eq_comm]
    · have hne : b ≠ a := fun hab => heq (hab ▸ rfl)
      simp [heq, hne]

/-- Actors who are taken for nobody else come on behind those who are there. -/
lemma snd_after_comesOn {actors : List (Actor α)}
    (h : ((c.members.map Prod.snd ++ actors).map (Actor.whom c.localPlayer)).Nodup) :
    (c.after (actors.map .comesOn)).members.map Prod.snd = c.members.map Prod.snd ++ actors := by
  induction actors generalizing c with
  | nil => exact (List.append_nil _).symm
  | cons a rest ih =>
    have hnew : c.find? (identity a) = none := by
      refine find?_eq_none_iff.mpr fun m hm hans => ?_
      rw [List.map_append, List.nodup_append] at h
      exact h.2.2 _ (List.mem_map_of_mem (List.mem_map_of_mem hm)) _
        (List.mem_map_of_mem List.mem_cons_self) (Actor.answers_iff.mp hans)
    have hmembers : (c.spawn a).2.members.map Prod.snd = c.members.map Prod.snd ++ [a] := by
      rw [spawn_of_new hnew, List.map_append, List.map_singleton]
    rw [List.append_cons, ← hmembers] at h ⊢
    rw [← localPlayer_spawn c a] at h
    exact ih h

/-- Of actors who come on one after the other all stay if and only if each is taken for somebody
else. -/
theorem snd_after_comesOn_iff (localPlayer : Nat) (actors : List (Actor α)) :
    ((empty localPlayer).after (actors.map .comesOn)).members.map Prod.snd = actors ↔
      (actors.map (Actor.whom localPlayer)).Nodup := by
  constructor
  · intro hstay
    have hnodup := ((Singular.empty localPlayer).after (actors.map .comesOn)).whoms_nodup
    rwa [hstay, localPlayer_after] at hnodup
  · exact fun h => snd_after_comesOn (c := empty localPlayer) h

end Cast

end Cutscene
