import Cutscene.Proofs.Troupe.Sound

/-!
# Those on the Way Are Bound for Their Targets

While time passes and the barrier goes on, nobody gets another target: whoever leaves the barrier
has gone off the stage or stands on the tile that he was sent to. He keeps that place unless a path
walks him, also while others go off.
-/

namespace Cutscene

variable {α : Type}

namespace Cast

lemma get?_remove (c : Cast α) (h k : Handle) :
    (c.remove h).get? k = if k = h then none else c.get? k := by
  split
  · subst k
    refine List.lookup_eq_none_iff.mpr fun m hm => ?_
    have hne : m.1 ≠ h := of_decide_eq_true (List.mem_filter.mp hm).2
    exact bne_iff_ne.mpr hne.symm
  · exact lookup_filter_ne ‹_› c.members

section Drive

variable {β : Type} {actor : β → Handle} {turn : β → Actor α → β × Actor α × Bool}

/-- If no two drivers have the same actor, each of them leaves its actor as its turn does, and goes
on unless it is done. -/
lemma drive_of_mem {ds : List β} {c : Cast α} {d : β} {a : Actor α} (hapart : (ds.map actor).Nodup)
    (hd : d ∈ ds) (ha : c.get? (actor d) = some a) :
    (drive actor turn ds c).2.get? (actor d) = some (turn d a).2.1 ∧
      ((turn d a).2.2 = false → (turn d a).1 ∈ (drive actor turn ds c).1) := by
  induction ds generalizing c with
  | nil => cases hd
  | cons e rest ih =>
    rw [List.map_cons, List.nodup_cons] at hapart
    obtain ⟨hnew, hapart⟩ := hapart
    rcases List.mem_cons.mp hd with rfl | hd
    · rw [drive_cons_some ha]
      refine ⟨?_, fun hgoes => ?_⟩
      · dsimp only
        rw [get?_drive_of_not_mem hnew, get?_modify_self, ha, Option.map_some]
      · rw [hgoes]
        exact List.mem_cons_self
    · have hne : actor d ≠ actor e := fun heq => hnew (heq ▸ List.mem_map_of_mem hd)
      cases he : c.get? (actor e) with
      | none =>
        rw [drive_cons_none he]
        exact ih hapart hd ha
      | some b =>
        obtain ⟨hleft, hgoes⟩ := ih (c := c.modify (actor e) fun _ => (turn e b).2.1) hapart hd
          (by rwa [get?_modify_of_ne c hne])
        rw [drive_cons_some he]
        refine ⟨hleft, fun hgoing => ?_⟩
        dsimp only
        split
        · exact hgoes hgoing
        · exact List.mem_cons_of_mem _ (hgoes hgoing)

end Drive

end Cast

lemma Actor.update_facing (a : Actor α) [Scalar α] (time : α) :
    (a.update time).facing = a.facing := by
  have hanimate : (a.animate time).facing = a.facing := by
    unfold animate
    split
    · rfl
    · split <;> rfl
  exact hanimate

namespace Troupe

/-- No path walks the actor. -/
def Unled (T : Troupe α) (h : Handle) : Prop := ∀ p ∈ T.paths, p.actor = h → ¬ p.Wanders

variable [Scalar α]

/-- What becomes of a troupe while nobody is sent anywhere and nobody but these go off. -/
structure Bound (g : Settings α) (gone : List Handle) (T U : Troupe α) : Prop where
  pending : U.barrier.pending.Sublist T.barrier.pending
  paths : ∀ q ∈ U.paths, ∃ p ∈ T.paths, q.actor = p.actor ∧ q.steps = p.steps
  live : ∀ h ∈ T.cast.handles, h ∉ gone → h ∈ U.cast.handles
  stays : ∀ {h : Handle} {b : Actor α}, h ∉ T.barrier.movers → T.Unled h →
    U.cast.get? h = some b → ∃ a, T.cast.get? h = some a ∧ b.position = a.position ∧
      (h ∉ T.walkers → b.facing = a.facing)
  arrives : ∀ m ∈ T.barrier.pending, m ∉ U.barrier.pending → T.Unled m.1 →
    ∀ b, U.cast.get? m.1 = some b → b.position = tileOrigin g.tileSize m.2.tile ∧
      (m.1 ∉ T.walkers → b.facing = m.2.facing)

variable {g : Settings α} {gone gone' : List Handle} {T U V : Troupe α} {h : Handle}

namespace Bound

lemma unled (hU : Bound g gone T U) (hh : T.Unled h) : U.Unled h := by
  intro q hq hactor hwanders
  obtain ⟨p, hp, hsame, hsteps⟩ := hU.paths q hq
  refine hh p hp (hsame ▸ hactor) ?_
  obtain ⟨offset, hoffset⟩ := hwanders
  exact ⟨offset, hsteps ▸ hoffset⟩

lemma walkers (hU : Bound g gone T U) (hh : h ∉ T.walkers) : h ∉ U.walkers := by
  intro hwalks
  obtain ⟨q, hq, rfl⟩ := List.mem_map.mp hwalks
  obtain ⟨p, hp, hsame, -⟩ := hU.paths q hq
  exact hh (hsame ▸ List.mem_map_of_mem hp)

lemma refl (T : Troupe α) : Bound g [] T T where
  pending := List.Sublist.refl _
  paths q hq := ⟨q, hq, rfl, rfl⟩
  live _ hh _ := hh
  stays _ _ hb := ⟨_, hb, rfl, fun _ => rfl⟩
  arrives _ hm hleft := absurd hm hleft

lemma trans (hapart : T.barrier.movers.Nodup) (hU : Bound g gone T U) (hV : Bound g gone' U V) :
    Bound g (gone ++ gone') T V where
  pending := hV.pending.trans hU.pending
  paths q hq := by
    obtain ⟨p, hp, hactor, hsteps⟩ := hV.paths q hq
    obtain ⟨o, ho, hactor', hsteps'⟩ := hU.paths p hp
    exact ⟨o, ho, hactor.trans hactor', hsteps.trans hsteps'⟩
  live k hk hgone := by
    rw [List.mem_append, not_or] at hgone
    exact hV.live k (hU.live k hk hgone.1) hgone.2
  stays {k b} hk hled hb := by
    have hk' : k ∉ U.barrier.movers := fun hmem => hk ((hU.pending.map Prod.fst).subset hmem)
    obtain ⟨a, ha, hposition, hfacing⟩ := hV.stays hk' (hU.unled hled) hb
    obtain ⟨o, ho, hposition', hfacing'⟩ := hU.stays hk hled ha
    exact ⟨o, ho, hposition.trans hposition',
      fun hpathless => (hfacing (hU.walkers hpathless)).trans (hfacing' hpathless)⟩
  arrives m hm hleft hled b hb := by
    by_cases hmid : m ∈ U.barrier.pending
    · obtain ⟨hposition, hfacing⟩ := hV.arrives m hmid hleft (hU.unled hled) b hb
      exact ⟨hposition, fun hpathless => hfacing (hU.walkers hpathless)⟩
    · -- Nobody is on the way twice, so whoever has landed is not on the way any more.
      have hmover : m.1 ∉ U.barrier.movers := by
        intro hmem
        obtain ⟨n, hn, hsame⟩ := List.mem_map.mp hmem
        obtain rfl : n = m := List.inj_on_of_nodup_map hapart (hU.pending.subset hn) hm hsame
        exact hmid hn
      obtain ⟨a, ha, hposition, hfacing⟩ := hV.stays hmover (hU.unled hled) hb
      obtain ⟨hposition', hfacing'⟩ := hU.arrives m hm hmid hled a ha
      exact ⟨hposition.trans hposition',
        fun hpathless => (hfacing (hU.walkers hpathless)).trans (hfacing' hpathless)⟩

/-- Time passes. -/
lemma elapse (hT : T.Sound) (time : α) : Bound g [] T (T.elapse time g) := by
  have hcast : (T.elapse time g).cast = (Cast.drive Path.actor (Path.turn time g) T.paths
      (T.cast.modifyAll (·.update time))).2 := by
    rw [Troupe.elapse, Path.updateAll_eq_drive]
  have hhandles : (T.elapse time g).cast.handles = T.cast.handles := by simp [hcast]
  refine ⟨List.Sublist.refl _, fun q hq => ?_, fun k hk _ => hhandles ▸ hk, ?_,
    fun m hm hleft => absurd hm hleft⟩
  · rw [Troupe.elapse, Path.updateAll_eq_drive] at hq
    obtain ⟨p, hp, a, -, rfl⟩ := Cast.mem_drive hq
    have hmoved : p.Moved a (p.update a time g).1 (p.update a time g).2.1
        (p.update a time g).2.2 := Path.update_moved (hT.paths p hp)
    exact ⟨p, hp, hmoved.actor, hmoved.steps⟩
  · intro k b _ hled hb
    have hlive : k ∈ T.cast.handles := hhandles ▸ Cast.mem_handles_of_get? hb
    obtain ⟨a, ha⟩ := Option.isSome_iff_exists.mp (Cast.get?_isSome_iff.mpr hlive)
    have hupdated : (T.cast.modifyAll (·.update time)).get? k = some (a.update time) := by
      rw [Cast.get?_modifyAll, ha, Option.map_some]
    have hturn : ∀ p ∈ T.paths, p.actor = k → ∀ o : Actor α,
        (Path.turn time g p o).2.1.position = o.position ∧
          (k ∉ T.walkers → (Path.turn time g p o).2.1.facing = o.facing) := by
      intro p hp hactor o
      have hmoved : p.Moved o (p.update o time g).1 (p.update o time g).2.1
          (p.update o time g).2.2 := Path.update_moved (hT.paths p hp)
      exact ⟨hmoved.stays (hled p hp hactor),
        fun hpathless => absurd (hactor ▸ List.mem_map_of_mem hp) hpathless⟩
    obtain ⟨b', hb', hposition, hfacing⟩ := Cast.get?_drive
      (fun a b : Actor α => b.position = a.position ∧ (k ∉ T.walkers → b.facing = a.facing))
      (fun _ => ⟨rfl, fun _ => rfl⟩)
      (fun h h' => ⟨h'.1.trans h.1, fun hpathless => (h'.2 hpathless).trans (h.2 hpathless)⟩)
      hturn hupdated
    obtain rfl : b' = b := Option.some.inj (hb'.symm.trans (hcast ▸ hb))
    exact ⟨a, ha, hposition.trans (a.update_poses time).position,
      fun hpathless => (hfacing hpathless).trans (a.update_facing time)⟩

/-- The barrier goes on. -/
lemma resolve (hT : T.Sound) : Bound g [] T (T.resolve g) := by
  have hcast : (T.resolve g).cast =
      (Cast.drive Prod.fst (Barrier.turn g) T.barrier.pending T.cast).2 := by
    rw [Troupe.resolve, Barrier.advance_eq_drive]
  have hpending : (T.resolve g).barrier.pending =
      (Cast.drive Prod.fst (Barrier.turn g) T.barrier.pending T.cast).1 := by
    rw [Troupe.resolve, Barrier.advance_eq_drive]
  have hhandles : (T.resolve g).cast.handles = T.cast.handles := by simp [hcast]
  refine ⟨Barrier.advance_sublist g _ _, fun q hq => ⟨q, hq, rfl, rfl⟩,
    fun k hk _ => hhandles ▸ hk, ?_, ?_⟩
  · intro k b hk _ hb
    rw [hcast, Cast.get?_drive_of_not_mem hk] at hb
    exact ⟨b, hb, rfl, fun _ => rfl⟩
  · intro m hm hleft _ b hb
    have hlive : m.1 ∈ T.cast.handles := hT.pending (List.mem_map_of_mem hm)
    obtain ⟨a, ha⟩ := Option.isSome_iff_exists.mp (Cast.get?_isSome_iff.mpr hlive)
    have hdriven : (T.resolve g).cast.get? m.1 = some (Barrier.turn g m a).2.1 ∧
        ((Barrier.turn g m a).2.2 = false →
          (Barrier.turn g m a).1 ∈ (T.resolve g).barrier.pending) := by
      rw [hcast, hpending]
      exact Cast.drive_of_mem hT.sorted.movers_nodup hm ha
    obtain ⟨hturned, hgoes⟩ := hdriven
    obtain rfl : b = (a.approach g m.2).1 := Option.some.inj (hb.symm.trans hturned)
    rcases a.approach_cases g m.2 with ⟨-, heq⟩ | ⟨-, heq⟩
    · rw [heq]
      exact ⟨rfl, fun _ => rfl⟩
    · exact absurd (hgoes (by rw [Barrier.turn, heq])) hleft

/-- Somebody goes off. -/
lemma without (T : Troupe α) (h : Handle) : Bound g [h] T (T.without h) where
  pending := List.filter_sublist
  paths q hq := ⟨q, (List.mem_filter.mp hq).1, rfl, rfl⟩
  live k hk hgone := Cast.mem_handles_remove.mpr ⟨hk, by simpa using hgone⟩
  stays {k b} _ _ hb := by
    rw [Troupe.without, Cast.get?_remove] at hb
    split at hb
    · cases hb
    · exact ⟨b, hb, rfl, fun _ => rfl⟩
  arrives m hm hleft _ b hb := by
    rw [Troupe.without, Cast.get?_remove] at hb
    split at hb
    · cases hb
    · rename_i hne
      exact absurd (List.mem_filter.mpr ⟨hm, by simpa using hne⟩) hleft

end Bound

end Troupe

end Cutscene
