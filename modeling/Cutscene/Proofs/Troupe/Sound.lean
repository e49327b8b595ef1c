import Cutscene.Proofs.Troupe.Drive
import Cutscene.Proofs.Troupe.Table

/-!
# Sound Troupes

A troupe is sound if targets and paths belong to live actors, one at most of either to each of them,
and every path is sound (`Troupe.Sound`). Every act of every command keeps a troupe sound, and so
does all that happens to it between the commands.
-/

namespace Cutscene

variable {α : Type}

namespace Barrier

/-- Targets stand in the order of their handles. -/
def Sorted (b : Barrier) : Prop := b.pending.Pairwise fun m n => m.1.number < n.1.number

lemma Sorted.movers_nodup {b : Barrier} (h : b.Sorted) : b.movers.Nodup := by
  rw [movers, List.Nodup, List.pairwise_map]
  refine h.imp fun {m n} hlt heq => ?_
  rw [heq] at hlt
  exact Nat.lt_irrefl _ hlt

lemma sorted_insertInto {h : Handle} {t : Target} {l : List (Handle × Target)}
    (hl : l.Pairwise fun m n => m.1.number < n.1.number) :
    (insertInto h t l).Pairwise fun m n => m.1.number < n.1.number := by
  induction l with
  | nil => simp [insertInto]
  | cons m rest ih =>
    obtain ⟨hm, hrest⟩ := List.pairwise_cons.mp hl
    unfold insertInto
    split_ifs with hlt heq
    · refine List.pairwise_cons.mpr ⟨fun n hn => ?_, hl⟩
      rcases List.mem_cons.mp hn with rfl | hn
      · exact hlt
      · exact hlt.trans (hm n hn)
    · subst heq
      exact List.pairwise_cons.mpr ⟨hm, hrest⟩
    · refine List.pairwise_cons.mpr ⟨fun n hn => ?_, ih hrest⟩
      rcases mem_insertInto hn with rfl | hn
      · have hne : h.number ≠ m.1.number := fun hnumber => heq (congrArg Handle.mk hnumber)
        exact lt_of_le_of_ne (Nat.not_lt.mp hlt) hne.symm
      · exact hm n hn

lemma Sorted.insert {b : Barrier} (hb : b.Sorted) (h : Handle) (t : Target) :
    (b.insert h t).Sorted :=
  sorted_insertInto hb

lemma Sorted.remove {b : Barrier} (hb : b.Sorted) (h : Handle) : (b.remove h).Sorted :=
  hb.filter _

lemma sorted_closed : closed.Sorted := List.Pairwise.nil

/-- Those who are still on the way were so before. -/
lemma advance_sublist [Scalar α] (g : Settings α) (pending : List (Handle × Target)) (c : Cast α) :
    (advance g pending c).1.Sublist pending := by
  have h : ((Cast.drive Prod.fst (turn g) pending c).1.map id).Sublist (pending.map id) :=
    Cast.map_drive_sublist (fun _ _ => rfl) c
  rwa [← advance_eq_drive, List.map_id, List.map_id] at h

end Barrier

namespace Troupe

/-- Targets and paths belong to live actors, one at most of either to each. -/
structure Sound (T : Troupe α) : Prop where
  pending : T.barrier.movers ⊆ T.cast.handles
  sorted : T.barrier.Sorted
  walking : T.walkers ⊆ T.cast.handles
  apart : T.walkers.Nodup
  paths : ∀ p ∈ T.paths, p.Sound

variable {T U : Troupe α}

namespace Sound

/-- Actors may change, and some may come. -/
lemma recast (hT : T.Sound) {c : Cast α} (hc : T.cast.handles ⊆ c.handles) :
    Sound { T with cast := c } :=
  ⟨List.Subset.trans hT.pending hc, hT.sorted, List.Subset.trans hT.walking hc, hT.apart, hT.paths⟩

lemma put (hT : T.Sound) (h : Handle) (a : Actor α) : (T.put h a).Sound :=
  hT.recast (by simp)

/-- Nobody is on the way and nobody follows a path. -/
lemma of_idle (hidle : T.barrier = .closed) (hpathless : T.paths = []) : T.Sound where
  pending := by simp [hidle]
  sorted := hidle ▸ Barrier.sorted_closed
  walking := by simp [walkers, hpathless]
  apart := by simp [walkers, hpathless]
  paths := by simp [hpathless]

lemma send (hT : T.Sound) {h : Handle} (hh : h ∈ T.cast.handles) (t : Target) :
    Sound { T with barrier := T.barrier.insert h t } where
  pending := by
    intro k hk
    rcases Barrier.mem_movers_insert.mp hk with rfl | hk
    · exact hh
    · exact hT.pending hk
  sorted := hT.sorted.insert h t
  walking := hT.walking
  apart := hT.apart
  paths := hT.paths

lemma dropTarget (hT : T.Sound) (h : Handle) :
    Sound { T with barrier := T.barrier.remove h } where
  pending := fun _ hk => hT.pending (Barrier.mem_movers_remove.mp hk).1
  sorted := hT.sorted.remove h
  walking := hT.walking
  apart := hT.apart
  paths := hT.paths

/-- A path takes the place of the one that its actor may have had. -/
lemma follow (hT : T.Sound) {p : Path α} (hp : p.Sound) (hlive : p.actor ∈ T.cast.handles) :
    (T.follow p).Sound where
  pending := hT.pending
  sorted := hT.sorted
  walking := by
    intro h hh
    obtain ⟨q, hq, rfl⟩ := List.mem_map.mp hh
    rcases List.mem_append.mp hq with hq | hq
    · exact hT.walking (List.mem_map_of_mem (List.mem_filter.mp hq).1)
    · rwa [List.mem_singleton.mp hq]
  apart := by
    have hothers : ((T.paths.filter fun q => q.actor ≠ p.actor).map Path.actor).Nodup :=
      hT.apart.sublist (List.filter_sublist.map _)
    simp only [walkers, Troupe.follow, List.map_append, List.map_cons, List.map_nil]
    refine hothers.append (List.nodup_singleton _) ?_
    rw [List.disjoint_singleton]
    simp
  paths := by
    intro q hq
    rcases List.mem_append.mp hq with hq | hq
    · exact hT.paths q (List.mem_filter.mp hq).1
    · rwa [List.mem_singleton.mp hq]

lemma without (hT : T.Sound) (h : Handle) : (T.without h).Sound where
  pending := by
    intro k hk
    obtain ⟨hk, hne⟩ := Barrier.mem_movers_remove.mp hk
    exact Cast.mem_handles_remove.mpr ⟨hT.pending hk, hne⟩
  sorted := hT.sorted.remove h
  walking := by
    intro k hk
    obtain ⟨p, hp, rfl⟩ := List.mem_map.mp hk
    obtain ⟨hp, hne⟩ := List.mem_filter.mp hp
    exact Cast.mem_handles_remove.mpr ⟨hT.walking (List.mem_map_of_mem hp), by simpa using hne⟩
  apart := hT.apart.sublist (List.filter_sublist.map _)
  paths := fun p hp => hT.paths p (List.mem_filter.mp hp).1

variable [Scalar α] {g : Settings α} {name : String}

/-- One act of a command. -/
lemma act (hT : T.Sound) (h : Act g name T U) : U.Sound := by
  cases h with
  | poses live pose => exact hT.put _ _
  | shifts named live offset => exact hT.put _ _
  | paces named live positive => exact hT.put _ _
  | sends named live offset facing =>
    exact (hT.put _ _).send (by simpa [Troupe.put] using Cast.mem_handles_of_get? live) _
  | follows named live steps looping =>
    refine (hT.put _ _).follow (Path.sound_of_start _ steps looping) ?_
    simpa [Troupe.put, Path.start] using Cast.mem_handles_of_get? live
  | circles named live width height pause =>
    refine (hT.put _ _).follow (Path.sound_square _ width height pause) ?_
    simpa [Troupe.put, Path.square, Path.start] using Cast.mem_handles_of_get? live
  | warps named live tile => exact (hT.put _ _).dropTarget _
  | halts named =>
    have hhalted : Sound { T with cast := T.cast.haltAll } := hT.recast (by simp)
    exact ⟨by simp, Barrier.sorted_closed, hhalted.walking, hT.apart, hT.paths⟩
  | releases named =>
    have hhandles : ∀ (l : List Handle) (c : Cast α),
        (l.foldl (fun c h => c.modify h fun a => a.halt.freed) c).handles = c.handles := by
      intro l
      induction l with
      | nil => exact fun _ => rfl
      | cons h rest ih => exact fun c => (ih _).trans (c.handles_modify h _)
    exact
      { pending := by
          rw [released, hhandles]
          exact hT.pending
        sorted := hT.sorted
        walking := List.nil_subset _
        apart := List.nodup_nil
        paths := fun _ hp => absurd hp List.not_mem_nil }
  | comes named actor kind tile facing => exact hT.recast (Cast.handles_subset_spawn _ _)
  | leaves named h => exact hT.without h

lemma elapse (hT : T.Sound) (time : α) (g : Settings α) : (T.elapse time g).Sound := by
  have hhandles : (T.elapse time g).cast.handles = T.cast.handles := by
    simp [Troupe.elapse, Path.updateAll_eq_drive]
  have hwalkers : (T.elapse time g).walkers.Sublist T.walkers := by
    simp only [walkers, Troupe.elapse, Path.updateAll_eq_drive]
    exact Cast.map_drive_sublist (fun p a => p.update_actor a time g) _
  refine ⟨hhandles ▸ hT.pending, hT.sorted, ?_, hT.apart.sublist hwalkers, fun q hq => ?_⟩
  · exact hhandles ▸ List.Subset.trans hwalkers.subset hT.walking
  · simp only [Troupe.elapse, Path.updateAll_eq_drive] at hq
    obtain ⟨p, hp, a, hgoes, rfl⟩ := Cast.mem_drive hq
    exact (Path.update_moved (hT.paths p hp)).sound hgoes

lemma resolve (hT : T.Sound) (g : Settings α) : (T.resolve g).Sound := by
  have hhandles : (T.resolve g).cast.handles = T.cast.handles := by
    simp [Troupe.resolve, Barrier.advance_eq_drive]
  have hgoing := Barrier.advance_sublist g T.barrier.pending T.cast
  exact
    { pending := hhandles ▸ List.Subset.trans (hgoing.map Prod.fst).subset hT.pending
      sorted := hT.sorted.sublist hgoing
      walking := hhandles ▸ hT.walking
      apart := hT.apart
      paths := hT.paths }

end Sound

/-- Every troupe that begins without targets and paths stays sound. -/
theorem sound_rule [Scalar α] : Rule fun (_ : Settings α) T => T.Sound where
  act hT h := hT.act h
  drift hT h := by
    cases h with
    | assembles player idle pathless => exact .of_idle idle pathless
    | comes actor kind tile facing => exact hT.recast (Cast.handles_subset_spawn _ _)
    | elapses time => exact hT.elapse time _
    | resolves => exact hT.resolve _
    | dismisses => exact .of_idle rfl rfl
  still _ := .of_idle rfl rfl

end Troupe

end Cutscene
