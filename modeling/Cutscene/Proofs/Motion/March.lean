import Cutscene.Proofs.Motion.Stride
import Cutscene.Proofs.Troupe.Pace

/-!
# Those on the Way Get There

In exact arithmetic the barrier brings each of those on the way one stride nearer with every tick,
or lands it. Time alone does not set them back: an actor moves by itself only where a path walks it.
So the ticks that the barrier may still take (`Troupe.march`) are fewer after every tick, as long
as no path walks any of those on the way.
-/

namespace Cutscene

/-- Whoever is brisk gets on. -/
lemma Settings.Walkable.speed_pos {g : Settings ℚ} (hg : g.Walkable) {a : Actor ℚ}
    (ha : a.Brisk) : 0 < a.speed g := by
  unfold Actor.speed
  cases hv : a.speedOverride with
  | some v => exact not_le.mp (ha v hv)
  | none =>
    rw [Option.getD_none]
    split
    · exact hg.farmerSpeed
    · exact hg.npcSpeed

namespace Troupe

/-- The ticks that an actor on its way may still take: one for each stride, and one to land. -/
def ticksTo (g : Settings ℚ) (m : Handle × Target) : Option (Actor ℚ) → ℕ
  | some a => a.strides (tileOrigin g.tileSize m.2.tile) (a.speed g) + 1
  | none => 1

/-- The ticks that the barrier may still take. -/
def march (g : Settings ℚ) (T : Troupe ℚ) : ℕ :=
  Cast.purse (ticksTo g) Prod.fst T.barrier.pending T.cast

/-- No path walks any of those on the way. -/
def Undisturbed (T : Troupe ℚ) : Prop :=
  ∀ q ∈ T.paths, q.Wanders → q.actor ∉ T.barrier.movers

variable {g : Settings ℚ} {T : Troupe ℚ}

/-- The barrier spends a tick on each of those on the way. -/
theorem resolve_march (hg : g.Walkable) (hsound : T.Sound) (hbrisk : T.Brisk) :
    (T.resolve g).march g + T.barrier.pending.length ≤ T.march g := by
  unfold march resolve
  dsimp only
  rw [Barrier.advance_eq_drive]
  refine Cast.drive_purse hsound.sorted.movers_nodup (fun _ _ => rfl) ?_ ?_
  · intro m a
    cases a <;> exact Nat.succ_pos _
  · intro m _ a ha hgoes
    have hv := hg.speed_pos (hbrisk.of_get? ha)
    have hspeed : (a.approach g m.2).1.speed g = a.speed g := by
      rcases a.approach_cases g m.2 with ⟨-, heq⟩ | ⟨-, heq⟩
      · rw [Barrier.turn, heq] at hgoes
        cases hgoes
      · rw [heq]
        exact (a.stepToward_walks _ _).speed g
    have hstride := Actor.approach_strides hg hv hgoes
    simp only [ticksTo, Barrier.turn, hspeed]
    omega

/-- Time alone sets nobody back who is on the way, unless a path walks him. -/
theorem elapse_march (hsound : T.Sound) (hclear : T.Undisturbed) (time : ℚ) :
    (T.elapse time g).march g = T.march g := by
  refine Cast.purse_congr fun m hm => ?_
  have hmover : m.1 ∈ T.barrier.movers := List.mem_map_of_mem hm
  obtain ⟨a, ha⟩ := Option.isSome_iff_exists.mp (Cast.get?_isSome_iff.mpr (hsound.pending hmover))
  have hupdated : (T.cast.modifyAll (·.update time)).get? m.1 = some (a.update time) := by
    rw [Cast.get?_modifyAll, ha, Option.map_some]
  have hturn : ∀ q ∈ T.paths, q.actor = m.1 → ∀ b : Actor ℚ,
      (Path.turn time g q b).2.1.position = b.position ∧
        (Path.turn time g q b).2.1.speed g = b.speed g := by
    intro q hq hactor b
    have hmoved : q.Moved b (q.update b time g).1 (q.update b time g).2.1
        (q.update b time g).2.2 := Path.update_moved (hsound.paths q hq)
    refine ⟨hmoved.stays fun hwanders => hclear q hq hwanders (hactor ▸ hmover), ?_⟩
    cases hended : (q.update b time g).2.2 with
    | false => exact (hmoved.walks hended).speed g
    | true => exact (hmoved.frees hended).speed g
  obtain ⟨b, hb, hposition, hspeed⟩ := Cast.get?_drive
    (fun a b : Actor ℚ => b.position = a.position ∧ b.speed g = a.speed g)
    (fun _ => ⟨rfl, rfl⟩) (fun h h' => ⟨h'.1.trans h.1, h'.2.trans h.2⟩) hturn hupdated
  have hposes := a.update_poses time
  have hleft : (T.elapse time g).cast.get? m.1 = some b := by
    rw [elapse, Path.updateAll_eq_drive]
    exact hb
  rw [hleft, ha]
  simp only [ticksTo, Actor.strides, hposition, hspeed, hposes.position, hposes.toWalks.speed g]

/-- No path comes to walk anybody on the way in a tick. -/
lemma Undisturbed.tick (hclear : T.Undisturbed) (hsound : T.Sound) (time : ℚ) :
    ((T.elapse time g).resolve g).Undisturbed := by
  intro q hq hwanders hmover
  have hgoing := Barrier.advance_sublist g T.barrier.pending (T.elapse time g).cast
  have hq : q ∈ (T.elapse time g).paths := hq
  rw [elapse, Path.updateAll_eq_drive] at hq
  obtain ⟨p, hp, a, -, rfl⟩ := Cast.mem_drive hq
  have hmoved : p.Moved a (p.update a time g).1 (p.update a time g).2.1
      (p.update a time g).2.2 := Path.update_moved (hsound.paths p hp)
  obtain ⟨offset, hoffset⟩ := hwanders
  refine hclear p hp ⟨offset, ?_⟩ ?_
  · rw [← hmoved.steps]
    exact hoffset
  · rw [← hmoved.actor]
    exact (hgoing.map Prod.fst).subset hmover

end Troupe

end Cutscene
