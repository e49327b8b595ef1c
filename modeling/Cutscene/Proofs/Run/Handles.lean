import Cutscene.Proofs.Footprint.Spelled
import Cutscene.Proofs.Run.Release
import Cutscene.Proofs.Troupe.Sound

/-!
# No Handle Dangles

Actors come and go and take each other's place while targets and paths hold their handles from tick
to tick. Still every target and every path of a run has a live actor, and finds it live when its
turn comes; nobody follows two paths, and no path looks for a step that it does not have.
-/

namespace Cutscene

open Scene Commands

variable {α σ : Type} [Scalar α]

namespace Scene

/-- The cast that a path finds when its turn comes after these. -/
def castAtPath (u : Scene α σ) (earlier : List (Path α)) : Cast α :=
  (Path.updateAll u.elapsed u.settings earlier (u.cast.modifyAll (·.update u.elapsed))).2

/-- The cast that a target finds when its turn comes after these. -/
def castAtTarget (u : Scene α σ) [Stage α σ] (earlier : List (Handle × Target)) : Cast α :=
  (Barrier.advance u.settings earlier u.elapse.cast).2

lemma handles_castAtPath (u : Scene α σ) (earlier : List (Path α)) :
    (u.castAtPath earlier).handles = u.cast.handles := by
  rw [castAtPath, Path.updateAll_eq_drive, Cast.handles_drive, Cast.handles_modifyAll]

lemma handles_castAtTarget [Stage α σ] (u : Scene α σ) (earlier : List (Handle × Target)) :
    (u.castAtTarget earlier).handles = u.elapse.cast.handles := by
  rw [castAtTarget, Barrier.advance_eq_drive, Cast.handles_drive]

variable [Stage α σ]

/-- In a sound troupe every path and every target finds its actor live in its turn. -/
lemma finds_of_sound {u : Scene α σ} (hu : u.troupe.Sound) :
    (∀ earlier q later, u.paths = earlier ++ q :: later →
      ((u.castAtPath earlier).get? q.actor).isSome ∧
        (q.steps[q.index]? = none → q.steps = [])) ∧
    ∀ earlier m later, u.elapse.barrier.pending = earlier ++ m :: later →
      ((u.castAtTarget earlier).get? m.1).isSome := by
  refine ⟨fun earlier q later hsplit => ?_, fun earlier m later hsplit => ?_⟩
  · have hq : q ∈ u.paths := hsplit ▸ List.mem_append_right _ List.mem_cons_self
    refine ⟨?_, (hu.paths q hq).getElem?⟩
    rw [Cast.get?_isSome_iff, handles_castAtPath]
    exact hu.walking (List.mem_map_of_mem hq)
  · have hm : m ∈ u.elapse.barrier.pending :=
      hsplit ▸ List.mem_append_right _ List.mem_cons_self
    have helapsed : u.elapse.troupe.Sound := hu.elapse u.elapsed u.settings
    rw [Cast.get?_isSome_iff, handles_castAtTarget]
    exact helapsed.pending (List.mem_map_of_mem hm)

lemma ruled_of_mem_course {rule : Settings α → Troupe α → Prop} (r : Troupe.Rule rule)
    {p : Premiere α σ} (h : rule p.settings ⟨.empty 0, .closed, []⟩)
    {moves : List (HostMove α σ)} {t : Scene α σ} (ht : t ∈ p.scene.course table moves) :
    t.Ruled rule :=
  ((Ruled.habit r).kept.course ⟨p.atRest, p.ruled h⟩ moves t ht).2

end Scene

variable [Stage α σ]

/-- **No handle dangles.** In every scene of every run each target and each path belongs to a live
actor, no two paths belong to the same one, and a path is at a step that it has, or at the first of
none. So in the tick that such a scene is in for, once the header is read, a target never finds that
its actor has left, and no path with steps looks for one beyond its last. -/
theorem no_handle_dangles (p : Premiere α σ) (moves : List (HostMove α σ)) :
    ∀ t ∈ p.scene.course table moves,
      (∀ m ∈ t.barrier.pending, (t.cast.get? m.1).isSome) ∧
      (∀ q ∈ t.paths, (t.cast.get? q.actor).isSome) ∧
      (t.paths.map Path.actor).Nodup ∧
      (∀ q ∈ t.paths, q.index < q.steps.length ∨ q.steps = [] ∧ q.index = 0) ∧
      (∀ earlier q later, t.openEvent.1.paths = earlier ++ q :: later →
        ((t.openEvent.1.castAtPath earlier).get? q.actor).isSome ∧
          (q.steps[q.index]? = none → q.steps = [])) ∧
      ∀ earlier m later, t.openEvent.1.elapse.barrier.pending = earlier ++ m :: later →
        ((t.openEvent.1.castAtTarget earlier).get? m.1).isSome := by
  intro t ht
  have hs : t.Ruled fun _ T => T.Sound :=
    ruled_of_mem_course Troupe.sound_rule (.of_idle rfl rfl) ht
  have hopened : t.openEvent.1.troupe.Sound :=
    Troupe.sound_rule.drifts (g := t.settings) hs.rule (openEvent_drifts hs.unopened).troupe
  obtain ⟨hpaths, htargets⟩ := finds_of_sound hopened
  refine ⟨fun m hm => ?_, fun q hq => ?_, hs.rule.apart, fun q hq => (hs.rule.paths q hq).inside,
    hpaths, htargets⟩
  · exact Cast.get?_isSome_iff.mpr (hs.rule.pending (List.mem_map_of_mem hm))
  · exact Cast.get?_isSome_iff.mpr (hs.rule.walking (List.mem_map_of_mem hq))

/-- Abigail sets off, along a path and to a target, and is brought on again under her handle. -/
theorem walk_keeps_handle :
    ∃ t ∈ (rehearsed ["beginSimultaneousCommand", "advancedMove Abigail true 2 0 0 2",
        "move Abigail 5 0 1 continue", "addActor npc abigail 3 3 2", "pause 1000"]).scene.course
        table [.tick, .tick],
      (t.barrier.pending.map Prod.fst = [⟨0⟩] ∧ t.paths.map Path.actor = [⟨0⟩]) ∧
        (∀ m ∈ t.barrier.pending, (t.cast.get? m.1).isSome) ∧
        (∀ q ∈ t.paths, (t.cast.get? q.actor).isSome) ∧ (t.paths.map Path.actor).Nodup ∧
        ∀ q ∈ t.paths, q.index < q.steps.length ∨ q.steps = [] ∧ q.index = 0 := by
  generalize hp : rehearsed ["beginSimultaneousCommand", "advancedMove Abigail true 2 0 0 2",
    "move Abigail 5 0 1 continue", "addActor npc abigail 3 3 2", "pause 1000"] = p
  have hmem := p.scene.play_mem_course table [.tick, .tick]
  have hunder : (p.scene.play table [.tick, .tick]).barrier.pending.map Prod.fst = [⟨0⟩] ∧
      (p.scene.play table [.tick, .tick]).paths.map Path.actor = [⟨0⟩] := by
    rw [← hp, table_eq_spelled]
    decide +kernel
  obtain ⟨htargets, hpaths, hapart, hinside, -⟩ :=
    no_handle_dangles p [.tick, .tick] _ hmem
  exact ⟨_, hmem, hunder, htargets, hpaths, hapart, hinside⟩

end Cutscene
