import Cutscene.Proofs.Tempo.Basic

/-!
# What the Clock Moves

Before the commands of a tick, actors, paths and the movement barrier go on. All of it happens on
the clock: without its clock the scene is the same, and a move that held the script is over either
way (`Scene.resume_timed`).
-/

namespace Cutscene

variable {α : Type} [Scalar α]

/-! ### Actors on their way -/

namespace Actor

lemma animate_bare (a : Actor α) (elapsed : α) : (a.animate elapsed).bare = a.bare := by
  unfold animate
  split
  · rfl
  · split <;> rfl

lemma update_bare (a : Actor α) (elapsed : α) : (a.update elapsed).bare = a.bare :=
  a.animate_bare elapsed

lemma stepToward_bare (a : Actor α) (target : Vec α) (speed : α) :
    (a.stepToward target speed).1.bare = a.bare := by
  unfold stepToward
  dsimp only
  split_ifs <;> rfl

lemma approach_bare (s : Settings α) (a : Actor α) (t : Target) :
    (a.approach s t).1.bare = a.bare := by
  unfold approach
  split
  · rfl
  · exact a.stepToward_bare _ _

end Actor

namespace Path

variable {p : Path α} {a : Actor α} {elapsed : α} {s : Settings α}

/-- A path and its actor after some time: whose path it is, what is to happen at its end, and the
name and the kind of the actor are the same. -/
structure Follows (p : Path α) (a : Actor α) (q : Path α) (b : Actor α) : Prop where
  actor : q.actor = p.actor
  tame : q.Tame
  bare : b.bare = a.bare

lemma make_follows (hp : p.Tame) (step : PathStep α) :
    p.Follows a (p.make step a elapsed s).1 (p.make step a elapsed s).2.1 := by
  cases step with
  | walk offset => exact ⟨rfl, hp, a.stepToward_bare _ _⟩
  | face d time => exact ⟨rfl, hp, rfl⟩
  | wait time => exact ⟨rfl, hp, rfl⟩

lemma complete_follows (hp : p.Tame) : p.Follows a (p.complete a).1 (p.complete a).2.1 := by
  refine ⟨rfl, fun f hf => (nomatch hf), ?_⟩
  unfold complete
  cases hend : p.atEnd with
  | none => rfl
  | some f => exact hp f hend a.halt

lemma update_follows (hp : p.Tame) :
    p.Follows a (p.update a elapsed s).1 (p.update a elapsed s).2.1 := by
  unfold update
  split
  · exact complete_follows hp
  · rename_i step _
    have hmake : p.Follows a (p.make step a elapsed s).1 (p.make step a elapsed s).2.1 :=
      make_follows hp step
    generalize p.make step a elapsed s = made at hmake ⊢
    obtain ⟨q, b, made⟩ := made
    dsimp only at hmake ⊢
    split
    · exact hmake
    · split
      · exact ⟨hmake.actor, hmake.tame, hmake.bare⟩
      · split
        · exact ⟨hmake.actor, hmake.tame, hmake.bare⟩
        · have hq : Tame { q with target := none, pauseLeft := 0, index := q.index + 1 } :=
            hmake.tame
          have hdone := complete_follows (a := b) hq
          exact ⟨hmake.actor, hdone.tame, hdone.bare.trans hmake.bare⟩

lemma updateAll_spec (elapsed : α) (s : Settings α) {paths : List (Path α)} {c : Cast α}
    (hc : c.Orderly) (hpaths : ∀ p ∈ paths, p.Tame) :
    (∀ p ∈ (updateAll elapsed s paths c).1, p.Tame) ∧ (updateAll elapsed s paths c).2.Orderly ∧
      (updateAll elapsed s paths c).2.bare = c.bare := by
  induction paths generalizing c with
  | nil => exact ⟨by simp [updateAll], hc, rfl⟩
  | cons p rest ih =>
    have hrest := fun q hq => hpaths q (List.mem_cons_of_mem p hq)
    unfold updateAll
    cases ha : c.get? p.actor with
    | none => exact ih hc hrest
    | some a =>
      have hnext : p.Follows a (p.update a elapsed s).1 (p.update a elapsed s).2.1 :=
        update_follows (hpaths p List.mem_cons_self)
      dsimp only
      generalize p.update a elapsed s = next at hnext ⊢
      obtain ⟨q, b, ended⟩ := next
      have hq : c.get? q.actor = some a := hnext.actor ▸ ha
      obtain ⟨hgoing, horder, hcast⟩ := ih (hc.modify q.actor fun _ => b) hrest
      refine ⟨?_, horder, hcast.trans (hc.bare_modify hq hnext.bare)⟩
      dsimp only
      split
      · exact hgoing
      · exact List.forall_mem_cons.mpr ⟨hnext.tame, hgoing⟩

end Path

namespace Barrier

lemma advance_spec (s : Settings α) (pending : List (Handle × Target)) {c : Cast α}
    (hc : c.Orderly) :
    (advance s pending c).2.Orderly ∧ (advance s pending c).2.bare = c.bare := by
  induction pending generalizing c with
  | nil => exact ⟨hc, rfl⟩
  | cons m rest ih =>
    unfold advance
    cases ha : c.get? m.1 with
    | none => exact ih hc
    | some a =>
      have hbare := a.approach_bare s m.2
      dsimp only
      generalize a.approach s m.2 = next at hbare ⊢
      obtain ⟨b, landed⟩ := next
      obtain ⟨horder, hcast⟩ := ih (hc.modify m.1 fun _ => b)
      exact ⟨horder, hcast.trans (hc.bare_modify ha hbare)⟩

/-- The barrier is closed on the tick that closes it, and open on the ticks before. -/
lemma resolve_spec {b : Barrier} (s : Settings α) {c : Cast α} (hc : c.Orderly)
    (hopen : ¬ b.isClosed) : (b.resolve s c).2.1.Orderly ∧ (b.resolve s c).2.1.bare = c.bare ∧
      ((b.resolve s c).2.2 = true ↔ (b.resolve s c).1.isClosed = true) := by
  obtain ⟨horder, hcast⟩ := advance_spec s b.pending hc
  refine ⟨horder, hcast, ?_⟩
  have hopen : b.isClosed = false := by simpa using hopen
  simp only [resolve, hopen, Bool.not_false, Bool.true_and]
  exact Iff.rfl

end Barrier

/-! ### The scene before its commands -/

namespace Scene

variable {s : Scene α Rehearsal}

lemma elapse_tame (hs : s.Tame) : s.elapse.Tame ∧ s.elapse.Alike s := by
  have horder := hs.cast.modifyAll (·.update s.elapsed)
  have hupdate := Cast.bare_modifyAll (fun a => a.update_bare s.elapsed) s.cast
  obtain ⟨hpaths, hcast, hbare⟩ := Path.updateAll_spec s.elapsed s.settings horder hs.paths
  refine ⟨⟨hcast, hpaths⟩, ?_⟩
  have hstage : (Rehearsal.wait s.stage).bare = s.stage.bare := by
    unfold Rehearsal.wait
    split <;> rfl
  exact congrArg₂ (fun (c : Cast α) (r : Rehearsal) =>
    ({ s.bare with cast := c, stage := r } : Scene α Rehearsal)) (hbare.trans hupdate) hstage

/-- A scene that is the same but for the clock, and whose script is as free, is the same once the
movers have landed. -/
lemma Alike.untimed {t : Scene α Rehearsal} (h : t.Alike s) (hfree : t.Free ↔ s.Free) :
    t.untimed = s.untimed := by
  by_cases hf : s.Free
  · rw [untimed_of_free hf, untimed_of_free (hfree.mpr hf), show t.bare = s.bare from h]
  · rw [untimed_of_not_free hf, untimed_of_not_free (mt hfree.mp hf)]
    exact congrArg (Scene.advance · 1) h

/-- The last of the movers lands beside a script that goes on. -/
lemma Alike.untimed_of_landed {t : Scene α Rehearsal} (h : t.Alike s)
    (hclosed : t.barrier.isClosed) (hgo : s.flags.continueAfterMove) : t.untimed = s.untimed :=
  h.untimed (iff_of_true (.inl hclosed) (.inr hgo))

/-- The last of the movers lands that the script has waited for. -/
lemma untimed_of_released {t : Scene α Rehearsal} (h : t.bare = (s.advance 1).bare)
    (hclosed : t.barrier.isClosed) (hheld : ¬ s.Free) : t.untimed = s.untimed := by
  rw [untimed_of_free (.inl hclosed), untimed_of_not_free hheld, h]

/-- Somebody is still on the way. -/
lemma Alike.untimed_of_going {t : Scene α Rehearsal} (h : t.Alike s) (hflags : t.flags = s.flags)
    (hopen : ¬ t.barrier.isClosed) (hopen' : ¬ s.barrier.isClosed) : t.untimed = s.untimed := by
  have hfree : t.Free ↔ t.flags.continueAfterMove = true := or_iff_right hopen
  have hfree' : s.Free ↔ s.flags.continueAfterMove = true := or_iff_right hopen'
  rw [hflags] at hfree
  exact h.untimed (hfree.trans hfree'.symm)

/-- Whatever happens before the commands of a tick, it happens on the clock. -/
lemma resume_timed (hs : s.Tame) (hphase : s.phase = .running ∨ s.phase = .suspended) :
    s.resume.1.Tame ∧ s.resume.1.untimed = s.untimed := by
  obtain ⟨htame, halike⟩ := elapse_tame hs
  unfold resume
  dsimp only
  split
  · exact ⟨htame, halike.untimed Iff.rfl⟩
  · split
    · exact ⟨htame, halike.untimed Iff.rfl⟩
    · rename_i hopen
      obtain ⟨horder, hcast, hclosed⟩ := Barrier.resolve_spec s.elapse.settings htame.cast hopen
      generalize s.elapse.barrier.resolve s.elapse.settings s.elapse.cast = r
        at horder hcast hclosed ⊢
      obtain ⟨barrier, cast, closed⟩ := r
      dsimp only at horder hcast hclosed ⊢
      have hmoved : ({ s.elapse with barrier := barrier, cast := cast } : Scene _ _).Alike s :=
        (Alike.of_cast hcast).trans halike
      split
      · rename_i hall
        split
        · rename_i hgo
          exact ⟨⟨horder, htame.paths⟩, Alike.untimed_of_landed hmoved (hclosed.mp hall) hgo⟩
        · rename_i hstop
          have hheld : ¬ s.Free := not_or.mpr ⟨hopen, hstop⟩
          have hrunning : s.phase.bare = .running := by
            rcases hphase with h | h <;> rw [h] <;> rfl
          have hnext := congrArg (fun v : Scene α Rehearsal =>
            ({ v.advance 1 with phase := .running } : Scene α Rehearsal)) hmoved
          have hthere : ({ (s.advance 1).bare with phase := .running } : Scene α Rehearsal) =
              (s.advance 1).bare :=
            congrArg (fun phase : Phase =>
              ({ (s.advance 1).bare with phase := phase } : Scene α Rehearsal)) hrunning.symm
          exact ⟨⟨horder, htame.paths⟩,
            untimed_of_released (hnext.trans hthere) (hclosed.mp hall) hheld⟩
      · rename_i hgoing
        exact ⟨⟨horder, htame.paths⟩,
          hmoved.untimed_of_going rfl (fun h => hgoing (hclosed.mpr h)) hopen⟩

end Scene

end Cutscene
