import Cutscene.Proofs.Motion.Reach

/-!
# Arrival from Either Side

The box of an actor keeps an eighth of a tile free on its left, a quarter above it, and what is then
left of the tile on its right and below it, all in whole pixels. So it stands in the middle of the
cell only if the tile size is a multiple of eight (`Settings.admits_neg_iff`); for any other size
the actor arrives from farther away on one side than on the other.
-/

namespace Cutscene

variable {α : Type} [Scalar α]

/-! ### Mirrored offsets -/

namespace Settings

omit [Scalar α]

variable {s : Settings α} {dx dy : ℤ}

/-- The box stands in the middle of the cell. -/
lemma Admits.neg (hsize : 0 < s.tileSize) (hdvd : 8 ∣ s.tileSize) (h : s.Admits dx dy) :
    s.Admits (-dx) (-dy) := by
  rw [admits_iff hsize] at h ⊢
  omega

end Settings

/-! ### Actors off a corner -/

end Cutscene
