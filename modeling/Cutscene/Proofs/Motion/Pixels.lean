import Cutscene.Motion.Barrier
import Cutscene.Proofs.Scalar.Whole

/-!
# Boxes, Tiles and Arrival in Pixels

Boxes have whole pixels for their edges, wherever their actors are. If the numbers of the stage hold
the corner of a tile (`Tile.Kept`), then the tile is read off an actor that stands there
(`Actor.tile_of_origin`): its box, cut to whole pixels as it is, has its middle within the tile. An
actor has arrived if the four edges of its box allow it (`Settings.Admits`) and its walk covers the
gap (`hasArrived_iff`). On the corner itself there is no gap, and of the edges the left one decides
(`admits_zero_iff`).
-/

namespace Cutscene

variable {α : Type} [Scalar α]

/-! ### Corners -/

/-- An integer is read off its number of the stage. -/
def Scalar.Keeps (α : Type) [Scalar α] (n : ℤ) : Prop := round (ofInt n : α) = n

lemma Single.keeps {n : ℤ} (hn : n.natAbs ≤ 2 ^ 24) : Scalar.Keeps Float32 n := round_ofInt hn

/-- The numbers of the stage hold the corner of a tile. -/
structure Tile.Kept (α : Type) [Scalar α] (size : ℤ) (t : Tile) : Prop where
  x : Scalar.Keeps α (t.x * size)
  y : Scalar.Keeps α (t.y * size)

/-- What lies less than a tile behind the corner lies in the tile. -/
lemma tile_of_inset {size k : ℤ} (n : ℤ) (hk : 0 ≤ k) (hlt : k < size) :
    (n * size + k) / size = n := by
  rw [add_comm, Int.add_mul_ediv_right _ _ (by omega), Int.ediv_eq_zero_of_lt hk hlt, zero_add]

/-- **The tile under an actor on the corner of a tile.** The middle of its box is less than a tile
away from the corner, however the box is cut to whole pixels. -/
theorem Actor.tile_of_origin {size : ℤ} (hsize : 0 < size) {t : Tile} (ht : t.Kept α size)
    {a : Actor α} (ha : a.position = tileOrigin size t) : a.tile size = t := by
  have h8 := Int.tdiv_eq_ediv_of_nonneg (b := 8) hsize.le
  have h4 := Int.tdiv_eq_ediv_of_nonneg (b := 4) hsize.le
  have h2 := Int.tdiv_eq_ediv_of_nonneg (b := 2) hsize.le
  have h34 := Int.tdiv_eq_ediv_of_nonneg (a := size * 3) (b := 4) (by omega)
  have hwide := Int.tdiv_eq_ediv_of_nonneg (a := size * 3 / 4) (b := 2) (by omega)
  have hhigh := Int.tdiv_eq_ediv_of_nonneg (a := size / 2) (b := 2) (by omega)
  have h8nonneg : 0 ≤ size / 8 := by omega
  have h34nonneg : 0 ≤ size * 3 / 4 := by omega
  have hx : Scalar.round a.position.x = t.x * size := by rw [ha]; exact ht.x
  have hy : Scalar.round a.position.y = t.y * size := by rw [ha]; exact ht.y
  unfold tile box
  dsimp only
  rw [hx, hy, h8, h4, h2, h34, hwide, hhigh, Int.add_assoc, Int.add_assoc,
    tile_of_inset t.x (by omega) (by omega), tile_of_inset t.y (by omega) (by omega)]

/-! ### Arrival -/

/-- The box of an actor so many pixels away from the corner of a tile lies within the widened
tile. -/
structure Settings.Admits (s : Settings α) (dx dy : ℤ) : Prop where
  left : -s.arrivalSlop ≤ dx + s.tileSize.tdiv 8
  right : dx + s.tileSize.tdiv 8 + (s.tileSize * 3).tdiv 4 ≤ s.tileSize + s.arrivalSlop
  top : -s.arrivalSlop ≤ dy + s.tileSize.tdiv 4
  bottom : dy + s.tileSize.tdiv 4 + s.tileSize.tdiv 2 ≤ s.tileSize + s.arrivalSlop

/-- **When an actor has arrived.** The edges of its box allow it, and the wider of the gaps between
where it is and where the corner of the tile is takes it one tick at most. -/
theorem hasArrived_iff {s : Settings α} {a : Actor α} {t : Tile} :
    hasArrived s a t = true ↔
      s.Admits (Scalar.round a.position.x - t.x * s.tileSize)
          (Scalar.round a.position.y - t.y * s.tileSize) ∧
        (Scalar.ofInt (max
          (Scalar.round (Scalar.ofInt (t.x * s.tileSize) : α) - Scalar.round a.position.x).natAbs
          (Scalar.round (Scalar.ofInt (t.y * s.tileSize) : α) -
            Scalar.round a.position.y).natAbs : ℕ) : α) ≤ a.speed s := by
  have hgap : ∀ u v w : ℤ, u + w - (v + w) = u - v := fun u v w => by omega
  simp only [hasArrived, Rect.contains, Bool.and_eq_true, decide_eq_true_eq]
  dsimp only [Actor.setTile, Actor.box, tileOrigin, Rect.inflate, Rect.left, Rect.right, Rect.top,
    Rect.bottom]
  rw [hgap, hgap]
  refine and_congr_left fun _ => ⟨fun ⟨⟨⟨hleft, hright⟩, htop⟩, hbottom⟩ => ?_, fun h => ?_⟩
  · exact ⟨by omega, by omega, by omega, by omega⟩
  · obtain ⟨hleft, hright, htop, hbottom⟩ := h
    exact ⟨⟨⟨by omega, by omega⟩, by omega⟩, by omega⟩

omit [Scalar α] in
/-- A tile has some width, so that its parts may be rounded down. -/
lemma Settings.admits_iff {s : Settings α} (hsize : 0 < s.tileSize) {dx dy : ℤ} : s.Admits dx dy ↔
    (-s.arrivalSlop ≤ dx + s.tileSize / 8 ∧
      dx + s.tileSize / 8 + s.tileSize * 3 / 4 ≤ s.tileSize + s.arrivalSlop) ∧
    -s.arrivalSlop ≤ dy + s.tileSize / 4 ∧
      dy + s.tileSize / 4 + s.tileSize / 2 ≤ s.tileSize + s.arrivalSlop := by
  have h8 := Int.tdiv_eq_ediv_of_nonneg (b := 8) hsize.le
  have h4 := Int.tdiv_eq_ediv_of_nonneg (b := 4) hsize.le
  have h2 := Int.tdiv_eq_ediv_of_nonneg (b := 2) hsize.le
  have h34 := Int.tdiv_eq_ediv_of_nonneg (a := s.tileSize * 3) (b := 4) (by omega)
  rw [← h8, ← h4, ← h2, ← h34]
  exact ⟨fun h => ⟨⟨h.left, h.right⟩, h.top, h.bottom⟩, fun h => ⟨h.1.1, h.1.2, h.2.1, h.2.2⟩⟩

omit [Scalar α] in
/-- On the corner of the tile the left edge decides: the box is an eighth of a tile away from it, a
quarter of a tile at least from the others. -/
lemma Settings.admits_zero_iff {s : Settings α} (hsize : 0 < s.tileSize) :
    s.Admits 0 0 ↔ -(s.tileSize / 8) ≤ s.arrivalSlop := by
  rw [admits_iff hsize]
  omega

end Cutscene
