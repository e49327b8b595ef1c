import Cutscene.Proofs.Motion.Pixels
import Cutscene.Proofs.Troupe.Walking
import Cutscene.Scalar.Exact
import Mathlib.Data.Rat.Floor
import Mathlib.Tactic.FieldSimp
import Mathlib.Tactic.Linarith
import Mathlib.Tactic.NormNum

/-!
# Strides

In exact arithmetic every step takes an actor nearer to its target by a full stride, or onto the row
or the column of it. So the strides that it has to go, rounded up along either axis, are one fewer
after every tick in which it does not land, and once it has none to go it has arrived.
-/

namespace Cutscene

/-! ### Fractions -/

namespace Exact

lemma abs_eq (x : ℚ) : Scalar.abs x = |x| := by
  change (if x < 0 then -x else x) = |x|
  split_ifs with hx
  · exact (abs_of_neg hx).symm
  · exact (abs_of_nonneg (not_lt.mp hx)).symm

lemma least_eq (x y : ℚ) : Scalar.least x y = min x y := by
  change (if y < x then y else x) = min x y
  split_ifs with h
  · exact (min_eq_right h.le).symm
  · exact (min_eq_left (not_lt.mp h)).symm

lemma ofInt_eq (n : ℤ) : (Scalar.ofInt n : ℚ) = n := rfl

lemma tolerance_pos : (0 : ℚ) < Scalar.tolerance := by
  change (0 : ℚ) < 1 / 0x800000
  norm_num

lemma tolerance_lt_half : (Scalar.tolerance : ℚ) < 1 / 2 := by
  change (1 / 0x800000 : ℚ) < 1 / 2
  norm_num

lemma round_eq (x : ℚ) : Scalar.round x = if x < 0 then -⌊1 / 2 - x⌋ else ⌊x + 1 / 2⌋ := rfl

/-- What is nearer to an integer than a half is rounded to it. -/
lemma round_of_near {x : ℚ} {n : ℤ} (h : |x - n| < 1 / 2) : Scalar.round x = n := by
  obtain ⟨hlo, hhi⟩ := abs_lt.mp h
  rw [round_eq]
  split_ifs
  · have hfloor : ⌊1 / 2 - x⌋ = -n := by
      rw [Int.floor_eq_iff]
      push_cast
      constructor <;> linarith
    rw [hfloor, neg_neg]
  · rw [Int.floor_eq_iff]
    constructor <;> linarith

/-- Fractions hold every corner. -/
lemma keeps (n : ℤ) : Scalar.Keeps ℚ n := by
  refine round_of_near ?_
  rw [ofInt_eq, sub_self, abs_zero]
  norm_num

/-- A coordinate, one stride nearer to its target. -/
def nearer (target x v : ℚ) : ℚ :=
  if 0 < target - x then x + min |target - x| v else x - min |target - x| v

/-- A stride takes off its length, or all that there is to go. -/
lemma abs_sub_nearer (target x v : ℚ) :
    |target - nearer target x v| = |target - x| - min |target - x| v := by
  unfold nearer
  have hle := min_le_left |target - x| v
  split_ifs with hd
  · rw [← sub_sub, abs_of_nonneg (by rw [abs_of_pos hd] at hle ⊢; linarith), abs_of_pos hd]
  · rw [abs_of_nonpos (not_lt.mp hd)] at hle ⊢
    rw [abs_of_nonpos (by linarith)]
    ring

/-- The strides of a length that a distance takes. -/
def strides (d v : ℚ) : ℕ := ⌈|d| / v⌉₊

/-- A stride towards the end leaves one stride fewer. -/
lemma strides_lt {d d' v : ℚ} (hv : 0 < v) (hd : 0 < |d|) (h : |d'| = |d| - min |d| v) :
    strides d' v < strides d v := by
  unfold strides
  rcases le_total |d| v with hle | hle
  · rw [h, min_eq_left hle, sub_self, zero_div, Nat.ceil_zero]
    exact Nat.ceil_pos.mpr (div_pos hd hv)
  · have hone : 1 ≤ |d| / v := (one_le_div hv).mpr hle
    rw [h, min_eq_right hle, sub_div, div_self hv.ne', Nat.lt_ceil]
    have hceil := Nat.ceil_lt_add_one (sub_nonneg.mpr hone)
    linarith

end Exact

/-! ### Steps -/

/-- Tiles have a size, and everybody who is not told otherwise gets on. -/
structure Settings.Walkable (g : Settings ℚ) : Prop where
  tileSize : 0 < g.tileSize
  arrivalSlop : 0 ≤ g.arrivalSlop
  npcSpeed : 0 < g.npcSpeed
  farmerSpeed : 0 < g.farmerSpeed

namespace Actor

open Exact

/-- The strides that an actor has to go to a point. -/
def strides (a : Actor ℚ) (target : Vec ℚ) (v : ℚ) : ℕ :=
  Exact.strides (target.x - a.position.x) v + Exact.strides (target.y - a.position.y) v

/-- **What a step does.** It takes an actor one stride nearer along the row, or along the column if
there is next to none to go along the row, or it leaves an actor where it is that has next to none
to go. -/
lemma stepToward_cases (a : Actor ℚ) (target : Vec ℚ) (v : ℚ) :
    (Scalar.tolerance < |target.x - a.position.x| ∧ (a.stepToward target v).2 = false ∧
      (a.stepToward target v).1.position = ⟨nearer target.x a.position.x v, a.position.y⟩) ∨
    (|target.x - a.position.x| ≤ Scalar.tolerance ∧
      Scalar.tolerance < |target.y - a.position.y| ∧ (a.stepToward target v).2 = false ∧
      (a.stepToward target v).1.position = ⟨a.position.x, nearer target.y a.position.y v⟩) ∨
    (|target.x - a.position.x| ≤ Scalar.tolerance ∧
      |target.y - a.position.y| ≤ Scalar.tolerance ∧
      a.stepToward target v = ({ a with walking := false }, true)) := by
  have hright : ∀ {t x : ℚ}, 0 < t - x → x + min |t - x| v = nearer t x v := fun h =>
    (if_pos h).symm
  have hleft : ∀ {t x : ℚ}, ¬ 0 < t - x → x - min |t - x| v = nearer t x v := fun h =>
    (if_neg h).symm
  unfold stepToward
  dsimp only
  rw [Exact.abs_eq, Exact.abs_eq, least_eq, least_eq]
  split_ifs with hx hdir hy hdir
  · exact .inl ⟨hx, rfl, by rw [hright hdir]⟩
  · exact .inl ⟨hx, rfl, by rw [hleft hdir]⟩
  · exact .inr (.inl ⟨not_lt.mp hx, hy, rfl, by rw [hright hdir]⟩)
  · exact .inr (.inl ⟨not_lt.mp hx, hy, rfl, by rw [hleft hdir]⟩)
  · exact .inr (.inr ⟨not_lt.mp hx, not_lt.mp hy, rfl⟩)

/-- A step makes one stride, unless there is next to none to make. -/
lemma stepToward_strides {a : Actor ℚ} {target : Vec ℚ} {v : ℚ} (hv : 0 < v) :
    (a.stepToward target v).1.strides target v < a.strides target v ∨
      |target.x - a.position.x| ≤ Scalar.tolerance ∧
        |target.y - a.position.y| ≤ Scalar.tolerance := by
  unfold strides
  rcases a.stepToward_cases target v with ⟨hx, -, hposition⟩ | ⟨-, hy, -, hposition⟩ | ⟨hx, hy, -⟩
  · rw [hposition]
    exact .inl (Nat.add_lt_add_right
      (strides_lt hv (tolerance_pos.trans hx) (abs_sub_nearer _ _ _)) _)
  · rw [hposition]
    exact .inl (Nat.add_lt_add_left
      (strides_lt hv (tolerance_pos.trans hy) (abs_sub_nearer _ _ _)) _)
  · exact .inr ⟨hx, hy⟩

/-- An actor with next to none to go has arrived. -/
lemma hasArrived_of_near {g : Settings ℚ} (hg : g.Walkable) {a : Actor ℚ} {t : Tile}
    (hv : 0 < a.speed g)
    (hx : |(tileOrigin g.tileSize t : Vec ℚ).x - a.position.x| ≤ Scalar.tolerance)
    (hy : |(tileOrigin g.tileSize t : Vec ℚ).y - a.position.y| ≤ Scalar.tolerance) :
    hasArrived g a t = true := by
  have hround : ∀ {x : ℚ} {n : ℤ}, |(Scalar.ofInt n : ℚ) - x| ≤ Scalar.tolerance →
      Scalar.round x = n := by
    intro x n h
    rw [ofInt_eq, abs_sub_comm] at h
    exact round_of_near (h.trans_lt tolerance_lt_half)
  have hsize := hg.tileSize
  have hslop := hg.arrivalSlop
  rw [hasArrived_iff, hround hx, hround hy, keeps, keeps, sub_self, sub_self]
  exact ⟨(Settings.admits_zero_iff hsize).mpr (by omega), hv.le⟩

/-- An actor on its way that does not land makes a stride. -/
theorem approach_strides {g : Settings ℚ} (hg : g.Walkable) {a : Actor ℚ} {t : Target}
    (hv : 0 < a.speed g) (h : (a.approach g t).2 = false) :
    (a.approach g t).1.strides (tileOrigin g.tileSize t.tile) (a.speed g) <
      a.strides (tileOrigin g.tileSize t.tile) (a.speed g) := by
  rcases a.approach_cases g t with ⟨-, heq⟩ | ⟨haway, heq⟩
  · rw [heq] at h
    cases h
  · rw [heq]
    refine (stepToward_strides hv).resolve_right fun hnear => ?_
    rw [hasArrived_of_near hg hv hnear.1 hnear.2] at haway
    cases haway

end Actor

end Cutscene
