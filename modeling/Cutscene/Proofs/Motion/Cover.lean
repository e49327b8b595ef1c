import Cutscene.Proofs.Motion.Stride

/-!
# What Strides Cover

A walk makes full strides for as long as there is more to go than the tolerance. So it ends on its
target, unless full strides leave a rest within the tolerance: then it ends short of it by that
rest. How far it gets (`Exact.covered`) is the same there and back (`covered_neg`), and no stride on
the way changes where it ends (`nearer_add_covered`).
-/

namespace Cutscene

namespace Exact

/-- The strides that a walk makes along a distance. -/
def paces (d v : ℚ) : ℕ := ⌈(|d| - Scalar.tolerance) / v⌉₊

/-- How much of a distance a walk covers: as much as its strides do, and no more than there is. -/
def covered (d v : ℚ) : ℚ :=
  if 0 < d then min (paces d v * v) |d| else -min (paces d v * v) |d|

/-- Some number of strides leaves a rest of the distance within the tolerance. -/
def LeavesRest (d v : ℚ) : Prop := ∃ k : ℕ, 0 < |d| - k * v ∧ |d| - k * v ≤ Scalar.tolerance

variable {d v : ℚ}

lemma le_paces (hv : 0 < v) : |d| - Scalar.tolerance ≤ paces d v * v :=
  (div_le_iff₀ hv).mp (Nat.le_ceil _)

lemma paces_of_near (hv : 0 < v) (hd : |d| ≤ Scalar.tolerance) : paces d v = 0 :=
  Nat.ceil_eq_zero.mpr (div_nonpos_of_nonpos_of_nonneg (sub_nonpos.mpr hd) hv.le)

lemma paces_pos (hv : 0 < v) (hd : Scalar.tolerance < |d|) : 0 < paces d v :=
  Nat.ceil_pos.mpr (div_pos (sub_pos.mpr hd) hv)

/-- One stride, and the strides that are left after it. -/
lemma paces_of_far {d' : ℚ} (hv : 0 < v) (hd : Scalar.tolerance < |d|) (hd' : |d'| = |d| - v) :
    paces d v = paces d' v + 1 := by
  have hless : (|d'| - Scalar.tolerance) / v = (|d| - Scalar.tolerance) / v - 1 := by
    rw [hd', sub_right_comm, sub_div _ v, div_self hv.ne']
  have hpos : 0 < ⌈(|d| - Scalar.tolerance) / v⌉₊ := paces_pos hv hd
  rw [paces, paces, hless, Nat.ceil_sub_one]
  omega

/-- There is nothing to walk where there is next to none to go. -/
lemma covered_of_near (hv : 0 < v) (hd : |d| ≤ Scalar.tolerance) : covered d v = 0 := by
  rw [covered, paces_of_near hv hd, Nat.cast_zero, zero_mul, min_eq_left (abs_nonneg d), neg_zero,
    ite_self]

lemma covered_zero (hv : 0 < v) : covered 0 v = 0 :=
  covered_of_near hv (by rw [abs_zero]; exact tolerance_pos.le)

/-- A walk gets as far back as there. -/
lemma covered_neg (hv : 0 < v) (d : ℚ) : covered (-d) v = -covered d v := by
  have hpaces : paces (-d) v = paces d v := by rw [paces, abs_neg, paces]
  rcases lt_trichotomy d 0 with hd | rfl | hd
  · rw [covered, covered, if_pos (neg_pos.mpr hd), if_neg hd.not_gt, hpaces, abs_neg, neg_neg]
  · rw [neg_zero, covered_zero hv, neg_zero]
  · rw [covered, covered, if_neg (by linarith), if_pos hd, hpaces, abs_neg]

/-- What a walk leaves of the distance. -/
lemma abs_sub_covered_eq (d v : ℚ) : |d - covered d v| = |d| - min (paces d v * v) |d| := by
  have hle := min_le_right (paces d v * v) |d|
  unfold covered
  split_ifs with hd
  · rw [abs_of_pos hd] at hle ⊢
    exact abs_of_nonneg (sub_nonneg.mpr hle)
  · rw [abs_of_nonpos (not_lt.mp hd)] at hle ⊢
    rw [abs_of_nonpos (by linarith)]
    ring

/-- A walk falls short by no more than the tolerance. -/
lemma abs_sub_covered (hv : 0 < v) (d : ℚ) : |d - covered d v| ≤ Scalar.tolerance := by
  have hpaces := le_paces (d := d) hv
  rw [abs_sub_covered_eq]
  rcases min_choice (paces d v * v) |d| with h | h
  · rw [h]
    linarith
  · rw [h, sub_self]
    exact tolerance_pos.le

/-- A walk that leaves no rest ends on its target. -/
lemma covered_eq (hv : 0 < v) (hd : ¬ LeavesRest d v) : covered d v = d := by
  have hpaces := le_paces (d := d) hv
  have hle : |d| ≤ paces d v * v := by
    refine not_lt.mp fun hlt => hd ⟨paces d v, sub_pos.mpr hlt, ?_⟩
    linarith
  have hzero : |d - covered d v| = 0 := by
    rw [abs_sub_covered_eq, min_eq_right hle, sub_self]
  exact (sub_eq_zero.mp (abs_eq_zero.mp hzero)).symm

/-- No stride on the way changes where a walk ends. -/
lemma nearer_add_covered {target x : ℚ} (hv : 0 < v) (hfar : Scalar.tolerance < |target - x|) :
    nearer target x v + covered (target - nearer target x v) v = x + covered (target - x) v := by
  suffices hforth : ∀ {t x : ℚ}, 0 < t - x → Scalar.tolerance < |t - x| →
      nearer t x v + covered (t - nearer t x v) v = x + covered (t - x) v by
    rcases lt_trichotomy (target - x) 0 with hd | hd | hd
    · -- The way back is the way there, seen from the other side.
      have hback := hforth (t := -target) (x := -x) (by linarith)
        (by rwa [neg_sub_neg, abs_sub_comm])
      have hnearer : nearer (-target) (-x) v = -nearer target x v := by
        rw [nearer, nearer, if_pos (by linarith), if_neg hd.not_gt, neg_sub_neg, abs_sub_comm]
        ring
      rw [hnearer, ← neg_sub', ← neg_sub', covered_neg hv, covered_neg hv] at hback
      linarith
    · rw [hd, abs_zero] at hfar
      exact absurd hfar tolerance_pos.not_gt
    · exact hforth hd hfar
  intro t x hd hfar
  have hnearer : nearer t x v = x + min (t - x) v := by rw [nearer, if_pos hd, abs_of_pos hd]
  rw [hnearer, ← sub_sub]
  rcases le_or_gt (t - x) v with hle | hlt
  · -- The last stride.
    have hpaces : (1 : ℚ) ≤ paces (t - x) v := by exact_mod_cast paces_pos hv hfar
    have hall : t - x ≤ paces (t - x) v * v := hle.trans (le_mul_of_one_le_left hv.le hpaces)
    rw [min_eq_left hle, sub_self, covered_zero hv, covered, if_pos hd, abs_of_pos hd,
      min_eq_right hall, add_zero]
  · have hrest : 0 < t - x - v := sub_pos.mpr hlt
    have hpaces : paces (t - x) v = paces (t - x - v) v + 1 :=
      paces_of_far hv hfar (by rw [abs_of_pos hd, abs_of_pos hrest])
    rw [min_eq_right hlt.le, covered, covered, if_pos hd, if_pos hrest, abs_of_pos hd,
      abs_of_pos hrest, hpaces, add_assoc, ← min_add_add_left]
    congr 2
    · push_cast
      ring
    · ring

/-- Among whole numbers no walk leaves a rest. -/
lemma not_leavesRest_of_whole (n m : ℤ) : ¬ LeavesRest (n : ℚ) m := by
  rintro ⟨k, hpos, hle⟩
  have hint : |(n : ℚ)| - k * m = ((|n| - k * m : ℤ) : ℚ) := by push_cast; rfl
  rw [hint] at hpos hle
  have hone : (1 : ℚ) ≤ ((|n| - k * m : ℤ) : ℚ) := by exact_mod_cast Int.cast_pos.mp hpos
  have hhalf := tolerance_lt_half
  linarith

end Exact

end Cutscene
