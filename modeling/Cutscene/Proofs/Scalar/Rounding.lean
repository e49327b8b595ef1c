import Mathlib.Data.Nat.Log
import Mathlib.Tactic.Ring

/-!
# Twenty-four Bits of a Natural Number

A number is rounded to twenty-four bits by dropping the bits behind them; what lies in the middle
goes to the even neighbour. If the same number is taken from a rounded one again and again, each
time rounding, the results get smaller and smaller or stand still. They get smaller as long as twice
the number that is taken is more than a step of the results (`fit_sub_lt`). Otherwise they stand
still after the first time (`fit_sub_fit`).
-/

namespace Cutscene

namespace Single

/-- A number without its last bits, rounded to the nearest and from the middle to the even one. -/
def halfEven (n k : ℕ) : ℕ :=
  if 2 * (n % 2 ^ k) < 2 ^ k then n / 2 ^ k
  else if 2 * (n % 2 ^ k) = 2 ^ k then n / 2 ^ k + n / 2 ^ k % 2
  else n / 2 ^ k + 1

/-- How many bits of a number are behind the first twenty-four. -/
def width (n : ℕ) : ℕ := n.log2 - 23

/-- A number rounded to twenty-four bits. -/
def fit (n : ℕ) : ℕ := halfEven n (width n) * 2 ^ width n

/-- A number that twenty-four bits hold. -/
def Fits (n : ℕ) : Prop := ∃ m k, m < 2 ^ 24 ∧ n = m * 2 ^ k

/-! ### Rounding -/

variable {n k : ℕ}

/-- Rounding adds half a step at most. -/
lemma two_mul_halfEven_le (n k : ℕ) : 2 * (halfEven n k * 2 ^ k) ≤ 2 * n + 2 ^ k := by
  have hsplit := Nat.div_add_mod' n (2 ^ k)
  have hrest := Nat.mod_lt n (Nat.two_pow_pos k)
  unfold halfEven
  split_ifs with hlow hmiddle
  · omega
  · rcases Nat.mod_two_eq_zero_or_one (n / 2 ^ k) with hmod | hmod
    · rw [hmod, Nat.add_zero]
      omega
    · rw [hmod, Nat.add_mul, Nat.one_mul]
      omega
  · rw [Nat.add_mul, Nat.one_mul]
    omega

/-- Zeros that are behind a number do not matter. -/
lemma halfEven_mul_pow (n k j : ℕ) : halfEven (n * 2 ^ j) (k + j) = halfEven n k := by
  have hpos := Nat.two_pow_pos j
  have hmod : n * 2 ^ j % 2 ^ (k + j) = n % 2 ^ k * 2 ^ j := by
    rw [pow_add, Nat.mul_mod_mul_right]
  have hdiv : n * 2 ^ j / 2 ^ (k + j) = n / 2 ^ k := by
    rw [pow_add, Nat.mul_div_mul_right _ _ hpos]
  have hlt : 2 * (n % 2 ^ k * 2 ^ j) < 2 ^ k * 2 ^ j ↔ 2 * (n % 2 ^ k) < 2 ^ k := by
    rw [← mul_assoc, Nat.mul_lt_mul_right hpos]
  have heq : 2 * (n % 2 ^ k * 2 ^ j) = 2 ^ k * 2 ^ j ↔ 2 * (n % 2 ^ k) = 2 ^ k := by
    rw [← mul_assoc, Nat.mul_left_inj hpos.ne']
  unfold halfEven
  rw [hmod, hdiv, pow_add]
  simp only [hlt, heq]

lemma width_pow_le (hw : 0 < width n) : 2 ^ (width n + 23) ≤ n := by
  have hlog : width n + 23 = n.log2 := by unfold width at hw ⊢; omega
  rw [hlog]
  refine Nat.log2_self_le fun hzero => ?_
  rw [hzero] at hw
  simp [width] at hw

lemma lt_width_pow (n : ℕ) : n < 2 ^ (width n + 24) := by
  refine Nat.lt_of_lt_of_le (Nat.lt_log2_self (n := n)) (Nat.pow_le_pow_right (by decide) ?_)
  unfold width
  omega

lemma width_mono {m n : ℕ} (h : m ≤ n) : width m ≤ width n := by
  unfold width
  rw [Nat.log2_eq_log_two, Nat.log2_eq_log_two]
  exact Nat.sub_le_sub_right (Nat.log_mono_right h) 23

/-- The result has no more than twenty-four bits, or it is the next power of two. -/
lemma halfEven_width_bounds (n : ℕ) : halfEven n (width n) ≤ 2 ^ 24 ∧
    (0 < width n → 2 ^ 23 ≤ halfEven n (width n)) := by
  have hpos := Nat.two_pow_pos (width n)
  have hquotient : n / 2 ^ width n < 2 ^ 24 := by
    rw [Nat.div_lt_iff_lt_mul hpos, ← pow_add, Nat.add_comm]
    exact lt_width_pow n
  have hle : n / 2 ^ width n ≤ halfEven n (width n) ∧
      halfEven n (width n) ≤ n / 2 ^ width n + 1 := by
    unfold halfEven
    split_ifs
    · omega
    · have := Nat.mod_lt (n / 2 ^ width n) (show 0 < 2 by decide)
      omega
    · omega
  refine ⟨by omega, fun hw => le_trans ?_ hle.1⟩
  rw [Nat.le_div_iff_mul_le hpos, ← pow_add, Nat.add_comm]
  exact width_pow_le hw

/-- What twenty-four bits hold is a whole number of steps of smaller numbers. -/
lemma Fits.dvd (h : Fits n) (hk : 2 ^ (k + 23) ≤ n) : 2 ^ k ∣ n := by
  obtain ⟨m, j, hm, rfl⟩ := h
  have hjk : k ≤ j := by
    by_contra hlt
    have hsmall : m * 2 ^ j < 2 ^ 24 * 2 ^ j := Nat.mul_lt_mul_of_pos_right hm (Nat.two_pow_pos j)
    have hpow : 2 ^ (j + 24) ≤ 2 ^ (k + 23) := Nat.pow_le_pow_right (by decide) (by omega)
    rw [pow_add] at hpow
    omega
  exact (pow_dvd_pow 2 hjk).mul_left m

/-! ### Taking away -/

variable {f : ℕ}

/-- Twice what is taken is more than a step of the results, which get smaller then. -/
lemma fit_sub_lt (hlt : f < n) (hsteep : 2 ^ width (n - f) < 2 * f) : fit (n - f) < n := by
  have := two_mul_halfEven_le (n - f) (width (n - f))
  unfold fit
  omega

/-- If a whole number of steps is diminished by half a step at most, then by nothing after
rounding, or it was just half a step and the even neighbour is below. -/
lemma halfEven_sub {p w : ℕ} (hf : 0 < f) (hflat : 2 * f ≤ 2 ^ w) :
    halfEven ((p + 1) * 2 ^ w - f) w = if 2 * f = 2 ^ w then p + p % 2 else p + 1 := by
  have hsplit : (p + 1) * 2 ^ w - f = 2 ^ w - f + 2 ^ w * p := by
    rw [Nat.add_mul, Nat.one_mul, Nat.mul_comm (2 ^ w)]
    omega
  have hrest : 2 ^ w - f < 2 ^ w := by omega
  have hmod : ((p + 1) * 2 ^ w - f) % 2 ^ w = 2 ^ w - f := by
    rw [hsplit, Nat.add_mul_mod_self_left, Nat.mod_eq_of_lt hrest]
  have hdiv : ((p + 1) * 2 ^ w - f) / 2 ^ w = p := by
    rw [hsplit, Nat.add_mul_div_left _ _ (Nat.two_pow_pos w), Nat.div_eq_of_lt hrest, Nat.zero_add]
  unfold halfEven
  rw [hmod, hdiv, if_neg (by omega)]
  by_cases hhalf : 2 * f = 2 ^ w
  · rw [if_pos (by omega), if_pos hhalf]
  · rw [if_neg (by omega), if_neg hhalf]

section Flat

/-! Now twice what is taken is a step of the results at most. -/

variable (hf : 0 < f) (hflat : 2 * f ≤ 2 ^ width (n - f))
include hf hflat

/-- The number is a whole number of steps of the results. -/
lemma Fits.steps (hn : Fits n) (hlt : f < n) : ∃ p, n = (p + 1) * 2 ^ width (n - f) := by
  have hwide : 0 < width (n - f) := by
    refine Nat.pos_of_ne_zero fun hzero => ?_
    rw [hzero] at hflat
    omega
  obtain ⟨q, hq⟩ := hn.dvd (Nat.le_trans (width_pow_le hwide) (Nat.sub_le n f))
  have hqpos : q ≠ 0 := by
    rintro rfl
    omega
  exact ⟨q - 1, by rw [Nat.sub_add_cancel (by omega), Nat.mul_comm]; exact hq⟩

lemma fit_sub_eq {p : ℕ} (hp : n = (p + 1) * 2 ^ width (n - f)) :
    fit (n - f) = (if 2 * f = 2 ^ width (n - f) then p + p % 2 else p + 1) *
      2 ^ width (n - f) := by
  have hround := halfEven_sub (p := p) hf hflat
  rw [← hp] at hround
  rw [fit, hround]

lemma fit_sub_le_of_flat (hn : Fits n) (hlt : f < n) : fit (n - f) ≤ n := by
  obtain ⟨p, hp⟩ := hn.steps hf hflat hlt
  rw [fit_sub_eq hf hflat hp]
  refine Nat.le_trans (Nat.mul_le_mul_right _ ?_) hp.ge
  split_ifs <;> omega

end Flat

lemma fit_sub_le (hn : Fits n) (hf : 0 < f) (hlt : f < n) : fit (n - f) ≤ n := by
  rcases Nat.lt_or_ge (2 ^ width (n - f)) (2 * f) with hsteep | hflat
  · exact (fit_sub_lt hlt hsteep).le
  · exact fit_sub_le_of_flat hf hflat hn hlt

lemma fits_fit (n : ℕ) : Fits (fit n) := by
  rcases Nat.lt_or_eq_of_le (halfEven_width_bounds n).1 with hlt | heq
  · exact ⟨_, _, hlt, rfl⟩
  · refine ⟨1, 24 + width n, by decide, ?_⟩
    rw [fit, heq, pow_add, Nat.one_mul]

/-- **The first result either gets smaller when taken from again, or stands still.** If a step of
the second result is twice what is taken or more, then the first one is an even number of them. -/
lemma fit_sub_fit (hn : Fits n) (hf : 0 < f) (hlt : f < n) (hlt' : f < fit (n - f))
    (hflat : 2 * f ≤ 2 ^ width (fit (n - f) - f)) : fit (fit (n - f) - f) = fit (n - f) := by
  set r := fit (n - f) with hr
  obtain ⟨p, hp⟩ := (fits_fit (n - f)).steps hf hflat hlt'
  rw [fit_sub_eq hf hflat hp]
  refine Eq.trans ?_ hp.symm
  congr 1
  split_ifs with hhalf
  · -- The result before was rounded in steps as long as these or longer.
    suffices hodd : p % 2 = 1 by omega
    have hle : width (r - f) ≤ width (n - f) :=
      width_mono (Nat.sub_le_sub_right (fit_sub_le hn hf hlt) f)
    rcases Nat.lt_or_eq_of_le hle with hlonger | hsame
    · obtain ⟨j, hj⟩ := Nat.exists_eq_add_of_lt hlonger
      set q := halfEven (n - f) (width (n - f))
      have heven : (p + 1) * 2 ^ width (r - f) = q * 2 ^ j * 2 * 2 ^ width (r - f) := by
        calc (p + 1) * 2 ^ width (r - f) = q * 2 ^ width (n - f) := hp.symm
          _ = q * 2 ^ j * 2 * 2 ^ width (r - f) := by
            rw [hj]
            ring
      have := Nat.eq_of_mul_eq_mul_right (Nat.two_pow_pos _) heven
      omega
    · rw [hsame] at hflat hhalf hp
      obtain ⟨p', hp'⟩ := hn.steps hf hflat hlt
      have hbefore := fit_sub_eq hf hflat hp'
      rw [if_pos hhalf, ← hr, hp] at hbefore
      have := Nat.eq_of_mul_eq_mul_right (Nat.two_pow_pos _) hbefore
      omega
  · rfl

/-- A number of no more than twenty-four bits in units of what is taken gets smaller. -/
lemma steep_of_le (hf : 0 < f) (hle : n ≤ 2 ^ 24 * f) : 2 ^ width (n - f) < 2 * f := by
  rcases Nat.eq_zero_or_pos (width (n - f)) with hzero | hwide
  · rw [hzero]
    omega
  · have hpow := width_pow_le hwide
    rw [pow_add] at hpow
    omega

/-- A number of more than twenty-five bits in units of what is taken stands still. -/
lemma fit_sub_of_ge (hn : Fits n) (hf : 0 < f) (hge : 2 ^ 25 * f ≤ n) : fit (n - f) = n := by
  have hlt : f < n := by omega
  have hbound := lt_width_pow (n - f)
  set w := width (n - f) with hw
  have hle : n ≤ 2 ^ w * 2 ^ 24 := by
    by_contra hbeyond
    -- Then the next number that twenty-four bits hold is too far for so short a difference.
    obtain ⟨q, hq⟩ := hn.dvd (k := w + 1) (by rw [pow_add, pow_add]; omega)
    rw [pow_add] at hbound
    rw [pow_succ] at hq
    have hfar : 2 ^ 23 < q := by
      by_contra hle
      have := Nat.mul_le_mul_left (2 ^ w * 2) (Nat.not_lt.mp hle)
      omega
    have := Nat.mul_le_mul_left (2 ^ w * 2) hfar
    omega
  have hflat : 2 * f ≤ 2 ^ w := by omega
  obtain ⟨p, hp⟩ := hn.steps hf hflat hlt
  rw [fit_sub_eq hf hflat hp]
  rw [← hw] at hp ⊢
  refine Eq.trans ?_ hp.symm
  congr 1
  split_ifs with hhalf
  · have hpos := Nat.two_pow_pos w
    rw [pow_add] at hbound
    have hlong : 2 ^ 24 * 2 ^ w ≤ (p + 1) * 2 ^ w := by omega
    have hshort : (p + 1) * 2 ^ w ≤ 2 ^ 24 * 2 ^ w := by omega
    have := Nat.le_of_mul_le_mul_right hlong hpos
    have := Nat.le_of_mul_le_mul_right hshort hpos
    omega
  · rfl

end Single

end Cutscene
