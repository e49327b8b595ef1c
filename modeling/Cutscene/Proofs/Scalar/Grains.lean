import Cutscene.Proofs.Scalar.Rounding
import Cutscene.Proofs.Scalar.Whole

/-!
# Grains

Every number of the stage is a whole number of grains, where a grain is the smallest number above
zero. Positive finite numbers are compared by their grains (`Counts.le_iff`), and a difference has
the difference of the grains, rounded to twenty-four bits (`Counts.sub`). So what comes of repeated
subtraction can be told from natural numbers.
-/

namespace Cutscene

namespace Single

open Float.Model Float.Model.UnpackedFloat

/-- How many grains a significand with a power of two stands for. -/
def grains (m : ℕ) (e : ℤ) : ℕ := m * 2 ^ (e + 149).toNat

/-- A significand with a power of two as rounding leaves them: of full length unless the power is
the lowest. -/
structure Rounded (m : ℕ) (e : ℤ) : Prop where
  pos : 0 < m
  short : m < 2 ^ 24
  full : -149 < e → 2 ^ 23 ≤ m
  lowest : -149 ≤ e

/-- A significand with a power of two that the format holds. -/
structure Canonical (m : ℕ) (e : ℤ) : Prop extends Rounded m e where
  highest : e ≤ 104

variable {m m₁ m₂ : ℕ} {e e₁ e₂ : ℤ}

lemma Canonical.normal (h : Canonical m e) (hfull : 2 ^ 23 ≤ m) : Normal m e :=
  ⟨(Nat.log2_eq_iff h.pos.ne').mpr ⟨hfull, h.short⟩, h.lowest, h.highest⟩

/-! ### Rounding -/

/-- The bits that are shifted out are kept as far as they matter for the rounding. -/
lemma shiftRight_eq (n j : ℕ) : (⟨n, false, false⟩ : ExtendedMantissa) >>> j =
    ⟨n / 2 ^ j, decide (2 ^ j ≤ 2 * (n % 2 ^ j)),
      decide (2 * (n % 2 ^ j) ≠ 2 ^ j ∧ n % 2 ^ j ≠ 0)⟩ := by
  change Nat.repeat ExtendedMantissa.shiftRightOne j _ = _
  induction j with
  | zero => simp [Nat.repeat, Nat.mod_one]
  | succ j ih =>
    have hpos := Nat.two_pow_pos j
    have hrest := Nat.mod_lt n hpos
    have hbit := Nat.mod_two_eq_zero_or_one (n / 2 ^ j)
    rw [Nat.repeat, ih, ExtendedMantissa.shiftRightOne, pow_succ, Nat.mod_mul,
      Nat.div_div_eq_div_mul]
    dsimp only
    congr 1
    · rcases hbit with hbit | hbit <;> rw [hbit] <;> simp <;> omega
    · rw [← Bool.decide_or, decide_eq_decide]
      rcases hbit with hbit | hbit <;> rw [hbit] <;> omega

lemma roundedMantissa_shiftRight (n j : ℕ) :
    ((⟨n, false, false⟩ : ExtendedMantissa) >>> j).roundedMantissa = halfEven n j := by
  have hpos := Nat.two_pow_pos j
  rw [shiftRight_eq, halfEven]
  rcases lt_trichotomy (2 * (n % 2 ^ j)) (2 ^ j) with hlt | heq | hgt
  · rw [if_pos hlt, decide_eq_false (by omega)]
    by_cases hrest : n % 2 ^ j = 0
    · rw [decide_eq_false (by omega)]
      rfl
    · rw [decide_eq_true (by omega)]
      rfl
  · rw [if_neg (by omega), if_pos heq, decide_eq_true (by omega), decide_eq_false (by omega)]
    rfl
  · rw [if_neg (by omega), if_neg (by omega), decide_eq_true (by omega),
      decide_eq_true (by omega)]
    rfl

lemma width_mul_pow (hm : 0 < m) (j : ℕ) : width (m * 2 ^ j) = m.log2 + j - 23 := by
  rw [width, log2_mul_pow hm]

/-- The format keeps the first twenty-four bits, but nothing behind a grain. -/
lemma targetExponent_eq (hm : 0 < m) (j : ℕ) :
    Format.binary32.targetExponent (totalExponent m (j - 149)) = width (m * 2 ^ j) - 149 := by
  have hmin : Format.binary32.minExponent = -149 := by decide
  have hbits : Format.binary32.mantissaBits = 24 := rfl
  rw [Format.targetExponent, totalExponent, hmin, hbits, width_mul_pow hm]
  push_cast
  omega

lemma shiftToTargetExponent_eq (hm : 0 < m) {j : ℕ} (hj : j ≤ width (m * 2 ^ j)) :
    shiftToTargetExponent Format.binary32 m (j - 149) .exact =
      ((⟨m, false, false⟩ : ExtendedMantissa) >>> (width (m * 2 ^ j) - j),
        (width (m * 2 ^ j) : ℤ) - 149) := by
  rw [shiftToTargetExponent, targetExponent_eq hm, shiftToExponent,
    ExtendedMantissa.ofMantissaAndAccuracy]
  have hamount : ((width (m * 2 ^ j) : ℤ) - 149 - (j - 149)).toNat = width (m * 2 ^ j) - j := by
    omega
  rw [hamount]
  exact Prod.ext rfl (by dsimp only; omega)

/-- What comes after the last shift, which is needed if the significand has become too long. -/
lemma exists_shift {w : ℕ} (hm : 0 < m) (hle : m ≤ 2 ^ 24) (hfull : 0 < w → 2 ^ 23 ≤ m) :
    ∃ m' e', Rounded m' e' ∧ grains m' e' = m * 2 ^ w ∧
      shiftToTargetExponent Format.binary32 m (w - 149) .exact = (⟨m', false, false⟩, e') := by
  have hwidth := width_mul_pow hm w
  rcases hle.lt_or_eq with hlt | rfl
  · have hsame : width (m * 2 ^ w) = w := by
      have hlog : m.log2 < 24 := (Nat.log2_lt hm.ne').mpr hlt
      rcases Nat.eq_zero_or_pos w with rfl | hw
      · omega
      · have : m.log2 = 23 := (Nat.log2_eq_iff hm.ne').mpr ⟨hfull hw, hlt⟩
        omega
    refine ⟨m, w - 149, ⟨hm, hlt, fun hw => hfull (by omega), by omega⟩, ?_, ?_⟩
    · rw [grains, Int.sub_add_cancel, Int.toNat_natCast]
    · rw [shiftToTargetExponent_eq hm hsame.ge, hsame, Nat.sub_self]
      rfl
  · rw [Nat.log2_two_pow] at hwidth
    refine ⟨2 ^ 23, w + 1 - 149, ⟨by omega, by omega, fun _ => le_rfl, by omega⟩, ?_, ?_⟩
    · have hexponent : ((w : ℤ) + 1 - 149 + 149).toNat = w + 1 := by omega
      rw [grains, hexponent]
      ring
    · have hlonger : width (2 ^ 24 * 2 ^ w) = w + 1 := by omega
      rw [shiftToTargetExponent_eq (by decide) (by omega), hlonger, Nat.add_sub_cancel_left]
      exact Prod.ext (shiftRight_mul_pow (2 ^ 23) 1) (by push_cast; rfl)

/-- **A number is rounded to twenty-four bits of its grains.** -/
lemma exists_round (hm : 0 < m) (j : ℕ) (s : Sign) : ∃ m' e', ∃ h : Rounded m' e',
    UnpackedFloat.round Format.binary32 s m (j - 149) = .finite s m' e' h.pos ∧
      grains m' e' = fit (m * 2 ^ j) := by
  set w := width (m * 2 ^ j) with hw
  -- Before the rounding the significand is lengthened where it is short.
  have hsplit : m * 2 ^ (j - w) * 2 ^ min j w = m * 2 ^ j := by
    rw [mul_assoc, ← pow_add]
    congr 2
    omega
  have hlong : 0 < m * 2 ^ (j - w) := Nat.mul_pos hm (Nat.two_pow_pos _)
  have hdecrease : decreaseExponent m (j - 149) (w - 149) =
      (m * 2 ^ (j - w), ((min j w : ℕ) : ℤ) - 149) := by
    have hamount : ((j : ℤ) - 149 - (w - 149)).toNat = j - w := by omega
    rw [decreaseExponent, hamount, Nat.shiftLeft_eq]
    exact Prod.ext rfl (by dsimp only; omega)
  have hshift := shiftToTargetExponent_eq hlong (j := min j w) (by rw [hsplit, ← hw]; omega)
  rw [hsplit, ← hw] at hshift
  have hround : halfEven (m * 2 ^ (j - w)) (w - min j w) = halfEven (m * 2 ^ j) w := by
    have := halfEven_mul_pow (m * 2 ^ (j - w)) (w - min j w) (min j w)
    rw [hsplit, Nat.sub_add_cancel (Nat.min_le_right j w)] at this
    exact this.symm
  obtain ⟨hle, hfull⟩ := halfEven_width_bounds (m * 2 ^ j)
  have hpos : 0 < halfEven (m * 2 ^ j) w := by
    rcases Nat.eq_zero_or_pos w with hzero | hwide
    · have := Nat.mul_pos hm (Nat.two_pow_pos j)
      rw [hzero]
      simpa [halfEven, Nat.mod_one] using this
    · exact lt_of_lt_of_le (by decide) (hfull hwide)
  obtain ⟨m', e', h, hgrains, hlast⟩ := exists_shift hpos hle hfull
  refine ⟨m', e', h, ?_, hgrains⟩
  rw [UnpackedFloat.round, targetExponent_eq hm, ← hw, hdecrease]
  dsimp only
  unfold roundWithAccuracy
  rw [hshift]
  dsimp only
  rw [roundedMantissa_shiftRight, hround, hlast]
  dsimp only
  rw [dif_neg h.pos.ne']

/-! ### Order -/

lemma grains_lt_of_lt (h₁ : Rounded m₁ e₁) (h₂ : Rounded m₂ e₂) (he : e₁ < e₂) :
    grains m₁ e₁ < grains m₂ e₂ := by
  have hlow := h₁.lowest
  have hfull := h₂.full (by omega)
  calc m₁ * 2 ^ (e₁ + 149).toNat
      < 2 ^ 24 * 2 ^ (e₁ + 149).toNat := Nat.mul_lt_mul_of_pos_right h₁.short (Nat.two_pow_pos _)
    _ = 2 ^ 23 * 2 ^ ((e₁ + 149).toNat + 1) := by ring
    _ ≤ 2 ^ 23 * 2 ^ (e₂ + 149).toNat :=
      Nat.mul_le_mul_left _ (Nat.pow_le_pow_right (by decide) (by omega))
    _ ≤ m₂ * 2 ^ (e₂ + 149).toNat := Nat.mul_le_mul_right _ hfull

/-- Positive numbers are compared by their grains. -/
lemma compare_grains (h₁ : Rounded m₁ e₁) (h₂ : Rounded m₂ e₂) :
    (compare e₁ e₂).then (compare m₁ m₂) = compare (grains m₁ e₁) (grains m₂ e₂) := by
  rcases lt_trichotomy e₁ e₂ with hlt | rfl | hgt
  · rw [compare_lt_iff_lt.mpr hlt, compare_lt_iff_lt.mpr (grains_lt_of_lt h₁ h₂ hlt)]
    rfl
  · rw [compare_eq_iff_eq.mpr (rfl : e₁ = e₁)]
    have hpos := Nat.two_pow_pos (e₁ + 149).toNat
    change compare m₁ m₂ = _
    rcases lt_trichotomy m₁ m₂ with hlt | rfl | hgt
    · rw [compare_lt_iff_lt.mpr hlt, eq_comm, compare_lt_iff_lt]
      exact Nat.mul_lt_mul_of_pos_right hlt hpos
    · rw [compare_eq_iff_eq.mpr rfl, compare_eq_iff_eq.mpr rfl]
    · rw [compare_gt_iff_gt.mpr hgt, eq_comm, compare_gt_iff_gt]
      exact Nat.mul_lt_mul_of_pos_right hgt hpos
  · rw [compare_gt_iff_gt.mpr hgt, compare_gt_iff_gt.mpr (grains_lt_of_lt h₂ h₁ hgt)]
    rfl

lemma grains_inj (h₁ : Rounded m₁ e₁) (h₂ : Rounded m₂ e₂) (h : grains m₁ e₁ = grains m₂ e₂) :
    m₁ = m₂ ∧ e₁ = e₂ := by
  have hcompare := compare_grains h₁ h₂
  rw [compare_eq_iff_eq.mpr h, Ordering.then_eq_eq, compare_eq_iff_eq, compare_eq_iff_eq]
    at hcompare
  exact hcompare.symm

/-- What has no more grains than a number of the format is one. -/
lemma Rounded.canonical (h₁ : Rounded m₁ e₁) (h₂ : Canonical m₂ e₂)
    (hle : grains m₁ e₁ ≤ grains m₂ e₂) : Canonical m₁ e₁ := by
  refine ⟨h₁, le_trans ?_ h₂.highest⟩
  by_contra hbeyond
  exact absurd (grains_lt_of_lt h₂.toRounded h₁ (not_le.mp hbeyond)) (not_lt.mpr hle)

/-! ### Numbers of the stage -/

/-- What is read out of a pattern the format holds. -/
lemma canonical_of_unpack {v : BitVec Format.binary32.numBits} {s : Sign} {hm : 0 < m}
    (h : UnpackedFloat.unpack Format.binary32 v = .finite s m e hm) : Canonical m e := by
  have hbias : Format.binary32.exponentBias = 127 := by decide
  have hfraction := (unpackMantissa v).isLt
  have hexponent := (unpackExponent v).isLt
  have hjoined : (1#1 ++ unpackMantissa v).toNat = 2 ^ 23 + (unpackMantissa v).toNat := by
    rw [BitVec.toNat_append, ← Nat.shiftLeft_add_eq_or_of_lt hfraction]
    rfl
  change (unpackMantissa v).toNat < 2 ^ 23 at hfraction
  change (unpackExponent v).toNat < 2 ^ 8 at hexponent
  unfold UnpackedFloat.unpack at h
  dsimp only at h
  rw [hbias] at h
  by_cases hones : unpackExponent v = -1#8
  · rw [if_pos hones] at h
    by_cases hnone : unpackMantissa v = 0#23
    · rw [if_pos hnone] at h
      cases h
    · rw [if_neg hnone] at h
      cases h
  rw [if_neg hones] at h
  have hlast : (unpackExponent v).toNat ≠ 255 := fun heq => hones (BitVec.eq_of_toNat_eq heq)
  by_cases hzero : unpackExponent v = 0#8
  · rw [if_pos hzero] at h
    by_cases hnone : unpackMantissa v = 0#23
    · rw [dif_pos hnone] at h
      cases h
    · rw [dif_neg hnone, UnpackedFloat.finite.injEq] at h
      obtain ⟨-, rfl, rfl⟩ := h
      rw [hzero]
      exact ⟨⟨hm, by omega, fun hlow => absurd hlow (by decide), by decide⟩, by decide⟩
  · have hfirst : (unpackExponent v).toNat ≠ 0 := fun heq => hzero (BitVec.eq_of_toNat_eq heq)
    rw [if_neg hzero, UnpackedFloat.finite.injEq] at h
    obtain ⟨-, rfl, rfl⟩ := h
    rw [hjoined]
    push_cast
    exact ⟨⟨by omega, by omega, fun _ => by omega, by omega⟩, by omega⟩

/-- The positive number with a significand and a power of two. -/
def positive (m : ℕ) (e : ℤ) (h : Canonical m e) : Float32 :=
  ⟨.pack (.finite .positive m e h.pos)⟩

lemma unpack_positive (h : Canonical m e) :
    (positive m e h).toModel.unpack = .finite .positive m e h.pos := by
  by_cases hfull : 2 ^ 23 ≤ m
  · exact unpack_normal (h.normal hfull) (s := .positive)
  · -- The number is packed with the exponent zero, which stands for the lowest power.
    obtain rfl : e = -149 := by
      by_contra hne
      exact hfull (h.full (lt_of_le_of_ne h.lowest (Ne.symm hne)))
    have hlog : m.log2 < 23 := (Nat.log2_lt h.pos.ne').mpr (not_le.mp hfull)
    have hbits : Format.binary32.mantissaBits = 24 := rfl
    have hpack : UnpackedFloat.pack Format.binary32 (.finite .positive m (-149) h.pos) =
        packComponents Format.binary32 .positive 0#8 (BitVec.ofNat 23 m) := by
      unfold UnpackedFloat.pack
      dsimp only
      rw [if_neg (by decide), if_neg (by omega)]
    have hfraction : (BitVec.ofNat 23 m).toNat = m := by
      rw [BitVec.toNat_ofNat, Nat.mod_eq_of_lt (not_le.mp hfull)]
    have hsome : BitVec.ofNat 23 m ≠ 0#23 := by
      intro hnone
      have := h.pos
      rw [hnone] at hfraction
      change 0 = m at hfraction
      omega
    change UnpackedFloat.unpack Format.binary32 (UnpackedFloat.pack Format.binary32 _) = _
    rw [hpack]
    have hmantissa : @unpackMantissa .binary32
        (packComponents .binary32 .positive 0#8 (BitVec.ofNat 23 m)) = BitVec.ofNat 23 m :=
      unpackMantissa_packComponents
    have hexponent : @unpackExponent .binary32
        (packComponents .binary32 .positive 0#8 (BitVec.ofNat 23 m)) = 0#8 :=
      unpackExponent_packComponents
    have hsign := unpackSign_packComponents .positive 0#8 (BitVec.ofNat 23 m)
    unfold UnpackedFloat.unpack
    generalize packComponents Format.binary32 .positive 0#8 (BitVec.ofNat 23 m) = v at *
    dsimp only
    rw [if_neg (by rw [hexponent]; decide), if_pos hexponent, dif_neg (by rwa [hmantissa]),
      UnpackedFloat.finite.injEq]
    exact ⟨by rw [hsign]; rfl, by rw [hmantissa, hfraction], by rw [hexponent]; decide⟩

/-- A positive finite number, of that many grains. -/
def Counts (x : Float32) (n : ℕ) : Prop :=
  ∃ m e, ∃ h : Canonical m e, x.toModel.unpack = .finite .positive m e h.pos ∧ n = grains m e

variable {x f : Float32} {n k : ℕ}

lemma counts_positive (h : Canonical m e) : Counts (positive m e h) (grains m e) :=
  ⟨m, e, h, unpack_positive h, rfl⟩

lemma Counts.pos (hx : Counts x n) : 0 < n := by
  obtain ⟨m, e, h, -, rfl⟩ := hx
  exact Nat.mul_pos h.pos (Nat.two_pow_pos _)

lemma Counts.fits (hx : Counts x n) : Fits n := by
  obtain ⟨m, e, h, -, rfl⟩ := hx
  exact ⟨m, _, h.short, rfl⟩

lemma le_iff_compare (x y : Float32) :
    x ≤ y ↔ (x.toModel.unpack.compare y.toModel.unpack).any (·.isLE) = true := by
  change decide (_ = true) = true ↔ _
  exact decide_eq_true_iff

lemma Counts.le_iff (hf : Counts f k) (hx : Counts x n) : f ≤ x ↔ k ≤ n := by
  obtain ⟨m₁, e₁, h₁, hunpack₁, rfl⟩ := hf
  obtain ⟨m₂, e₂, h₂, hunpack₂, rfl⟩ := hx
  rw [le_iff_compare, hunpack₁, hunpack₂]
  change Ordering.isLE ((compare e₁ e₂).then (compare m₁ m₂)) = true ↔ _
  rw [compare_grains h₁.toRounded h₂.toRounded, Nat.isLE_compare]

/-- What is not at most zero is a number of grains, or infinite, or no number. -/
lemma counts_of_not_le_zero (h : ¬ f ≤ 0) : (∃ k, Counts f k) ∨
    f.toModel.unpack = .infinity .positive ∨ f.toModel.unpack = .notANumber := by
  have hzero : (0 : Float32).toModel.unpack = .zero .positive := rfl
  rw [le_iff_compare, hzero] at h
  cases hunpack : f.toModel.unpack with
  | notANumber => exact .inr (.inr rfl)
  | zero s => exact absurd (by rw [hunpack]; cases s <;> rfl) h
  | infinity s =>
    cases s with
    | positive => exact .inr (.inl rfl)
    | negative => exact absurd (by rw [hunpack]; rfl) h
  | finite s m e hm =>
    cases s with
    | positive => exact .inl ⟨_, m, e, canonical_of_unpack hunpack, hunpack, rfl⟩
    | negative => exact absurd (by rw [hunpack]; rfl) h

lemma Counts.counts_of_le (hf : Counts f k) (hle : f ≤ x) :
    (∃ n, Counts x n) ∨ x.toModel.unpack = .infinity .positive := by
  obtain ⟨m₁, e₁, h₁, hunpack₁, -⟩ := hf
  rw [le_iff_compare, hunpack₁] at hle
  cases hunpack : x.toModel.unpack with
  | notANumber => rw [hunpack] at hle; cases hle
  | zero s => rw [hunpack] at hle; cases hle
  | infinity s =>
    cases s with
    | positive => exact .inr rfl
    | negative => rw [hunpack] at hle; cases hle
  | finite s m e hm =>
    cases s with
    | positive => exact .inl ⟨_, m, e, canonical_of_unpack hunpack, hunpack, rfl⟩
    | negative => rw [hunpack] at hle; cases hle

/-! ### Differences -/

lemma sub_eq (x y : Float32) : x - y =
    ⟨.pack (UnpackedFloat.sub Format.binary32 x.toModel.unpack y.toModel.unpack)⟩ := rfl

/-- Significands are taken from each other before the smaller power of two. -/
lemma sub_finite (h₁ : 0 < m₁) (h₂ : 0 < m₂) :
    UnpackedFloat.sub Format.binary32 (.finite .positive m₁ e₁ h₁) (.finite .positive m₂ e₂ h₂) =
      UnpackedFloat.normalize Format.binary32 ((decreaseExponent m₁ e₁ (min e₁ e₂)).1 -
        (decreaseExponent m₂ e₂ (min e₁ e₂)).1 : ℤ) (min e₁ e₂) .positive := rfl

/-- Two significands before the smaller power of two that they have. -/
lemma exists_aligned (h₁ : Rounded m₁ e₁) (h₂ : Rounded m₂ e₂) : ∃ j n₁ n₂ : ℕ,
    min e₁ e₂ = j - 149 ∧ decreaseExponent m₁ e₁ (min e₁ e₂) = (n₁, (j : ℤ) - 149) ∧
      decreaseExponent m₂ e₂ (min e₁ e₂) = (n₂, (j : ℤ) - 149) ∧
      n₁ * 2 ^ j = grains m₁ e₁ ∧ n₂ * 2 ^ j = grains m₂ e₂ := by
  have hlow₁ := h₁.lowest
  have hlow₂ := h₂.lowest
  have haligned : ∀ {m : ℕ} {e : ℤ}, min e₁ e₂ ≤ e →
      decreaseExponent m e (min e₁ e₂) = (m * 2 ^ (e - min e₁ e₂).toNat, min e₁ e₂) ∧
        m * 2 ^ (e - min e₁ e₂).toNat * 2 ^ (min e₁ e₂ + 149).toNat = grains m e := by
    intro m e hle
    refine ⟨?_, ?_⟩
    · rw [decreaseExponent, Nat.shiftLeft_eq]
      exact Prod.ext rfl (by dsimp only; omega)
    · rw [grains, mul_assoc, ← pow_add]
      congr 2
      omega
  have hlow : ((min e₁ e₂ + 149).toNat : ℤ) - 149 = min e₁ e₂ := by omega
  refine ⟨(min e₁ e₂ + 149).toNat, _, _, hlow.symm, ?_, ?_, (haligned (min_le_left _ _)).2,
    (haligned (min_le_right _ _)).2⟩
  · rw [hlow]
    exact (haligned (min_le_left _ _)).1
  · rw [hlow]
    exact (haligned (min_le_right _ _)).1

/-- The difference with fewer grains, rounded. -/
lemma Counts.exists_sub (hx : Counts x n) (hf : Counts f k) (hlt : k < n) :
    ∃ m e, ∃ h : Canonical m e, x - f = positive m e h ∧ grains m e = fit (n - k) := by
  have hfits := hx.fits
  have hpos := hf.pos
  obtain ⟨m₁, e₁, h₁, hunpack₁, rfl⟩ := hx
  obtain ⟨m₂, e₂, h₂, hunpack₂, rfl⟩ := hf
  obtain ⟨j, n₁, n₂, hmin, haligned₁, haligned₂, hgrains₁, hgrains₂⟩ :=
    exists_aligned h₁.toRounded h₂.toRounded
  have hmore : n₂ < n₁ := by
    rw [← hgrains₁, ← hgrains₂] at hlt
    exact Nat.lt_of_mul_lt_mul_right hlt
  obtain ⟨m, e, h, hround, hgrains⟩ := exists_round (Nat.sub_pos_of_lt hmore) j .positive
  rw [Nat.sub_mul, hgrains₁, hgrains₂] at hgrains
  have hcanonical : Canonical m e :=
    h.canonical h₁ (hgrains.trans_le (fit_sub_le hfits hpos hlt))
  refine ⟨m, e, hcanonical, ?_, hgrains⟩
  have hcompare : compare ((n₁ : ℤ) - n₂) 0 = .gt := compare_gt_iff_gt.mpr (by omega)
  have hdifference : ((n₁ : ℤ) - n₂).toNat = n₁ - n₂ := by omega
  have hnormalize : UnpackedFloat.normalize Format.binary32 ((n₁ : ℤ) - n₂) (j - 149) .positive =
      .finite .positive m e h.pos := by
    rw [UnpackedFloat.normalize, hcompare, ← hround, hdifference]
  rw [sub_eq, hunpack₁, hunpack₂, sub_finite, haligned₁, haligned₂, hmin, hnormalize]
  rfl

/-- **A difference is rounded to twenty-four bits of its grains.** -/
lemma Counts.sub (hx : Counts x n) (hf : Counts f k) (hlt : k < n) :
    Counts (x - f) (fit (n - k)) := by
  obtain ⟨m, e, h, hsub, hgrains⟩ := hx.exists_sub hf hlt
  rw [hsub, ← hgrains]
  exact counts_positive h

/-- Differences of equally many grains are the same. -/
lemma Counts.sub_eq_sub {y : Float32} {l : ℕ} (hx : Counts x n) (hy : Counts y l)
    (hf : Counts f k) (hlt : k < n) (hlt' : k < l) (heq : fit (n - k) = fit (l - k)) :
    x - f = y - f := by
  obtain ⟨m₁, e₁, h₁, hsub₁, hgrains₁⟩ := hx.exists_sub hf hlt
  obtain ⟨m₂, e₂, h₂, hsub₂, hgrains₂⟩ := hy.exists_sub hf hlt'
  obtain ⟨rfl, rfl⟩ := grains_inj h₁.toRounded h₂.toRounded
    (hgrains₁.trans (heq.trans hgrains₂.symm))
  rw [hsub₁, hsub₂]

/-- Nothing is left of equally many grains. -/
lemma Counts.not_le_sub (hx : Counts x k) (hf : Counts f k) : ¬ f ≤ x - f := by
  obtain ⟨m₁, e₁, h₁, hunpack₁, rfl⟩ := hf
  obtain ⟨m₂, e₂, h₂, hunpack₂, heq⟩ := hx
  obtain ⟨rfl, rfl⟩ := grains_inj h₁.toRounded h₂.toRounded heq
  have hsub : x - f = ⟨.pack (.zero .positive)⟩ := by
    rw [sub_eq, hunpack₁, hunpack₂, sub_finite, Int.sub_self, UnpackedFloat.normalize,
      compare_eq_iff_eq.mpr (rfl : (0 : ℤ) = 0)]
  have hzero : (Float32.Model.pack (.zero .positive)).unpack = .zero .positive := rfl
  rw [le_iff_compare, hunpack₁, hsub, hzero]
  exact Bool.false_ne_true

/-- What is infinite stays so, however often a number is taken from it. -/
lemma Counts.infinity_sub (hf : Counts f k) (hx : x.toModel.unpack = .infinity .positive) :
    f ≤ x - f ∧ x - f - f = x - f := by
  obtain ⟨m, e, h, hunpack, -⟩ := hf
  have hsub : x - f = ⟨.pack (.infinity .positive)⟩ := by
    rw [sub_eq, hx, hunpack]
    rfl
  have hinfinite : (Float32.Model.pack (.infinity .positive)).unpack = .infinity .positive := rfl
  rw [hsub]
  refine ⟨?_, ?_⟩
  · rw [le_iff_compare, hunpack, hinfinite]
    rfl
  · rw [sub_eq, hinfinite, hunpack]
    rfl

lemma not_le_sub_of_infinity (hf : f.toModel.unpack = .infinity .positive) (hle : f ≤ x) :
    ¬ f ≤ x - f := by
  have hx : x.toModel.unpack = .infinity .positive := by
    rw [le_iff_compare, hf] at hle
    cases hunpack : x.toModel.unpack with
    | infinity s =>
      cases s with
      | positive => rfl
      | negative => rw [hunpack] at hle; cases hle
    | notANumber => rw [hunpack] at hle; cases hle
    | zero s => rw [hunpack] at hle; cases hle
    | finite s m e hm => rw [hunpack] at hle; cases s <;> cases hle
  have hsub : x - f = ⟨.pack .notANumber⟩ := by
    rw [sub_eq, hx, hf]
    rfl
  have hundefined : (Float32.Model.pack .notANumber).unpack = .notANumber := rfl
  rw [le_iff_compare, hf, hsub, hundefined]
  exact Bool.false_ne_true

lemma not_le_of_notANumber (hf : f.toModel.unpack = .notANumber) : ¬ f ≤ x := by
  rw [le_iff_compare, hf]
  exact Bool.false_ne_true

end Single

end Cutscene
