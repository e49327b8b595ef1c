import Cutscene.Scalar.Single
import Mathlib.Data.Nat.Log
import Mathlib.Tactic.Linarith
import Mathlib.Tactic.Ring
import Mathlib.Tactic.NormNum

/-!
# Whole Numbers in Single Precision

A whole number of at most twenty-four bits fits into the significand of a thirty-two-bit number. So
it is a number of the stage itself (`ofNat_eq`), and rounding gives it back (`round_ofInt`). A
number of full length is looked at from three sides: as an unpacked number, as its pattern of bits
(`packed`), and as the integer that is read out of the pattern (`decode_packed`).
-/

namespace Cutscene

namespace Single

open Float.Model Float.Model.UnpackedFloat

/-- A significand of twenty-four bits, with a power of two that the format holds. -/
structure Normal (m : ℕ) (e : ℤ) : Prop where
  log2 : m.log2 = 23
  lowest : -149 ≤ e
  highest : e ≤ 104

namespace Normal

variable {m : ℕ} {e : ℤ}

lemma pos (h : Normal m e) : 0 < m := by
  refine Nat.pos_of_ne_zero fun hzero => ?_
  have := h.log2
  rw [hzero] at this
  simp at this

lemma bounds (h : Normal m e) : 2 ^ 23 ≤ m ∧ m < 2 ^ 24 :=
  (Nat.log2_eq_iff h.pos.ne').mp h.log2

end Normal

/-- Zeros that are shifted out leave nothing to round. -/
lemma shiftRight_mul_pow (m j : ℕ) :
    (⟨m * 2 ^ j, false, false⟩ : ExtendedMantissa) >>> j = ⟨m, false, false⟩ := by
  change Nat.repeat ExtendedMantissa.shiftRightOne j _ = _
  induction j generalizing m with
  | zero => simp [Nat.repeat]
  | succ j ih =>
    rw [Nat.repeat, pow_succ', ← mul_assoc, ih]
    simp [ExtendedMantissa.shiftRightOne]

lemma log2_mul_pow {m : ℕ} (hm : 0 < m) (j : ℕ) : (m * 2 ^ j).log2 = m.log2 + j := by
  induction j with
  | zero => simp
  | succ j ih =>
    have hpos : m * 2 ^ j ≠ 0 := Nat.mul_ne_zero hm.ne' (Nat.two_pow_pos j).ne'
    rw [pow_succ, ← mul_assoc, Nat.log2_eq_log_two, Nat.log_mul_base Nat.one_lt_two hpos,
      ← Nat.log2_eq_log_two, ih, Nat.add_assoc]

lemma targetExponent_mul_pow {m : ℕ} {e : ℤ} (h : Normal m e) (j : ℕ) :
    Format.binary32.targetExponent (totalExponent (m * 2 ^ j) (e - j)) = e := by
  have hmin : Format.binary32.minExponent = -149 := by decide
  have hbits : Format.binary32.mantissaBits = 24 := rfl
  have := h.lowest
  rw [Format.targetExponent, totalExponent, hmin, hbits, log2_mul_pow h.pos, h.log2]
  push_cast
  omega

/-- A number that the format holds exactly is not changed when it is rounded. -/
lemma roundWithAccuracy_mul_pow {m : ℕ} {e : ℤ} (h : Normal m e) (s : Sign) (j : ℕ) :
    roundWithAccuracy Format.binary32 s (m * 2 ^ j) (e - j) .exact = .finite s m e h.pos := by
  have hshift : ∀ j : ℕ, shiftToTargetExponent Format.binary32 (m * 2 ^ j) (e - j) .exact =
      (⟨m, false, false⟩, e) := by
    intro j
    have hj : (e - (e - j)).toNat = j := by omega
    rw [shiftToTargetExponent, targetExponent_mul_pow h, shiftToExponent, hj,
      ExtendedMantissa.ofMantissaAndAccuracy]
    exact Prod.ext (shiftRight_mul_pow m j) (by dsimp only; omega)
  have hzero := hshift 0
  rw [pow_zero, mul_one, Nat.cast_zero, sub_zero] at hzero
  have hrounded : ExtendedMantissa.roundedMantissa ⟨m, false, false⟩ = m := rfl
  unfold roundWithAccuracy
  rw [hshift j]
  dsimp only
  rw [hrounded, hzero, dif_neg h.pos.ne']

/-- The pattern of a number with a significand of full length. -/
def packed (s : Sign) (m : ℕ) (e : ℤ) : BitVec 32 :=
  packComponents Format.binary32 s (BitVec.ofNat 8 (e + 150).toNat) (BitVec.ofNat 23 m)

lemma pack_finite {m : ℕ} {e : ℤ} (h : Normal m e) (s : Sign) :
    UnpackedFloat.pack Format.binary32 (.finite s m e h.pos) = packed s m e := by
  have hbiased : (e + Format.binary32.exponentBias + Format.binary32.mantissaBitsWithoutImplicit :
      ℤ) = e + 150 := by
    have : Format.binary32.exponentBias = 127 := by decide
    rw [this]
    push_cast
    omega
  have hlow := h.lowest
  have hhigh := h.highest
  unfold UnpackedFloat.pack
  dsimp only
  rw [hbiased, if_neg (by omega), if_pos (by rw [h.log2]; rfl)]
  rfl

lemma unpackSign_packComponents (s : Sign) (e : BitVec 8) (m : BitVec 23) :
    unpackSign (packComponents Format.binary32 s e m) = s.toBitVec := by
  change BitVec.cast _ (BitVec.extractLsb 31 31 (s.toBitVec ++ e ++ m)) = _
  rw [BitVec.extractLsb, BitVec.extractLsb'_append_eq_of_le (by omega),
    BitVec.extractLsb'_append_eq_of_le (by omega)]
  cases s <;> rfl

lemma unpack_packed {m : ℕ} {e : ℤ} (h : Normal m e) (s : Sign) :
    UnpackedFloat.unpack Format.binary32 (packed s m e) = .finite s m e h.pos := by
  have hlow := h.lowest
  have hhigh := h.highest
  obtain ⟨hlo, hhi⟩ := h.bounds
  have hmantissa : @unpackMantissa .binary32 (packed s m e) = BitVec.ofNat 23 m :=
    unpackMantissa_packComponents
  have hexponent : @unpackExponent .binary32 (packed s m e) = BitVec.ofNat 8 (e + 150).toNat :=
    unpackExponent_packComponents
  have hsign : @unpackSign .binary32 (packed s m e) = s.toBitVec := unpackSign_packComponents s _ _
  have hfits : (BitVec.ofNat 8 (e + 150).toNat).toNat = (e + 150).toNat := by
    rw [BitVec.toNat_ofNat, Nat.mod_eq_of_lt (by omega)]
  have hbiased : (@unpackExponent .binary32 (packed s m e)).toNat = (e + 150).toNat :=
    (congrArg BitVec.toNat hexponent).trans hfits
  have hnotOnes : @unpackExponent .binary32 (packed s m e) ≠ -1#8 := by
    intro heq
    rw [heq] at hbiased
    have hones : (-1#8).toNat = 255 := rfl
    omega
  have hnotZero : @unpackExponent .binary32 (packed s m e) ≠ 0#8 := by
    intro heq
    rw [heq] at hbiased
    have hzero : (0#8).toNat = 0 := rfl
    omega
  have hsignificand : (1#1 ++ @unpackMantissa .binary32 (packed s m e)).toNat = m := by
    rw [hmantissa, BitVec.toNat_append, BitVec.toNat_ofNat,
      ← Nat.shiftLeft_add_eq_or_of_lt (by omega)]
    simp [Nat.shiftLeft_eq]
    omega
  have hbias : Format.binary32.exponentBias = 127 := by decide
  unfold UnpackedFloat.unpack
  generalize packed s m e = v at *
  dsimp only
  rw [if_neg hnotOnes, if_neg hnotZero, UnpackedFloat.finite.injEq]
  refine ⟨?_, hsignificand, ?_⟩
  · rw [hsign]
    cases s <;> rfl
  · rw [hbiased, hbias]
    push_cast
    omega

lemma toNat_packed {m : ℕ} {e : ℤ} (h : Normal m e) (s : Sign) : (packed s m e).toNat =
    s.toBitVec.toNat * 2 ^ 31 + (e + 150).toNat * 2 ^ 23 + (m - 2 ^ 23) := by
  have hlow := h.lowest
  have hhigh := h.highest
  obtain ⟨hlo, hhi⟩ := h.bounds
  change (s.toBitVec ++ BitVec.ofNat 8 (e + 150).toNat ++ BitVec.ofNat 23 m).toNat = _
  rw [BitVec.toNat_append, BitVec.toNat_append, BitVec.toNat_ofNat, BitVec.toNat_ofNat,
    ← Nat.shiftLeft_add_eq_or_of_lt (by omega), ← Nat.shiftLeft_add_eq_or_of_lt (by omega),
    Nat.shiftLeft_eq, Nat.shiftLeft_eq]
  have := s.toBitVec.isLt
  omega

/-- The number with a sign, a significand of full length and a power of two. -/
def normal (s : Sign) (m : ℕ) (e : ℤ) (h : Normal m e) : Float32 :=
  ⟨.pack (.finite s m e h.pos)⟩

variable {m : ℕ} {e : ℤ} {s : Sign}

lemma pattern_normal (h : Normal m e) : pattern (normal s m e h) = (packed s m e).toNat :=
  congrArg BitVec.toNat (pack_finite h s)

lemma unpack_normal (h : Normal m e) : (normal s m e h).toModel.unpack = .finite s m e h.pos := by
  change UnpackedFloat.unpack Format.binary32 (UnpackedFloat.pack Format.binary32 _) = _
  rw [pack_finite h, unpack_packed h]

lemma neg_normal (h : Normal m e) : (normal s m e h).neg = normal (-s) m e h := by
  change Float32.ofModel (.pack (normal s m e h).toModel.unpack.neg) = _
  rw [unpack_normal h]
  rfl

lemma normal_one : Normal (2 ^ 23) (-23) := ⟨Nat.log2_two_pow, by omega, by omega⟩

lemma one_eq : Float32.ofBits 0x3f800000 = normal .positive (2 ^ 23) (-23) normal_one := by
  have hunpacked : UnpackedFloat.unpack Format.binary32 (0x3f800000 : UInt32).toBitVec =
      .finite .positive (2 ^ 23) (-23) normal_one.pos := rfl
  change Float32.ofModel (.pack (UnpackedFloat.unpack Format.binary32 _)) = _
  rw [hunpacked]
  rfl

/-- Multiplication of two numbers whose product the format holds exactly. -/
lemma mul_normal {m₁ m₂ j : ℕ} {e₁ e₂ : ℤ} (h : Normal m e) (h₁ : Normal m₁ e₁) (h₂ : Normal m₂ e₂)
    (hm : m₁ * m₂ = m * 2 ^ j) (he : e₁ + e₂ = e - j) :
    (normal .positive m₁ e₁ h₁).mul (normal .positive m₂ e₂ h₂) = normal .positive m e h := by
  change Float32.ofModel (.pack (UnpackedFloat.mul Format.binary32
    (normal _ m₁ e₁ h₁).toModel.unpack (normal _ m₂ e₂ h₂).toModel.unpack)) = _
  rw [unpack_normal, unpack_normal]
  change Float32.ofModel (.pack (roundWithAccuracy Format.binary32 (.positive * .positive) (m₁ * m₂)
    (e₁ + e₂) .exact)) = _
  rw [hm, he, roundWithAccuracy_mul_pow h]
  rfl

/-- A whole number of at most twenty-four bits, shifted to a significand of full length. -/
lemma normal_of_lt {n : ℕ} (hn : 0 < n) (hlt : n < 2 ^ 24) :
    Normal (n * 2 ^ (23 - n.log2)) (n.log2 - 23) := by
  have hlog : n.log2 < 24 := (Nat.log2_lt hn.ne').mpr hlt
  refine ⟨?_, by omega, by omega⟩
  rw [log2_mul_pow hn]
  omega

lemma toFloat32_eq {n : ℕ} (hn : 0 < n) (hlt : n < 2 ^ 24) :
    n.toUInt64.toFloat32 = normal .positive _ _ (normal_of_lt hn hlt) := by
  have hlog : n.log2 < 24 := (Nat.log2_lt hn.ne').mpr hlt
  have hword : n.toUInt64.toNat = n := by
    change n % 2 ^ 64 = n
    exact Nat.mod_eq_of_lt (by omega)
  have hcompare : compare (n : ℤ) 0 = .gt := compare_gt_iff_gt.mpr (by omega)
  have htarget : Format.binary32.targetExponent (totalExponent n 0) = n.log2 - 23 := by
    have hmin : Format.binary32.minExponent = -149 := by decide
    have hbits : Format.binary32.mantissaBits = 24 := rfl
    rw [Format.targetExponent, totalExponent, hmin, hbits]
    push_cast
    omega
  have hshift : decreaseExponent n 0 (n.log2 - 23) =
      (n * 2 ^ (23 - n.log2), (n.log2 : ℤ) - 23 - (0 : ℕ)) := by
    have hamount : (0 - ((n.log2 : ℤ) - 23)).toNat = 23 - n.log2 := by omega
    rw [decreaseExponent, hamount, Nat.shiftLeft_eq]
    exact Prod.ext rfl (by dsimp only; omega)
  have hrounded := roundWithAccuracy_mul_pow (normal_of_lt hn hlt) .positive 0
  rw [pow_zero, mul_one] at hrounded
  change Float32.ofModel
    (.pack (UnpackedFloat.normalize Format.binary32 (n.toUInt64.toNat : ℕ) 0 .positive)) = _
  rw [hword, UnpackedFloat.normalize, hcompare]
  dsimp only
  rw [UnpackedFloat.round, Int.toNat_natCast, htarget, hshift]
  dsimp only
  rw [hrounded]
  rfl

/-- A number is this whole number: its significand, shifted by its power of two. -/
def Means (m : ℕ) (e : ℤ) (n : ℕ) : Prop :=
  m = n * 2 ^ (-e).toNat ∧ e ≤ 0 ∨ n = m * 2 ^ e.toNat ∧ 0 ≤ e

lemma ofNat_eq {n : ℕ} (hn : 0 < n) (hle : n ≤ 2 ^ 24) :
    ∃ m e, ∃ h : Normal m e, Float32.ofNat n = normal .positive m e h ∧ Means m e n := by
  by_cases hsmall : n < 2 ^ 23
  · have hlt : n < 2 ^ 24 := by omega
    have hlog : n.log2 < 24 := (Nat.log2_lt hn.ne').mpr hlt
    refine ⟨_, _, normal_of_lt hn hlt, ?_, .inl ⟨?_, by omega⟩⟩
    · change Float32.ofScientific n false 0 = _
      unfold Float32.ofScientific
      rw [dif_pos ⟨hsmall, by omega⟩]
      change n.toUInt64.toFloat32.mul (Float32.ofBits 0x3f800000) = _
      rw [toFloat32_eq hn hlt, one_eq]
      refine mul_normal (j := 23) _ _ _ rfl ?_
      push_cast
      ring
    · congr 2
      omega
  · -- The number already has a significand of full length, or it is the next power of two.
    obtain ⟨m, e, h, hmeans, hproduct⟩ : ∃ m e, ∃ _ : Normal m e, Means m e n ∧
        ∃ j : ℕ, n * 2 ^ 24 = m * 2 ^ j ∧ -24 = e - j := by
      rcases hle.lt_or_eq with hlt | rfl
      · have hlog : n.log2 = 23 := (Nat.log2_eq_iff hn.ne').mpr ⟨by omega, hlt⟩
        exact ⟨n, 0, ⟨hlog, by omega, by omega⟩, .inl ⟨by simp, le_refl 0⟩, 24, rfl, rfl⟩
      · exact ⟨2 ^ 23, 1, ⟨Nat.log2_two_pow, by omega, by omega⟩, .inr ⟨by norm_num, by omega⟩,
          25, by norm_num, rfl⟩
    obtain ⟨j, hm, he⟩ := hproduct
    have hrounded := roundWithAccuracy_mul_pow h .positive j
    rw [← hm, ← he] at hrounded
    refine ⟨m, e, h, ?_, hmeans⟩
    change Float32.ofScientific n false 0 = _
    unfold Float32.ofScientific
    rw [dif_neg (by omega)]
    change Float32.ofModel (.pack (UnpackedFloat.ofScientific Format.binary32 n 0)) = _
    have hlowest : ¬ (0 : ℤ) < -(2 ^ Format.binary32.exponentBits + (n.log2 : ℤ)) := by
      have : (0 : ℤ) < 2 ^ Format.binary32.exponentBits := by positivity
      omega
    rw [UnpackedFloat.ofScientific, dif_neg hn.ne', if_neg (by decide), if_neg hlowest,
      if_pos le_rfl]
    change Float32.ofModel (.pack (roundWithAccuracy Format.binary32 (.positive * .positive)
      (n <<< 24 * 1) (-24) .exact)) = _
    rw [mul_one, Nat.shiftLeft_eq]
    exact congrArg (fun f => Float32.ofModel (.pack f)) hrounded

/-- The whole number that a significand and a power of two stand for is read back. -/
lemma whole_of_means {n : ℕ} (hmeans : Means m e n) : (if 0 ≤ e then m * Nat.pow 2 e.toNat
    else (2 * m + Nat.pow 2 (-e).toNat) / (2 * Nat.pow 2 (-e).toNat)) = n := by
  rcases hmeans with ⟨rfl, hle⟩ | ⟨rfl, hle⟩
  · have hpow : ∀ k, Nat.pow 2 k = 2 ^ k := fun _ => rfl
    split_ifs with hzero
    · obtain rfl : e = 0 := by omega
      simp
    · have hpos : 0 < 2 ^ (-e).toNat := Nat.two_pow_pos _
      rw [hpow]
      refine Nat.div_eq_of_lt_le ?_ ?_
      · calc n * (2 * 2 ^ (-e).toNat) = 2 * (n * 2 ^ (-e).toNat) := by ring
          _ ≤ _ := Nat.le_add_right _ _
      · calc 2 * (n * 2 ^ (-e).toNat) + 2 ^ (-e).toNat
            < 2 * (n * 2 ^ (-e).toNat) + 2 * 2 ^ (-e).toNat := by omega
          _ = (n + 1) * (2 * 2 ^ (-e).toNat) := by ring
  · rw [if_pos hle]
    rfl

lemma decode_packed (h : Normal m e) :
    BinaryFormat.single.decode ((e + 150).toNat * 2 ^ 23 + (m - 2 ^ 23)) = (m, e) := by
  have hlow := h.lowest
  obtain ⟨hlo, hhi⟩ := h.bounds
  set b := (e + 150).toNat with hb
  have hfraction : (b * 2 ^ 23 + (m - 2 ^ 23)) % 2 ^ 23 = m - 2 ^ 23 := by omega
  have hexponent : (b * 2 ^ 23 + (m - 2 ^ 23)) / 2 ^ 23 = b := by omega
  have hlowest : BinaryFormat.single.lowest = -149 := by decide
  have hfull : Nat.pow 2 BinaryFormat.single.fractionBits = 2 ^ 23 := rfl
  unfold BinaryFormat.decode
  dsimp only
  rw [hfull, hfraction, hexponent, hlowest, if_neg (by omega)]
  exact Prod.ext (by dsimp only; omega) (by dsimp only; omega)

/-- The whole number nearest to a number that is one. -/
lemma round_normal {n : ℕ} (h : Normal m e) (hmeans : Means m e n) (hle : n ≤ 2 ^ 24) (s : Sign) :
    Scalar.round (normal s m e h) = s.apply n := by
  have hlow := h.lowest
  have hhigh := h.highest
  obtain ⟨hlo, hhi⟩ := h.bounds
  set magnitude := (e + 150).toNat * 2 ^ 23 + (m - 2 ^ 23) with hmagnitude
  have hpattern : pattern (normal s m e h) = s.toBitVec.toNat * 2 ^ 31 + magnitude := by
    rw [pattern_normal, toNat_packed h, Nat.add_assoc]
  have hsignBit : BinaryFormat.single.signBit = 2 ^ 31 := by decide
  have hinfinity : BinaryFormat.single.infinity = 255 * 2 ^ 23 := by decide
  have hmod : pattern (normal s m e h) % 2 ^ 31 = magnitude := by omega
  change BinaryFormat.single.toInt (-0x80000000) 0x7fffffff (pattern (normal s m e h)) = _
  unfold BinaryFormat.toInt
  dsimp only
  rw [hsignBit, hmod, hinfinity, if_neg (by omega), if_neg (by omega), decode_packed h]
  dsimp only
  rw [whole_of_means hmeans, hpattern]
  cases s with
  | positive =>
    have hsign : (Sign.positive.toBitVec).toNat = 0 := rfl
    rw [hsign, if_neg (by omega)]
    change max _ (min _ _) = (n : ℤ)
    omega
  | negative =>
    have hsign : (Sign.negative.toBitVec).toNat = 1 := rfl
    rw [hsign, if_pos (by omega)]
    change max _ (min _ _) = -(n : ℤ)
    omega

/-- Whole numbers up to the first with twenty-five bits are kept. -/
theorem round_ofInt {n : ℤ} (hn : n.natAbs ≤ 2 ^ 24) :
    Scalar.round (Scalar.ofInt n : Float32) = n := by
  cases n with
  | ofNat n =>
    rcases n.eq_zero_or_pos with rfl | hpos
    · decide +kernel
    · obtain ⟨m, e, h, heq, hmeans⟩ := ofNat_eq hpos hn
      change Scalar.round (Float32.ofNat n) = _
      rw [heq, round_normal h hmeans hn]
      rfl
  | negSucc n =>
    obtain ⟨m, e, h, heq, hmeans⟩ := ofNat_eq n.succ_pos hn
    change Scalar.round (Float32.ofNat n.succ).neg = _
    rw [heq, neg_normal, round_normal h hmeans hn]
    rfl

end Single

end Cutscene
