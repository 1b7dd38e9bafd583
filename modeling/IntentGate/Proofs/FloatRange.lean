import Mathlib

set_option autoImplicit false

namespace IntentGate

open Float.Model Float.Model.UnpackedFloat

inductive Reaches (top : Int) : UnpackedFloat → Prop where
  | zero (sign : Sign) : Reaches top (.zero sign)
  | finite (sign : Sign) (m : Nat) (e : Int) (positive : 0 < m) (small : m < 2 ^ 53) (fits : e ≤ top) :
      Reaches top (.finite sign m e positive)

theorem shifted_mantissa (em : ExtendedMantissa) (k : Nat) : (em >>> k).mantissa = em.mantissa / 2 ^ k := by
  induction k generalizing em with
  | zero => simp [HShiftRight.hShiftRight, Nat.repeat]
  | succ k ih =>
      change (em >>> k).mantissa / 2 = _
      rw [ih, Nat.div_div_eq_div_mul, Nat.pow_succ]

theorem rounded_mantissa_le (em : ExtendedMantissa) : em.roundedMantissa ≤ em.mantissa + 1 := by
  rcases em with ⟨m, roundBit, stickyBit⟩
  have odd : m % 2 ≤ 1 := Nat.le_of_lt_succ (Nat.mod_lt m (by decide))
  cases roundBit <;> cases stickyBit <;>
    simp [ExtendedMantissa.roundedMantissa, ExtendedMantissa.accuracy, Accuracy.roundToNearestEven]
  omega

theorem div_pow_bounded (m k : Nat) (enough : m.log2 + 1 ≤ 53 + k) : m / 2 ^ k < 2 ^ 53 := by
  have below : m < 2 ^ (m.log2 + 1) := Nat.lt_log2_self
  have wide : 2 ^ (m.log2 + 1) ≤ 2 ^ (53 + k) := Nat.pow_le_pow_right (by decide) enough
  rw [Nat.div_lt_iff_lt_mul (Nat.two_pow_pos k), ← Nat.pow_add]
  exact Nat.lt_of_lt_of_le below wide

theorem log2_below (n k : Nat) (below : n < 2 ^ (k + 1)) : n.log2 ≤ k := by
  by_cases zero : n = 0
  · simp [zero]
  · exact Nat.le_of_lt_succ ((Nat.log2_lt zero).mpr below)

theorem shift_bounds (m : Nat) (e top : Int) (accuracy : Accuracy) (fits : e ≤ top)
    (bits : m.log2 + 1 + e - 53 ≤ top) (low : -1074 ≤ top) :
    (shiftToTargetExponent Format.binary64 m e accuracy).1.mantissa < 2 ^ 53 ∧
      (shiftToTargetExponent Format.binary64 m e accuracy).2 ≤ top ∧
      -1074 ≤ (shiftToTargetExponent Format.binary64 m e accuracy).2 := by
  have initial : (ExtendedMantissa.ofMantissaAndAccuracy m accuracy).mantissa = m := by
    unfold ExtendedMantissa.ofMantissaAndAccuracy
    split <;> rfl
  have target : Format.binary64.targetExponent (totalExponent m e) = max (m.log2 + 1 + e - 53) (-1074) := rfl
  simp only [shiftToTargetExponent, shiftToExponent, target, shifted_mantissa, initial]
  refine ⟨div_pow_bounded m _ ?_, ?_, ?_⟩ <;> omega

theorem round_reaches (sign : Sign) (m : Nat) (e top : Int) (accuracy : Accuracy) (fits : e < top)
    (bits : m.log2 + 1 + e - 53 < top) (low : -1074 < top) :
    Reaches top (roundWithAccuracy Format.binary64 sign m e accuracy) := by
  obtain ⟨small, upper, lower⟩ := shift_bounds m e (top - 1) accuracy (by omega) (by omega) (by omega)
  unfold roundWithAccuracy
  generalize shiftToTargetExponent Format.binary64 m e accuracy = first at small upper lower ⊢
  obtain ⟨em, e₁⟩ := first
  dsimp only at small upper lower ⊢
  have rounded : em.roundedMantissa ≤ 2 ^ 53 := Nat.le_trans (rounded_mantissa_le em) small
  have wide : em.roundedMantissa.log2 ≤ 53 := log2_below em.roundedMantissa 53 (Nat.lt_of_le_of_lt rounded (by decide))
  obtain ⟨fitsNow, upperNow, -⟩ := shift_bounds em.roundedMantissa e₁ top .exact (by omega) (by omega) (by omega)
  generalize shiftToTargetExponent Format.binary64 em.roundedMantissa e₁ .exact = second at fitsNow upperNow ⊢
  split
  · exact .zero sign
  · exact .finite sign _ _ _ fitsNow upperNow

theorem unpack_reaches (b : BitVec Format.binary64.numBits) (top : Int) (low : -1074 ≤ top)
    (ordinary : unpackExponent b ≠ -1#11) (fits : (unpackExponent b).toNat - 1075 ≤ top) :
    Reaches top (UnpackedFloat.unpack Format.binary64 b) := by
  unfold UnpackedFloat.unpack
  dsimp only
  rw [if_neg ordinary]
  split
  · rename_i zero
    split
    · exact .zero _
    · refine .finite _ _ _ _ (Nat.lt_of_lt_of_le (unpackMantissa b).isLt (by decide)) ?_
      rw [zero]
      exact low
  · exact .finite _ _ _ _ (BitVec.isLt _) fits

theorem exponent_field (n : Nat) (fits : n + 1 < 2048) : (BitVec.ofNat 11 n).toNat = n := by
  rw [BitVec.toNat_ofNat]
  exact Nat.mod_eq_of_lt (by omega)

theorem packed_reaches (f : UnpackedFloat) (top : Int) (low : -1074 ≤ top) (high : top ≤ 971)
    (reaches : Reaches top f) : Reaches top (Float.Model.pack f).unpack := by
  change Reaches top (UnpackedFloat.unpack Format.binary64 (UnpackedFloat.pack Format.binary64 f))
  cases reaches with
  | zero sign =>
      apply unpack_reaches _ top low
      · simp only [UnpackedFloat.pack, packedZero, unpackExponent_packComponents]
        decide
      · simp only [UnpackedFloat.pack, packedZero, unpackExponent_packComponents]
        change (0 : Int) - 1075 ≤ top
        omega
  | finite sign m e positive small fits =>
      have bias : (Format.binary64.exponentBias : Int) = 1023 := rfl
      have inRange : (e + 1023 + 52).toNat + 1 < 2048 := by omega
      have field := exponent_field (e + 1023 + 52).toNat inRange
      -- The field is zero where the leading bit is missing, and is read as if it were one.
      have packed : ∃ exponent mantissa, UnpackedFloat.pack Format.binary64 (.finite sign m e positive) =
          packComponents Format.binary64 sign exponent mantissa ∧
            exponent.toNat ≤ (e + 1023 + 52).toNat := by
        unfold UnpackedFloat.pack
        dsimp only
        rw [bias, if_neg (by omega)]
        split
        · exact ⟨_, _, rfl, Nat.le_of_eq field⟩
        · exact ⟨_, _, rfl, Nat.zero_le _⟩
      obtain ⟨exponent, mantissa, same, bound⟩ := packed
      rw [same]
      apply unpack_reaches _ top low
      · rw [unpackExponent_packComponents]
        intro all
        have full : exponent.toNat = 2047 := congrArg BitVec.toNat all
        omega
      · rw [unpackExponent_packComponents]
        omega

theorem reaches_mono (f : UnpackedFloat) (top higher : Int) (le : top ≤ higher) (reaches : Reaches top f) :
    Reaches higher f := by
  cases reaches with
  | zero sign => exact .zero sign
  | finite sign m e positive small fits => exact .finite sign m e positive small (Int.le_trans fits le)

theorem reaches_finite (f : UnpackedFloat) (top : Int) (reaches : Reaches top f) : f.isFinite = true := by
  cases reaches <;> rfl

theorem log2_shift_left (m s : Nat) (positive : m ≠ 0) : (m <<< s).log2 = m.log2 + s := by
  have shifted : m <<< s ≠ 0 := by
    rw [Nat.shiftLeft_eq]
    exact Nat.mul_ne_zero positive (Nat.ne_of_gt (Nat.two_pow_pos s))
  rw [Nat.log2_eq_iff shifted, Nat.shiftLeft_eq]
  have low := Nat.log2_self_le positive
  have high : m < 2 ^ (m.log2 + 1) := Nat.lt_log2_self
  constructor
  · rw [Nat.pow_add]
    exact Nat.mul_le_mul_right _ low
  · rw [Nat.add_right_comm, Nat.pow_add]
    exact Nat.mul_lt_mul_of_pos_right high (Nat.two_pow_pos s)

theorem neg_reaches (f : UnpackedFloat) (top : Int) (reaches : Reaches top f) : Reaches top f.neg := by
  cases reaches with
  | zero sign => exact .zero _
  | finite sign m e positive small fits => exact .finite _ m e positive small fits

theorem finite_reaches (x : Float) (finite : x.isFinite = true) : Reaches 971 x.toModel.unpack := by
  let bits : BitVec Format.binary64.numBits := x.toModel.toBits.toBitVec
  have whole : (UnpackedFloat.unpack Format.binary64 bits).isFinite = true := finite
  have ordinary : unpackExponent bits ≠ -1#11 := by
    intro all
    unfold UnpackedFloat.unpack at whole
    dsimp only at whole
    rw [if_pos all] at whole
    split at whole <;> cases whole
  have width : (unpackExponent bits).toNat < 2 ^ 11 := BitVec.isLt _
  have notAll : (unpackExponent bits).toNat ≠ 2047 := by
    intro full
    exact ordinary (BitVec.eq_of_toNat_eq full)
  exact unpack_reaches bits 971 (by decide) ordinary (by omega)

-- Infinite, or so large that its leading bit has an exponent of at least three.
def isAmple : UnpackedFloat → Bool
  | .infinity _ => true
  | .finite _ m e _ => m.log2 = 52 && decide (-49 ≤ e)
  | _ => false

theorem div_pow_log2 (m k : Nat) (nonzero : m ≠ 0) (enough : k ≤ m.log2) : (m / 2 ^ k).log2 = m.log2 - k := by
  have low := Nat.log2_self_le nonzero
  have high : m < 2 ^ (m.log2 + 1) := Nat.lt_log2_self
  have whole : 2 ^ (m.log2 - k) ≤ m / 2 ^ k := by
    rw [Nat.le_div_iff_mul_le (Nat.two_pow_pos k), ← Nat.pow_add, Nat.sub_add_cancel enough]
    exact low
  rw [Nat.log2_eq_iff (Nat.ne_of_gt (Nat.lt_of_lt_of_le (Nat.two_pow_pos _) whole))]
  refine ⟨whole, ?_⟩
  rw [Nat.div_lt_iff_lt_mul (Nat.two_pow_pos k), ← Nat.pow_add]
  have bits : m.log2 - k + 1 + k = m.log2 + 1 := by omega
  rw [bits]
  exact high

theorem rounded_mantissa_ge (em : ExtendedMantissa) : em.mantissa ≤ em.roundedMantissa := by
  rcases em with ⟨m, roundBit, stickyBit⟩
  cases roundBit <;> cases stickyBit <;>
    simp [ExtendedMantissa.roundedMantissa, ExtendedMantissa.accuracy, Accuracy.roundToNearestEven]

-- A number with all its digits keeps its leading bit where it is when the others are dropped.
theorem shift_digits (m : Nat) (e : Int) (accuracy : Accuracy) (digits : 52 ≤ m.log2)
    (ample : -49 ≤ (m.log2 : Int) + e - 52) :
    (shiftToTargetExponent Format.binary64 m e accuracy).1.mantissa.log2 = 52 ∧
      (shiftToTargetExponent Format.binary64 m e accuracy).2 = m.log2 + e - 52 := by
  have initial : (ExtendedMantissa.ofMantissaAndAccuracy m accuracy).mantissa = m := by
    unfold ExtendedMantissa.ofMantissaAndAccuracy
    split <;> rfl
  have nonzero : m ≠ 0 := by
    rintro rfl
    exact absurd digits (by decide)
  have target : Format.binary64.targetExponent (totalExponent m e) = max (m.log2 + 1 + e - 53) (-1074) := rfl
  simp only [shiftToTargetExponent, shiftToExponent, target, shifted_mantissa, initial]
  refine ⟨?_, by omega⟩
  rw [div_pow_log2 m _ nonzero (by omega)]
  omega

theorem round_ample (sign : Sign) (m : Nat) (e : Int) (accuracy : Accuracy) (digits : 52 ≤ m.log2)
    (ample : -49 ≤ (m.log2 : Int) + e - 52) : isAmple (roundWithAccuracy Format.binary64 sign m e accuracy) = true := by
  obtain ⟨firstDigits, firstPlace⟩ := shift_digits m e accuracy digits ample
  unfold roundWithAccuracy
  generalize shiftToTargetExponent Format.binary64 m e accuracy = first at firstDigits firstPlace ⊢
  obtain ⟨em, e₁⟩ := first
  dsimp only at firstDigits firstPlace ⊢
  have nonzero : em.mantissa ≠ 0 := by
    intro zero
    rw [zero] at firstDigits
    exact absurd firstDigits (by decide)
  have up := rounded_mantissa_ge em
  have rounded : 52 ≤ em.roundedMantissa.log2 := by
    rw [Nat.le_log2 (by omega), ← firstDigits]
    exact Nat.le_trans (Nat.log2_self_le nonzero) up
  obtain ⟨lastDigits, lastPlace⟩ := shift_digits em.roundedMantissa e₁ .exact rounded (by omega)
  generalize shiftToTargetExponent Format.binary64 em.roundedMantissa e₁ .exact = second at lastDigits lastPlace ⊢
  obtain ⟨em₂, e₂⟩ := second
  dsimp only at lastDigits lastPlace ⊢
  split
  · rename_i zero
    rw [zero] at lastDigits
    exact absurd lastDigits (by decide)
  · simp only [isAmple, lastDigits, decide_true, Bool.true_and, decide_eq_true_eq]
    omega

theorem infinity_ample (sign : Sign) :
    isAmple (UnpackedFloat.unpack Format.binary64 (packedInfinity Format.binary64 sign)) = true := by
  simp only [UnpackedFloat.unpack, packedInfinity, unpackExponent_packComponents, unpackMantissa_packComponents]
  rfl

theorem full_mantissa_log2 (rest : BitVec 52) : (1#1 ++ rest).toNat.log2 = 52 := by
  have joined := Nat.two_pow_add_eq_or_of_lt rest.isLt 1
  have value : (1#1 ++ rest).toNat = 2 ^ 52 * 1 + rest.toNat := by
    rw [joined, BitVec.toNat_append, Nat.shiftLeft_eq, Nat.mul_comm]
    rfl
  have small : rest.toNat < 2 ^ 52 := rest.isLt
  rw [value, Nat.log2_eq_iff (by omega)]
  omega

theorem finite_ample (sign : Sign) (m : Nat) (e : Int) (positive : 0 < m) (digits : m.log2 = 52) (low : -49 ≤ e) :
    isAmple (.finite sign m e positive) = true := by
  rw [isAmple, digits, decide_eq_true low]
  rfl

theorem unpack_ample (b : BitVec Format.binary64.numBits) (low : 1026 ≤ (unpackExponent b).toNat)
    (high : (unpackExponent b).toNat < 2047) : isAmple (UnpackedFloat.unpack Format.binary64 b) = true := by
  have ordinary : unpackExponent b ≠ -1#11 := by
    intro all
    have full : (unpackExponent b).toNat = 2047 := congrArg BitVec.toNat all
    omega
  have normal : unpackExponent b ≠ 0#11 := by
    intro zero
    have none : (unpackExponent b).toNat = 0 := congrArg BitVec.toNat zero
    omega
  have digits := full_mantissa_log2 (unpackMantissa b)
  have place : (-49 : Int) ≤ ((unpackExponent b).toNat : Int) - (1023 + 52) := by omega
  unfold UnpackedFloat.unpack
  dsimp only
  rw [if_neg ordinary, if_neg normal]
  exact finite_ample _ _ _ _ digits place

theorem packed_ample (f : UnpackedFloat) (ample : isAmple f = true) :
    isAmple (Float.Model.pack f).unpack = true := by
  change isAmple (UnpackedFloat.unpack Format.binary64 (UnpackedFloat.pack Format.binary64 f)) = true
  cases f with
  | infinity sign => exact infinity_ample sign
  | notANumber | zero sign => cases ample
  | finite sign m e positive =>
      simp only [isAmple, Bool.and_eq_true, decide_eq_true_eq] at ample
      obtain ⟨digits, low⟩ := ample
      have bias : (Format.binary64.exponentBias : Int) = 1023 := rfl
      have full : m.log2 + 1 = Format.binary64.mantissaBits := by
        rw [digits]
        rfl
      unfold UnpackedFloat.pack
      dsimp only
      rw [bias, if_pos full]
      split
      · exact infinity_ample sign
      · rename_i inRange
        have fits : (e + 1023 + 52).toNat + 1 < 2048 := Nat.lt_of_not_le inRange
        have field := exponent_field (e + 1023 + 52).toNat fits
        apply unpack_ample
        · rw [unpackExponent_packComponents]
          exact Nat.le_trans (by omega) (Nat.le_of_eq field.symm)
        · rw [unpackExponent_packComponents]
          exact Nat.lt_of_le_of_lt (Nat.le_of_eq field) (by omega)

theorem div_log2_le (m n : Nat) (nonzero : n ≠ 0) : (m / n).log2 ≤ m.log2 - n.log2 := by
  have high : m < 2 ^ (m.log2 + 1) := Nat.lt_log2_self
  have low := Nat.log2_self_le nonzero
  by_cases larger : m.log2 < n.log2
  · have wide : 2 ^ (m.log2 + 1) ≤ 2 ^ n.log2 := Nat.pow_le_pow_right (by decide) larger
    have none : m / n = 0 := Nat.div_eq_of_lt (Nat.lt_of_lt_of_le (Nat.lt_of_lt_of_le high wide) low)
    rw [none, Nat.log2_zero]
    exact Nat.zero_le _
  · apply log2_below
    have bits : m.log2 - n.log2 + 1 + n.log2 = m.log2 + 1 := by omega
    have scaled : m / n * 2 ^ n.log2 ≤ m := Nat.le_trans (Nat.mul_le_mul_left _ low) (Nat.div_mul_le_self m n)
    rw [← bits, Nat.pow_add] at high
    exact Nat.lt_of_mul_lt_mul_right (Nat.lt_of_le_of_lt scaled high)

-- Dividing by an ample number takes three bits off at least, which makes up for the rounding.
theorem quotient_reaches (f g : UnpackedFloat) (reaches : Reaches 971 f) (ample : isAmple g = true) :
    Reaches 970 (UnpackedFloat.div Format.binary64 f g) := by
  cases g with
  | notANumber | zero sign => cases ample
  | infinity sign => cases reaches <;> exact .zero _
  | finite sign₂ m₂ e₂ positive₂ =>
      simp only [isAmple, Bool.and_eq_true, decide_eq_true_eq] at ample
      cases reaches with
      | zero sign => exact .zero _
      | finite sign₁ m₁ e₁ positive₁ small fits =>
          have width := log2_below m₁ 52 small
          have target (n : Int) : Format.binary64.targetExponent n = max (n - 53) (-1074) := rfl
          simp only [UnpackedFloat.div, divCore, target, totalExponent]
          generalize place : min (e₁ - e₂) (max (m₁.log2 + 1 + e₁ - (m₂.log2 + 1 + e₂) - 53) (-1074)) = e
          have bits := div_log2_le (m₁ <<< (e₁ - e₂ - e).toNat) m₂ (Nat.ne_of_gt positive₂)
          rw [log2_shift_left m₁ _ (Nat.ne_of_gt positive₁)] at bits
          apply round_reaches <;> omega

end IntentGate
