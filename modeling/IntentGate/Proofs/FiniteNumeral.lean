import IntentGate.Json.Numeral
import IntentGate.Proofs.FloatRange

set_option autoImplicit false

namespace IntentGate

open Float.Model Float.Model.UnpackedFloat

theorem of_nat_reaches (n : Nat) (word : n < 2 ^ 64) : Reaches 12 (UnpackedFloat.ofNat Format.binary64 n) := by
  have bits := log2_below n 63 word
  unfold UnpackedFloat.ofNat UnpackedFloat.ofInt UnpackedFloat.normalize
  split
  · rename_i negative
    rw [Int.compare_eq_lt] at negative
    omega
  · exact .zero .positive
  · rename_i positive
    rw [Int.compare_eq_gt] at positive
    have nonzero : n ≠ 0 := by omega
    simp only [UnpackedFloat.round, decreaseExponent, Int.toNat_natCast]
    apply round_reaches
    · omega
    · rw [log2_shift_left n _ nonzero]
      omega
    · decide

theorem of_scientific_reaches (n : Nat) (word : n < 2 ^ 64) :
    Reaches 12 (UnpackedFloat.ofScientific Format.binary64 n 0) := by
  have bits := log2_below n 63 word
  have width : (2 : Int) ^ Format.binary64.exponentBits = 2048 := rfl
  unfold UnpackedFloat.ofScientific
  rw [width]
  split
  · exact .zero .positive
  · rename_i nonzero
    rw [if_neg (by decide), if_neg (by omega), if_pos (by decide)]
    have digits : (Format.binary64.mantissaBits : Int) = 53 := rfl
    simp only [UnpackedFloat.mul]
    apply round_reaches
    · rw [digits]
      decide
    · rw [Int.toNat_zero, Nat.pow_zero, Nat.mul_one, log2_shift_left n _ nonzero, digits]
      omega
    · decide

theorem mul_one_reaches (f : UnpackedFloat) (reaches : Reaches 12 f) :
    Reaches 13 (UnpackedFloat.mul Format.binary64 f (.finite .positive (2 ^ 52) (-52) (by decide))) := by
  cases reaches with
  | zero sign => exact .zero _
  | finite sign m e positive small fits =>
      have width := log2_below m 52 small
      have shifted : m * 2 ^ 52 = m <<< 52 := (Nat.shiftLeft_eq m 52).symm
      simp only [UnpackedFloat.mul]
      apply round_reaches
      · omega
      · rw [shifted, log2_shift_left m 52 (Nat.ne_of_gt positive)]
        omega
      · decide

theorem unpack_one : (Float.ofBits 0x3FF0000000000000).toModel.unpack = .finite .positive (2 ^ 52) (-52) (by decide) := by
  rfl

theorem float_of_nat_reaches (n : Nat) (word : n < 2 ^ 64) : Reaches 13 (Float.ofNat n).toModel.unpack := by
  change Reaches 13 (Float.ofScientific n false 0).toModel.unpack
  unfold Float.ofScientific
  split
  · rename_i small
    have fits : n.toUInt64.toNat = n := by
      simp
      omega
    have left : Reaches 12 (Float.Model.pack (UnpackedFloat.ofNat Format.binary64 n.toUInt64.toNat)).unpack := by
      rw [fits]
      exact packed_reaches _ 12 (by decide) (by decide) (of_nat_reaches n word)
    have product := mul_one_reaches _ left
    rw [← unpack_one] at product
    exact packed_reaches _ 13 (by decide) (by decide) product
  · exact reaches_mono _ 12 13 (by decide)
      (packed_reaches _ 12 (by decide) (by decide) (of_scientific_reaches n word))

theorem float_of_int_finite (n : Int) (low : -2 ^ 63 ≤ n) (high : n < 2 ^ 64) : (Float.ofInt n).isFinite = true := by
  cases n with
  | ofNat n =>
      have word : n < 2 ^ 64 := Int.ofNat_lt.mp high
      exact reaches_finite _ 13 (float_of_nat_reaches n word)
  | negSucc n =>
      have magnitude := float_of_nat_reaches (n + 1) (by omega)
      exact reaches_finite _ 13 (packed_reaches _ 13 (by decide) (by decide) (neg_reaches _ 13 magnitude))

theorem small_power_ample : ∀ k : Fin 23, 0 < k.val → isAmple (Json.powerOfTen k).toModel.unpack = true := by
  decide +kernel

theorem power_of_ten_ample (k : Nat) (positive : 0 < k) (bounded : k ≤ 308) :
    isAmple (Json.powerOfTen k).toModel.unpack = true := by
  by_cases small : k < 23
  · exact small_power_ample ⟨k, small⟩ positive
  · change isAmple (Float.ofScientific 1 false k).toModel.unpack = true
    unfold Float.ofScientific
    rw [dif_neg (by omega)]
    apply packed_ample
    have width : (2 : Int) ^ Format.binary64.exponentBits = 2048 := rfl
    have eight : 2 ^ (3 * k) ≤ 10 ^ k := by
      rw [Nat.pow_mul]
      exact Nat.pow_le_pow_left (by decide) k
    have nonzero : 10 ^ k ≠ 0 := Nat.ne_of_gt (Nat.pow_pos (by decide))
    have bits : 3 * k ≤ (10 ^ k).log2 := (Nat.le_log2 nonzero).mpr eight
    have product : 1 <<< 53 * 10 ^ k = 10 ^ k <<< 53 := by
      rw [Nat.shiftLeft_eq, Nat.shiftLeft_eq, Nat.one_mul, Nat.mul_comm]
    have digits : (Format.binary64.mantissaBits : Int) = 53 := rfl
    unfold UnpackedFloat.ofScientific
    rw [width, dif_neg (by decide), if_neg (by simp; omega), if_neg (by simp; omega), if_pos (by simp)]
    simp only [UnpackedFloat.mul]
    apply round_ample
    · change 52 ≤ (1 <<< 53 * 10 ^ k).log2
      rw [product, log2_shift_left _ _ nonzero]
      omega
    · change -49 ≤ ((1 <<< 53 * 10 ^ k).log2 : Int) + (-53 + 0) - 52
      rw [product, log2_shift_left _ _ nonzero]
      omega

theorem quotient_finite (x : Float) (finite : x.isFinite = true) (k : Nat) (positive : 0 < k) (bounded : k ≤ 308) :
    (x / Json.powerOfTen k).isFinite = true :=
  reaches_finite _ 970 (packed_reaches _ 970 (by decide) (by decide)
    (quotient_reaches _ _ (finite_reaches x finite) (power_of_ten_ample k positive bounded)))

theorem scaled_finite (x y : Float) (e : Int) (finite : x.isFinite = true) (result : Json.scaled x e = some y) :
    y.isFinite = true := by
  induction x, e using Json.scaled.induct with
  | case1 x e below zero =>
      rw [Json.scaled, dif_pos below, if_pos zero] at result
      cases result
      exact finite
  | case2 x e below nonzero ih =>
      rw [Json.scaled, dif_pos below, if_neg nonzero] at result
      exact ih (quotient_finite x finite 308 (by decide) (by decide)) result
  | case3 x e notBelow above zero =>
      rw [Json.scaled, dif_neg notBelow, if_pos above, if_pos zero] at result
      cases result
      exact finite
  | case4 x e notBelow above nonzero =>
      rw [Json.scaled, dif_neg notBelow, if_pos above, if_neg nonzero] at result
      cases result
  | case5 x e notBelow notAbove nonneg | case6 x e notBelow notAbove nonneg =>
      rw [Json.scaled, dif_neg notBelow, if_neg notAbove, if_pos nonneg] at result
      obtain ⟨fits, same⟩ := Option.ite_none_right_eq_some.mp result
      cases same
      exact fits
  | case7 x e notBelow notAbove negative =>
      rw [Json.scaled, dif_neg notBelow, if_neg notAbove, if_neg negative] at result
      cases result
      exact quotient_finite x finite e.natAbs (by omega) (by omega)

theorem absorb_word (n taken : Nat) (digits : List Char) (word : n < 2 ^ 64) :
    (Json.absorb n taken digits).1 < 2 ^ 64 := by
  induction digits generalizing n taken with
  | nil => exact word
  | cons d rest ih =>
      rw [Json.absorb]
      split
      · rename_i fits
        exact ih _ _ fits
      · exact word

theorem neg_finite (x : Float) (finite : x.isFinite = true) : (-x).isFinite = true :=
  reaches_finite _ 971 (packed_reaches _ 971 (by decide) (by decide) (neg_reaches _ 971 (finite_reaches x finite)))

theorem numeral_float_finite (n : Json.Numeral) (x : Float) (result : n.float? = some x) : x.isFinite = true := by
  unfold Json.Numeral.float? at result
  dsimp only at result
  obtain ⟨y, scaled, rfl⟩ := Option.map_eq_some_iff.mp result
  have word := absorb_word _ 0 (n.fraction.getD []) (absorb_word 0 0 n.whole (by decide))
  have start : (Float.ofNat (Json.absorb (Json.absorb 0 0 n.whole).1 0 (n.fraction.getD [])).1).isFinite = true :=
    reaches_finite _ 13 (float_of_nat_reaches _ word)
  have finite := scaled_finite _ y _ start scaled
  split
  · exact neg_finite y finite
  · exact finite

end IntentGate
