import IntentGate.Proofs.FloatRange

set_option autoImplicit false

namespace IntentGate

open Float.Model Float.Model.UnpackedFloat

-- Where a value lies on the line: the infinities outside, zero in the middle, and between them the other numbers
-- by exponent and mantissa, the negative ones the other way round. NaN lies nowhere and is given any standing.
def standing : UnpackedFloat → ℤ ×ₗ ℤ ×ₗ ℤ
  | .infinity .positive => toLex (2, toLex (0, 0))
  | .finite .positive m e _ => toLex (1, toLex (e, m))
  | .zero _ | .notANumber => toLex (0, toLex (0, 0))
  | .finite .negative m e _ => toLex (-1, toLex (-e, -m))
  | .infinity .negative => toLex (-2, toLex (0, 0))

theorem compare_negated (e f : ℤ) : compare (-e) (-f) = compare f e := by
  simp only [compare, compareOfLessAndEq, neg_lt_neg_iff, neg_inj, eq_comm]

theorem compare_cast (m n : ℕ) : compare (m : ℤ) (n : ℤ) = compare m n := by
  simp only [compare, compareOfLessAndEq, Nat.cast_lt, Nat.cast_inj]

theorem compare_finite (s t : Sign) (m n : ℕ) (e f : ℤ) (p : 0 < m) (q : 0 < n) :
    (UnpackedFloat.finite s m e p).compare (.finite t n f q) =
      some (compare (standing (.finite s m e p)) (standing (.finite t n f q))) := by
  cases s with
  | positive =>
      cases t with
      | positive =>
          change some ((compare e f).then (compare m n)) = some ((compare e f).then (compare (m : ℤ) n))
          rw [compare_cast]
      | negative => rfl
  | negative =>
      cases t with
      | positive => rfl
      | negative =>
          change some ((compare e f).then (compare m n)).swap =
            some ((compare (-e) (-f)).then (compare (-m : ℤ) (-n)))
          rw [compare_negated, compare_negated, compare_cast, Ordering.swap_then, Int.compare_swap, Nat.compare_swap]

theorem compare_standing (x y : UnpackedFloat) (xNumber : x.isNaN = false) (yNumber : y.isNaN = false) :
    x.compare y = some (compare (standing x) (standing y)) := by
  cases x with
  | notANumber => cases xNumber
  | infinity s =>
      cases y with
      | notANumber => cases yNumber
      | infinity t | finite t => cases s <;> cases t <;> rfl
      | zero => cases s <;> rfl
  | zero s =>
      cases y with
      | notANumber => cases yNumber
      | infinity t | finite t => cases t <;> rfl
      | zero => rfl
  | finite s m e p =>
      cases y with
      | notANumber => cases yNumber
      | infinity t => cases s <;> cases t <;> rfl
      | zero => cases s <;> rfl
      | finite t n f q => exact compare_finite s t m n e f p q

theorem compare_nan (x y : UnpackedFloat) (nan : x.isNaN = true ∨ y.isNaN = true) : x.compare y = none := by
  rcases nan with left | right
  · cases x with
    | notANumber => rfl
    | infinity | zero | finite => cases left
  · cases y with
    | notANumber => cases x <;> rfl
    | infinity | zero | finite => cases right

theorem lt_iff_compare (x y : Float) : x < y ↔ x.toModel.unpack.compare y.toModel.unpack = some .lt := by
  change decide ((x.toModel.unpack.compare y.toModel.unpack == some .lt) = true) = true ↔ _
  rw [decide_eq_true_iff, beq_iff_eq]

theorem le_iff_compare (x y : Float) :
    x ≤ y ↔ ∃ o, x.toModel.unpack.compare y.toModel.unpack = some o ∧ o.isLE = true := by
  change decide ((x.toModel.unpack.compare y.toModel.unpack).any Ordering.isLE = true) = true ↔ _
  rw [decide_eq_true_iff]
  cases x.toModel.unpack.compare y.toModel.unpack <;> simp

theorem lt_iff_standing (x y : Float) :
    x < y ↔ x.isNaN = false ∧ y.isNaN = false ∧ standing x.toModel.unpack < standing y.toModel.unpack := by
  rw [lt_iff_compare]
  cases xNan : x.isNaN with
  | true => simp [compare_nan _ _ (.inl xNan)]
  | false =>
      cases yNan : y.isNaN with
      | true => simp [compare_nan _ _ (.inr yNan)]
      | false => simp [compare_standing _ _ xNan yNan, compare_lt_iff_lt]

theorem le_iff_standing (x y : Float) :
    x ≤ y ↔ x.isNaN = false ∧ y.isNaN = false ∧ standing x.toModel.unpack ≤ standing y.toModel.unpack := by
  rw [le_iff_compare]
  cases xNan : x.isNaN with
  | true => simp [compare_nan _ _ (.inl xNan)]
  | false =>
      cases yNan : y.isNaN with
      | true => simp [compare_nan _ _ (.inr yNan)]
      | false => simp [compare_standing _ _ xNan yNan, compare_le_iff_le, Ordering.isLE_iff_ne_gt]

theorem not_lt_self (x : Float) : ¬ x < x := by
  rw [lt_iff_standing]
  intro less
  exact lt_irrefl _ less.2.2

theorem not_lt_iff (x y : Float) (yNumber : y.isNaN = false) : ¬ x < y ↔ y ≤ x ∨ x.isNaN = true := by
  rw [lt_iff_standing, le_iff_standing]
  cases xNan : x.isNaN with
  | true => simp
  | false => simp only [yNumber, true_and, not_lt, Bool.false_eq_true, or_false]

theorem le_iff_number (x y : Float) (yNumber : y.isNaN = false) (notLess : ¬ x < y) : y ≤ x ↔ x.isNaN = false := by
  constructor
  · intro atMost
    exact ((le_iff_standing y x).mp atMost).2.1
  · intro number
    rcases (not_lt_iff x y yNumber).mp notLess with atMost | nan
    · exact atMost
    · rw [number] at nan
      cases nan

theorem lt_of_lt_le (x y z : Float) (less : x < y) (atMost : y ≤ z) : x < z := by
  rw [lt_iff_standing] at less ⊢
  rw [le_iff_standing] at atMost
  exact ⟨less.1, atMost.2.1, less.2.2.trans_le atMost.2.2⟩

theorem lt_of_le_lt (x y z : Float) (atMost : x ≤ y) (less : y < z) : x < z := by
  rw [lt_iff_standing] at less ⊢
  rw [le_iff_standing] at atMost
  exact ⟨atMost.1, less.2.1, atMost.2.2.trans_lt less.2.2⟩

theorem packed_exponent_ordinary (sign : Sign) (exponent : BitVec 11) (mantissa : BitVec 52)
    (ordinary : exponent ≠ -1#11) :
    (UnpackedFloat.unpack Format.binary64 (packComponents Format.binary64 sign exponent mantissa)).isNaN = false := by
  unfold UnpackedFloat.unpack
  dsimp only
  rw [unpackExponent_packComponents, if_neg ordinary]
  split
  · split <;> rfl
  · rfl

theorem packed_infinity_number (sign : Sign) :
    (UnpackedFloat.unpack Format.binary64 (packedInfinity Format.binary64 sign)).isNaN = false := by
  simp only [UnpackedFloat.unpack, packedInfinity, unpackExponent_packComponents, unpackMantissa_packComponents]
  rfl

theorem packed_number (f : UnpackedFloat) (number : f.isNaN = false) : (Float.Model.pack f).unpack.isNaN = false := by
  change (UnpackedFloat.unpack Format.binary64 (UnpackedFloat.pack Format.binary64 f)).isNaN = false
  cases f with
  | notANumber => cases number
  | infinity sign => exact packed_infinity_number sign
  | zero sign => exact packed_exponent_ordinary sign 0 0 (by decide)
  | finite sign m e positive =>
      unfold UnpackedFloat.pack
      dsimp only
      split
      · exact packed_infinity_number sign
      · rename_i inRange
        have fits : (e + 1023 + 52).toNat + 1 < 2048 := Nat.lt_of_not_le inRange
        have field := exponent_field (e + 1023 + 52).toNat fits
        split
        · refine packed_exponent_ordinary sign _ _ fun all => ?_
          have full : (BitVec.ofNat 11 (e + 1023 + 52).toNat).toNat = 2047 := congrArg BitVec.toNat all
          omega
        · exact packed_exponent_ordinary sign 0 _ (by decide)

theorem finite_number (f : UnpackedFloat) (finite : f.isFinite = true) : f.isNaN = false := by
  cases f with
  | notANumber => cases finite
  | infinity | zero | finite => rfl

theorem finite_not_infinite (f : UnpackedFloat) (finite : f.isFinite = true) : f.isInf = false := by
  cases f with
  | infinity => cases finite
  | notANumber | zero | finite => rfl

theorem rounded_number (sign : Sign) (m : Nat) (e : Int) (accuracy : Accuracy) :
    (roundWithAccuracy Format.binary64 sign m e accuracy).isNaN = false := by
  have reaches := round_reaches sign m e (max e (max (m.log2 + 1 + e - 53) (-1074)) + 1) accuracy (by omega) (by omega)
    (by omega)
  exact finite_number _ (reaches_finite _ _ reaches)

theorem normalized_number (m e : Int) (sign : Sign) :
    (UnpackedFloat.normalize Format.binary64 m e sign).isNaN = false := by
  unfold UnpackedFloat.normalize
  split
  · exact rounded_number _ _ _ _
  · rfl
  · exact rounded_number _ _ _ _

theorem difference_nan_iff (f g : UnpackedFloat) (fNumber : f.isNaN = false) (gNumber : g.isNaN = false) :
    (UnpackedFloat.sub Format.binary64 f g).isNaN = true ↔ ∃ s, f = .infinity s ∧ g = .infinity s := by
  cases f with
  | notANumber => cases fNumber
  | infinity s =>
      cases g with
      | notANumber => cases gNumber
      | infinity t => cases s <;> cases t <;> simp [UnpackedFloat.sub, UnpackedFloat.isNaN] <;> rfl
      | zero | finite => simp [UnpackedFloat.sub, UnpackedFloat.isNaN]
  | zero s =>
      cases g with
      | notANumber => cases gNumber
      | infinity | finite => simp [UnpackedFloat.sub, UnpackedFloat.isNaN]
      | zero t =>
          have zeros : (UnpackedFloat.sub Format.binary64 (.zero s) (.zero t)).isNaN = false := by
            simp only [UnpackedFloat.sub]
            split <;> rfl
          simp [zeros]
  | finite s m e p =>
      cases g with
      | notANumber => cases gNumber
      | infinity | zero => simp [UnpackedFloat.sub, UnpackedFloat.isNaN]
      | finite => simp [UnpackedFloat.sub, normalized_number]

theorem nan_packed (f : UnpackedFloat) : (Float.Model.pack f).unpack.isNaN = f.isNaN := by
  cases number : f.isNaN with
  | false => exact packed_number f number
  | true =>
      rw [UnpackedFloat.isNaN_iff.mp number]
      rfl

theorem eq_of_unpack (x y : Float) (same : x.toModel.unpack = y.toModel.unpack) : x = y := by
  have bits := (unpack_inj_of_valid x.toModel.valid y.toModel.valid).mp same
  rw [← Float.toBits_inj]
  exact UInt64.toBitVec_inj.mp bits

theorem sub_nan_iff (x y : Float) :
    (x - y).isNaN = true ↔ x.isNaN = true ∨ y.isNaN = true ∨ (x.isInf = true ∧ x = y) := by
  have packed : (x - y).isNaN = (UnpackedFloat.sub Format.binary64 x.toModel.unpack y.toModel.unpack).isNaN :=
    nan_packed _
  rw [packed]
  cases xNan : x.isNaN with
  | true =>
      have left : x.toModel.unpack = .notANumber := UnpackedFloat.isNaN_iff.mp xNan
      simp [left, UnpackedFloat.sub, UnpackedFloat.isNaN]
  | false =>
      cases yNan : y.isNaN with
      | true =>
          have right : y.toModel.unpack = .notANumber := UnpackedFloat.isNaN_iff.mp yNan
          rw [right]
          cases x.toModel.unpack <;> simp [UnpackedFloat.sub, UnpackedFloat.isNaN]
      | false =>
          rw [difference_nan_iff _ _ xNan yNan]
          simp only [Bool.false_eq_true, false_or]
          constructor
          · rintro ⟨s, left, right⟩
            refine ⟨?_, eq_of_unpack x y (left.trans right.symm)⟩
            change x.toModel.unpack.isInf = true
            rw [left]
            rfl
          · rintro ⟨infinite, rfl⟩
            change x.toModel.unpack.isInf = true at infinite
            cases unpacked : x.toModel.unpack with
            | infinity s => exact ⟨s, rfl, rfl⟩
            | notANumber | zero | finite =>
                rw [unpacked] at infinite
                cases infinite

end IntentGate
