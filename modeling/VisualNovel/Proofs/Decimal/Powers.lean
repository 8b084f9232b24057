import VisualNovel.Proofs.Decimal.Range

namespace VisualNovel.Decimal

open Float.Model (Format totalExponent)
open Float.Model.UnpackedFloat
open Json.Numeral (powerOfTen)

theorem le_roundedMantissa (em : ExtendedMantissa) : em.mantissa ≤ em.roundedMantissa := by
  obtain ⟨m, round, sticky⟩ := em
  cases round <;> cases sticky <;>
    simp [ExtendedMantissa.roundedMantissa, ExtendedMantissa.accuracy,
      Accuracy.roundToNearestEven]

theorem log2_div_two_pow {m n : Nat} (pos : 0 < m) (h : n ≤ m.log2) :
    0 < m / 2 ^ n ∧ (m / 2 ^ n).log2 = m.log2 - n := by
  have power : 2 ^ (m.log2 - n) * 2 ^ n = 2 ^ m.log2 := by
    rw [← Nat.pow_add, Nat.sub_add_cancel h]
  have least : 2 ^ (m.log2 - n) ≤ m / 2 ^ n := by
    rw [Nat.le_div_iff_mul_le (Nat.two_pow_pos n), power]
    exact Nat.log2_self_le (Nat.ne_of_gt pos)
  have pos' : 0 < m / 2 ^ n := Nat.lt_of_lt_of_le (Nat.two_pow_pos _) least
  refine ⟨pos', (Nat.log2_eq_iff (Nat.ne_of_gt pos')).2 ⟨least, ?_⟩⟩
  rw [Nat.div_lt_iff_lt_mul (Nat.two_pow_pos n), Nat.pow_succ, Nat.mul_right_comm, power,
    ← Nat.pow_succ]
  exact Nat.lt_log2_self

/-- A number of 53 binary digits or more that is not too small is cut off after 53. -/
theorem shiftToTargetExponent_eq {m : Nat} {e : Int} {a : Accuracy} (digits : 52 ≤ m.log2)
    (ordinary : -1021 ≤ totalExponent m e) :
    shiftToTargetExponent .binary64 m e a =
      (ExtendedMantissa.ofMantissaAndAccuracy m a >>> (m.log2 - 52),
        e + ((m.log2 - 52 : Nat) : Int)) := by
  have places : (max (totalExponent m e - 53) (-1074) - e).toNat = m.log2 - 52 := by
    rw [totalExponent] at *
    omega
  simp only [shiftToTargetExponent, shiftToExponent, targetExponent_eq, places]

/-- Such a number is rounded to one of 53 digits; its first digit may move by one place. -/
theorem exists_roundWithAccuracy {s : Sign} {m : Nat} {e : Int} {a : Accuracy} (pos : 0 < m)
    (digits : 52 ≤ m.log2) (ordinary : -1021 ≤ totalExponent m e) :
    ∃ k f pos, roundWithAccuracy .binary64 s m e a = .finite s k f pos ∧ k.log2 = 52 ∧
      totalExponent m e - 53 ≤ f ∧ f ≤ totalExponent m e - 52 := by
  have cut := log2_div_two_pow (n := m.log2 - 52) pos (by omega)
  have least := le_roundedMantissa (ExtendedMantissa.ofMantissaAndAccuracy m a >>> (m.log2 - 52))
  have added := roundedMantissa_le (ExtendedMantissa.ofMantissaAndAccuracy m a >>> (m.log2 - 52))
  rw [roundWithAccuracy, shiftToTargetExponent_eq digits ordinary]
  dsimp only
  rw [mantissa_shiftRight, mantissa_ofMantissaAndAccuracy] at least added
  generalize (ExtendedMantissa.ofMantissaAndAccuracy m a >>> (m.log2 - 52)).roundedMantissa = k
    at least added ⊢
  have high := log2_shifted_le added
  have low : 52 ≤ k.log2 := by
    rw [Nat.le_log2 (by omega)]
    exact Nat.le_trans ((Nat.le_log2 (by omega)).1 (by omega)) least
  simp only [totalExponent] at ordinary ⊢
  have again := shiftToTargetExponent_eq (m := k) (e := e + ((m.log2 - 52 : Nat) : Int))
    (a := .exact) low (by rw [totalExponent]; omega)
  have final := log2_div_two_pow (m := k) (n := k.log2 - 52) (by omega) (by omega)
  rw [← mantissa_ofMantissaAndAccuracy k .exact, ← mantissa_shiftRight,
    mantissa_ofMantissaAndAccuracy k .exact] at final
  generalize ExtendedMantissa.ofMantissaAndAccuracy k .exact >>> (k.log2 - 52) = em at again final
  rw [again]
  exact ⟨em.mantissa, _, final.1, dif_neg (Nat.ne_of_gt final.1), by omega, by omega, by omega⟩

/-- A number with all its digits keeps them when it is packed, and its exponent. -/
theorem atLeastTwo_pack {s : Sign} {m : Nat} {e : Int} {pos : 0 < m} (digits : m.log2 = 52)
    (least : -51 ≤ e) (greatest : e ≤ 971) :
    AtLeastTwo (unpack .binary64 (pack .binary64 (.finite s m e pos))) := by
  have bias : Format.binary64.exponentBias = 1023 := by decide
  have size : m.log2 + 1 = Format.binary64.mantissaBits := by rw [digits]; decide
  rw [pack]
  generalize biased : (e + Format.binary64.exponentBias
    + Format.binary64.mantissaBitsWithoutImplicit).toNat = n
  have place : (n : Int) = e + 1075 := by
    rw [← biased, bias]
    change ((e + 1023 + 52).toNat : Int) = _
    omega
  have small : ¬2 ^ Format.binary64.exponentBits ≤ n + 1 := by
    change ¬2 ^ 11 ≤ n + 1
    omega
  have field : (BitVec.ofNat 11 n).toNat = n := by
    rw [BitVec.toNat_ofNat, Nat.mod_eq_of_lt (by omega)]
  simp only [if_neg small, if_pos size, unpack, unpackExponent_packComponents,
    unpackMantissa_packComponents]
  rw [if_neg, if_neg]
  · have leading : 2 ^ 52 ≤ (1#1 ++ BitVec.ofNat 52 m).toNat := by
      rw [BitVec.toNat_append]
      exact Nat.left_le_or
    have first := (Nat.le_log2 (by omega)).2 leading
    change 2 ≤ totalExponent (1#1 ++ BitVec.ofNat 52 m).toNat
      (((BitVec.ofNat 11 n).toNat : Int) - (Format.binary64.exponentBias + 52))
    rw [bias, field, totalExponent]
    omega
  · intro zero
    have zero : (BitVec.ofNat 11 n).toNat = 0 := congrArg BitVec.toNat zero
    omega
  · intro top
    have top : (BitVec.ofNat 11 n).toNat = 2047 := congrArg BitVec.toNat top
    omega

instance : DecidablePred AtLeastTwo
  | .finite _ m e _ => inferInstanceAs (Decidable (2 ≤ totalExponent m e))
  | .zero _ | .infinity _ | .notANumber => .isFalse nofun

theorem log2_two_pow_mul {n : Nat} (pos : 0 < n) (k : Nat) : (2 ^ k * n).log2 = n.log2 + k := by
  induction k with
  | zero => simp
  | succ k ih =>
    have pos' : 2 ^ k * n ≠ 0 := Nat.ne_of_gt (Nat.mul_pos (Nat.two_pow_pos k) pos)
    rw [Nat.pow_succ', Nat.mul_assoc, Nat.log2_two_mul pos', ih, Nat.add_assoc]

theorem log2_ten_pow : ∀ n < 307, 1 ≤ (10 ^ (n + 1)).log2 ∧ (10 ^ (n + 1)).log2 ≤ 1022 := by
  decide +kernel

theorem atLeastTwo_ofScientific {n : Nat} (h : n < 307) :
    AtLeastTwo (unpack .binary64 (pack .binary64 (ofScientific .binary64 1 (n + 1 : Nat)))) := by
  have ten := log2_ten_pow n h
  have pos : 0 < 1 <<< 53 * 10 ^ (n + 1) := Nat.mul_pos (by decide) (Nat.pow_pos (by decide))
  have digits : (1 <<< 53 * 10 ^ (n + 1)).log2 = (10 ^ (n + 1)).log2 + 53 :=
    log2_two_pow_mul (Nat.pow_pos (by decide)) 53
  obtain ⟨k, f, kpos, same, full, low, high⟩ :=
    exists_roundWithAccuracy (s := .positive * .positive) (e := -53 + 0) (a := .exact) pos
      (by omega) (by rw [totalExponent]; omega)
  simp only [totalExponent, digits] at low high
  rw [ofScientific_eq_mul (by decide) (by omega), mul, same]
  exact atLeastTwo_pack full (by omega) (by omega)

/-- The powers that are exact are read from a table. -/
theorem atLeastTwo_table : ∀ n < 22, AtLeastTwo (powerOfTen (n + 1)).toModel.unpack := by
  decide +kernel

/-- The last power may be rounded up to the end of the range, where its digits do not tell. -/
theorem atLeastTwo_powerOfTen {n : Nat} (h : n < 308) :
    AtLeastTwo (powerOfTen (n + 1)).toModel.unpack := by
  by_cases table : n < 22
  · exact atLeastTwo_table n table
  by_cases last : n = 307
  · subst last
    decide +kernel
  · rw [powerOfTen, Float.ofScientific, dif_neg (by omega)]
    exact atLeastTwo_ofScientific (by omega)

theorem isFinite_powerOfTen {n : Nat} (h : n ≤ 308) : (powerOfTen n).isFinite = true := by
  cases n with
  | zero => decide +kernel
  | succ n =>
    have two := atLeastTwo_powerOfTen (n := n) (by omega)
    change (powerOfTen (n + 1)).toModel.unpack.isFinite = true
    generalize (powerOfTen (n + 1)).toModel.unpack = f at two
    cases f with
    | finite => rfl
    | zero | infinity | notANumber => cases two

end VisualNovel.Decimal
