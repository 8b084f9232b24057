import Mathlib
import VisualNovel.Json.Numeral

namespace VisualNovel.Decimal

open Float.Model (Format UnpackedFloat totalExponent)
open Float.Model.UnpackedFloat

def Bounded (E : Int) : UnpackedFloat → Prop
  | .zero _ => True
  | .finite _ _ e _ => e ≤ E
  | _ => False

variable {E : Int}

theorem isFinite_of_bounded {f : UnpackedFloat} (h : Bounded E f) :
    f.isFinite = true := by
  cases f with
  | zero | finite => rfl
  | infinity | notANumber => cases h

section Pack

variable {spec : Format} {s : Sign}

theorem bounded_packComponents {e : BitVec spec.exponentBits}
    {m : BitVec spec.mantissaBitsWithoutImplicit} (ordinary : e.toNat + 1 < 2 ^ spec.exponentBits)
    (least : 1 - ((spec.exponentBias : Int) + spec.mantissaBitsWithoutImplicit) ≤ E)
    (greatest : (e.toNat : Int) - (spec.exponentBias + spec.mantissaBitsWithoutImplicit) ≤ E) :
    Bounded E (unpack spec (packComponents spec s e m)) := by
  have notTop : e ≠ -1#_ := by
    rintro rfl
    rw [BitVec.neg_one_eq_allOnes, BitVec.toNat_allOnes] at ordinary
    omega
  simp only [unpack, unpackExponent_packComponents, unpackMantissa_packComponents, if_neg notTop]
  split
  · next zero =>
    split
    · trivial
    · change _ ≤ _
      simp only [zero, BitVec.toNat_zero]
      omega
  · exact greatest

/-- A number is packed without overflow, and with no greater exponent unless it is too small. -/
theorem bounded_pack {f : UnpackedFloat} (h : Bounded E f)
    (least : 1 - ((spec.exponentBias : Int) + spec.mantissaBitsWithoutImplicit) ≤ E)
    (greatest : (E + spec.exponentBias + spec.mantissaBitsWithoutImplicit).toNat + 1
      < 2 ^ spec.exponentBits) : Bounded E (unpack spec (pack spec f)) := by
  have zero : (0#_ : BitVec spec.exponentBits).toNat = 0 := BitVec.toNat_zero
  cases f with
  | infinity | notANumber => cases h
  | zero => exact bounded_packComponents (e := 0#_) (by omega) least (by omega)
  | finite s m e pos =>
    have exponent : e ≤ E := h
    rw [pack]
    generalize biased : (e + spec.exponentBias + spec.mantissaBitsWithoutImplicit).toNat = n
    have small : n + 1 < 2 ^ spec.exponentBits := by omega
    have field : (BitVec.ofNat spec.exponentBits n).toNat = n := by
      rw [BitVec.toNat_ofNat, Nat.mod_eq_of_lt (by omega)]
    simp only [if_neg (Nat.not_le.2 small)]
    split
    · exact bounded_packComponents (by omega) least (by omega)
    · exact bounded_packComponents (by omega) least (by omega)

theorem isInf_pack {m : Nat} {e : Int} {pos : 0 < m}
    (h : 2 ^ spec.exponentBits
      ≤ (e + spec.exponentBias + spec.mantissaBitsWithoutImplicit).toNat + 1) :
    (unpack spec (pack spec (.finite s m e pos))).isInf = true := by
  have zero : (0 : BitVec spec.mantissaBitsWithoutImplicit) = 0#_ := rfl
  rw [pack]
  simp only [if_pos h, packedInfinity, unpack, unpackExponent_packComponents,
    unpackMantissa_packComponents, if_true, zero]
  rfl

end Pack

theorem log2_le_of_lt {m n : Nat} (h : m < 2 ^ (n + 1)) : m.log2 ≤ n := by
  by_cases zero : m = 0
  · simp [zero]
  · exact Nat.le_of_lt_succ ((Nat.log2_lt zero).2 h)

theorem bounds_of_unpack {b : BitVec Format.binary64.numBits} {s : Sign} {m : Nat} {e : Int}
    {pos : 0 < m} (h : unpack .binary64 b = .finite s m e pos) : m.log2 ≤ 52 ∧ e ≤ 971 := by
  have bias : Format.binary64.exponentBias = 1023 := by decide
  have field : (unpackExponent b).toNat < 2 ^ 11 := (unpackExponent b).isLt
  have fraction : (unpackMantissa b).toNat < 2 ^ 52 := (unpackMantissa b).isLt
  simp only [unpack, bias] at h
  split at h
  · split at h <;> cases h
  · next ordinary =>
    have ordinary : (unpackExponent b).toNat ≠ 2 ^ 11 - 1 := fun top =>
      ordinary (BitVec.eq_of_toNat_eq (by rw [top]; decide))
    split at h
    · next least =>
      have least : (unpackExponent b).toNat = 0 := congrArg BitVec.toNat least
      split at h
      · cases h
      · cases h
        exact ⟨log2_le_of_lt (by omega), by omega⟩
    · cases h
      exact ⟨log2_le_of_lt (1#1 ++ unpackMantissa b).isLt, by omega⟩

theorem mantissa_shiftRight (em : ExtendedMantissa) (n : Nat) :
    (em >>> n).mantissa = em.mantissa / 2 ^ n := by
  change (n.repeat ExtendedMantissa.shiftRightOne em).mantissa = _
  induction n with
  | zero => simp [Nat.repeat]
  | succ n ih =>
    rw [Nat.repeat, ExtendedMantissa.shiftRightOne, ih, Nat.div_div_eq_div_mul, Nat.pow_succ]

theorem roundedMantissa_le (em : ExtendedMantissa) : em.roundedMantissa ≤ em.mantissa + 1 := by
  obtain ⟨m, round, sticky⟩ := em
  cases round <;> cases sticky <;>
    simp [ExtendedMantissa.roundedMantissa, ExtendedMantissa.accuracy,
      Accuracy.roundToNearestEven]
  omega

theorem mantissa_ofMantissaAndAccuracy (m : Nat) (a : Accuracy) :
    (ExtendedMantissa.ofMantissaAndAccuracy m a).mantissa = m := by
  cases a with
  | exact => rfl
  | inexact o => cases o <;> rfl

/-- What is left of a number after a shift and rounding has one more binary digit at most. -/
theorem log2_shifted_le {m k n : Nat} (h : k ≤ m / 2 ^ n + 1) : k.log2 ≤ m.log2 - n + 1 := by
  refine log2_le_of_lt ?_
  have rest : m / 2 ^ n < 2 ^ (m.log2 - n + 1) := by
    rw [Nat.div_lt_iff_lt_mul (Nat.two_pow_pos n), ← Nat.pow_add]
    exact Nat.lt_of_lt_of_le Nat.lt_log2_self (Nat.pow_le_pow_right (by decide) (by omega))
  have double : 2 ^ (m.log2 - n + 1 + 1) = 2 ^ (m.log2 - n + 1) * 2 := Nat.pow_succ ..
  have pos : 0 < 2 ^ (m.log2 - n + 1) := Nat.two_pow_pos _
  omega

theorem targetExponent_eq (total : Int) :
    Format.binary64.targetExponent total = max (total - 53) (-1074) := by
  have least : Format.binary64.minExponent = -1074 := by decide
  rw [Format.targetExponent, least]
  rfl

theorem bounded_roundWithAccuracy {s : Sign} {m : Nat} {e : Int} {a : Accuracy}
    (least : -1074 ≤ E) (exponent : e ≤ E) (total : totalExponent m e ≤ E + 52) :
    Bounded E (roundWithAccuracy .binary64 s m e a) := by
  simp only [roundWithAccuracy]
  split
  · trivial
  · change _ ≤ _
    simp only [shiftToTargetExponent, shiftToExponent, targetExponent_eq]
    generalize shift : (max (totalExponent m e - 53) (-1074) - e).toNat = n
    generalize rounded : (ExtendedMantissa.ofMantissaAndAccuracy m a >>> n).roundedMantissa = k
    -- the second shift makes up for a digit that rounding has added
    have added := roundedMantissa_le (ExtendedMantissa.ofMantissaAndAccuracy m a >>> n)
    rw [mantissa_shiftRight, mantissa_ofMantissaAndAccuracy, rounded] at added
    have digits := log2_shifted_le added
    simp only [totalExponent] at total shift ⊢
    omega

theorem isFinite_roundWithAccuracy {s : Sign} {m : Nat} {e : Int} {a : Accuracy} :
    (roundWithAccuracy .binary64 s m e a).isFinite = true := by
  simp only [roundWithAccuracy]
  split <;> rfl

/-- A finite number with an exponent of at most `E`. -/
def Sized (E : Int) (x : Float) : Prop := Bounded E x.toModel.unpack

theorem Sized.isFinite {x : Float} (h : Sized E x) : x.isFinite = true := isFinite_of_bounded h

theorem sized_of_isFinite {x : Float} (h : x.isFinite = true) : Sized 971 x := by
  have h : x.toModel.unpack.isFinite = true := h
  rw [Sized]
  cases parts : x.toModel.unpack with
  | zero s => trivial
  | finite s m e pos => exact (bounds_of_unpack parts).2
  | infinity | notANumber => rw [parts] at h; cases h

theorem sized_pack {f : UnpackedFloat} (h : Bounded E f) (least : -1074 ≤ E)
    (greatest : E ≤ 971) : Sized E (.ofModel (Float.Model.pack f)) := by
  have bias : Format.binary64.exponentBias = 1023 := by decide
  refine @bounded_pack E .binary64 f h ?_ ?_
  · rw [bias]
    change (1 : Int) - (1023 + 52) ≤ E
    omega
  · rw [bias]
    change (E + 1023 + 52).toNat + 1 < 2 ^ 11
    omega

theorem log2_mul_le (m n : Nat) : (m * n).log2 ≤ m.log2 + n.log2 + 1 := by
  refine log2_le_of_lt ?_
  have bound := Nat.mul_lt_mul'' (Nat.lt_log2_self (n := m)) (Nat.lt_log2_self (n := n))
  rw [← Nat.pow_add] at bound
  exact Nat.lt_of_lt_of_le bound (Nat.pow_le_pow_right (by decide) (by omega))

theorem log2_div_le {m n : Nat} (pos : 0 < n) (k : Nat) :
    ((m <<< k) / n).log2 ≤ m.log2 + k - n.log2 := by
  refine log2_le_of_lt ?_
  rw [Nat.div_lt_iff_lt_mul pos, Nat.shiftLeft_eq]
  calc m * 2 ^ k
      < 2 ^ (m.log2 + 1) * 2 ^ k := Nat.mul_lt_mul_of_pos_right Nat.lt_log2_self (Nat.two_pow_pos k)
    _ = 2 ^ (m.log2 + 1 + k) := (Nat.pow_add ..).symm
    _ ≤ 2 ^ (m.log2 + k - n.log2 + 1 + n.log2) := Nat.pow_le_pow_right (by decide) (by omega)
    _ = 2 ^ (m.log2 + k - n.log2 + 1) * 2 ^ n.log2 := Nat.pow_add ..
    _ ≤ 2 ^ (m.log2 + k - n.log2 + 1) * n :=
      Nat.mul_le_mul_left _ (Nat.log2_self_le (Nat.ne_of_gt pos))

theorem isFinite_pack {f : UnpackedFloat} (h : f.isFinite = true)
    (fits : (Float.Model.pack f).isInf = false) :
    (Float.ofModel (Float.Model.pack f)).isFinite = true := by
  have bias : Format.binary64.exponentBias = 1023 := by decide
  cases f with
  | infinity | notANumber => cases h
  | zero s => exact (@sized_pack 0 (.zero s) trivial (by decide) (by decide)).isFinite
  | finite s m e pos =>
    by_cases small : e ≤ 971
    · exact (sized_pack (E := max e (-1074)) (Int.le_max_left ..) (by omega) (by omega)).isFinite
    · have infinite := @isInf_pack .binary64 s m e pos (by
        rw [bias]
        change 2 ^ 11 ≤ (e + 1023 + 52).toNat + 1
        omega)
      have fits : (unpack .binary64 (pack .binary64 (.finite s m e pos))).isInf = false := fits
      rw [fits] at infinite
      cases infinite

theorem mul_cases {F : Int} {x y : Float} (hx : Sized E x) (hy : Sized F y) :
    (∃ s, mul .binary64 x.toModel.unpack y.toModel.unpack = .zero s) ∨
      ∃ s m e pos s' n f pos', x.toModel.unpack = .finite s m e pos ∧ e ≤ E ∧
        y.toModel.unpack = .finite s' n f pos' ∧ f ≤ F := by
  rw [Sized] at hx hy
  cases left : x.toModel.unpack with
  | infinity | notANumber => rw [left] at hx; cases hx
  | zero =>
    cases right : y.toModel.unpack with
    | infinity | notANumber => rw [right] at hy; cases hy
    | zero | finite => exact .inl ⟨_, rfl⟩
  | finite s m e pos =>
    cases right : y.toModel.unpack with
    | infinity | notANumber => rw [right] at hy; cases hy
    | zero => exact .inl ⟨_, rfl⟩
    | finite s' n f pos' =>
      rw [left] at hx
      rw [right] at hy
      exact .inr ⟨s, m, e, pos, s', n, f, pos', rfl, hx, rfl, hy⟩

theorem isFinite_mul {x y : Float} (hx : x.isFinite = true) (hy : y.isFinite = true)
    (h : (x * y).isInf = false) : (x * y).isFinite = true := by
  refine isFinite_pack (f := mul .binary64 x.toModel.unpack y.toModel.unpack) ?_ h
  obtain ⟨s, zero⟩ | ⟨s, m, e, pos, s', n, f, pos', left, -, right, -⟩ :=
    mul_cases (sized_of_isFinite hx) (sized_of_isFinite hy)
  · rw [zero]
    rfl
  · rw [left, right]
    exact isFinite_roundWithAccuracy

theorem bounded_mul {s s' : Sign} {m n : Nat} {e f : Int} {pos : 0 < m} {pos' : 0 < n}
    (least : -1074 ≤ E) (exponent : e + f ≤ E) (total : m.log2 + n.log2 + 2 + e + f ≤ E + 52) :
    Bounded E (mul .binary64 (.finite s m e pos) (.finite s' n f pos')) := by
  have digits := log2_mul_le m n
  refine bounded_roundWithAccuracy least exponent ?_
  rw [totalExponent]
  omega

theorem sized_mul {F : Int} {x y : Float} (hx : Sized E x) (hy : Sized F y)
    (least : -1128 ≤ E + F) (greatest : E + F ≤ 917) : Sized (E + F + 54) (x * y) := by
  refine sized_pack (f := mul .binary64 x.toModel.unpack y.toModel.unpack) ?_ (by omega) (by omega)
  obtain ⟨s, zero⟩ | ⟨s, m, e, pos, s', n, f, pos', left, he, right, hf⟩ := mul_cases hx hy
  · rw [zero]
    trivial
  · have digits := (bounds_of_unpack left).1
    have digits' := (bounds_of_unpack right).1
    rw [left, right]
    exact bounded_mul (by omega) (by omega) (by omega)

/-- A number of at least two, taken apart. -/
def AtLeastTwo : UnpackedFloat → Prop
  | .finite _ m e _ => 2 ≤ totalExponent m e
  | _ => False

theorem isFinite_div {x y : Float} (hx : x.isFinite = true) (hy : AtLeastTwo y.toModel.unpack) :
    (x / y).isFinite = true := by
  have bounded : Bounded 971 (div .binary64 x.toModel.unpack y.toModel.unpack) := by
    have hx : x.toModel.unpack.isFinite = true := hx
    cases right : y.toModel.unpack with
    | infinity | notANumber | zero => rw [right] at hy; cases hy
    | finite s n f pos =>
      rw [right] at hy
      have two : 2 ≤ totalExponent n f := hy
      cases left : x.toModel.unpack with
      | infinity | notANumber => rw [left] at hx; cases hx
      | zero => trivial
      | finite s m e pos' =>
        have bounds := bounds_of_unpack left
        simp only [div, divCore, targetExponent_eq]
        generalize target : min (e - f) (max (totalExponent m e - totalExponent n f - 53) (-1074)) = t
        generalize shift : (e - f - t).toNat = k
        have digits := log2_div_le (m := m) pos k
        simp only [totalExponent] at two target
        refine bounded_roundWithAccuracy (by decide) (by omega) ?_
        simp only [totalExponent]
        omega
  exact (sized_pack bounded (by decide) (by decide)).isFinite

theorem isFinite_neg {x : Float} (h : x.isFinite = true) : (-x).isFinite = true := by
  have bounded : Bounded 971 (neg x.toModel.unpack) := by
    have sized := sized_of_isFinite h
    rw [Sized] at sized
    cases parts : x.toModel.unpack with
    | infinity | notANumber => rw [parts] at sized; cases sized
    | zero => trivial
    | finite => rw [parts] at sized; exact sized
  exact (sized_pack bounded (by decide) (by decide)).isFinite

instance (E : Int) : DecidablePred (Bounded E)
  | .zero _ => .isTrue trivial
  | .finite _ _ e _ => inferInstanceAs (Decidable (e ≤ E))
  | .infinity _ => .isFalse nofun
  | .notANumber => .isFalse nofun

theorem shiftLeft_lt {n : Nat} (h : n < twoTo 64) (k : Nat) : n <<< k < 2 ^ (63 + k + 1) := by
  rw [Nat.shiftLeft_eq, show 63 + k + 1 = 64 + k by omega, Nat.pow_add]
  exact Nat.mul_lt_mul_of_pos_right h (Nat.two_pow_pos k)

theorem bounded_ofNat {n : Nat} (h : n < twoTo 64) : Bounded 12 (ofNat .binary64 n) := by
  simp only [ofNat, ofInt, UnpackedFloat.normalize]
  split
  · next negative => exact absurd negative (by simp [Int.compare_eq_lt])
  · trivial
  · simp only [UnpackedFloat.round, decreaseExponent, Int.toNat_natCast]
    generalize shift : (0 - Format.binary64.targetExponent (totalExponent n 0)).toNat = k
    have digits := log2_le_of_lt (shiftLeft_lt h k)
    refine bounded_roundWithAccuracy (by decide) (by omega) ?_
    simp only [totalExponent]
    omega

theorem shiftLeft_pos {m : Nat} (pos : 0 < m) (k : Nat) : 0 < m <<< k := by
  rw [Nat.shiftLeft_eq]
  exact Nat.mul_pos pos (Nat.two_pow_pos k)

/-- Decimal digits with a power of ten that is not too great are a product, rounded once. -/
theorem ofScientific_eq_mul {m e : Nat} (pos : 0 < m) (small : e ≤ 2048) :
    ofScientific .binary64 m e = mul .binary64
      (.finite .positive (m <<< 53) (-53) (shiftLeft_pos pos 53))
      (.finite .positive (10 ^ e) 0 (Nat.pow_pos (by decide))) := by
  have range : (2 : Int) ^ Format.binary64.exponentBits = 2048 := by decide
  have places : Format.binary64.mantissaBits = 53 := by decide
  rw [ofScientific, dif_neg (Nat.ne_of_gt pos), if_neg (by omega), if_neg (by omega),
    if_pos (by omega)]
  simp only [places, Int.toNat_natCast]
  rfl

theorem isFinite_ofNat {n : Nat} (h : n < twoTo 64) : (Float.ofNat n).isFinite = true := by
  change (Float.ofScientific n false 0).isFinite = true
  unfold Float.ofScientific
  split
  · have one : Sized (-52) (Float.ofBits 0x3FF0000000000000) := by
      unfold Sized
      decide +kernel
    have whole : Sized 12 n.toUInt64.toFloat :=
      sized_pack (bounded_ofNat (UInt64.toNat_lt _)) (by decide) (by decide)
    exact (sized_mul whole one (by decide) (by decide)).isFinite
  · have bounded : Bounded 971 (ofScientific .binary64 n (0 : Nat)) := by
      by_cases zero : n = 0
      · subst zero
        trivial
      · rw [ofScientific_eq_mul (Nat.pos_of_ne_zero zero) (by decide)]
        have digits := log2_le_of_lt (shiftLeft_lt h 53)
        have one : (10 ^ 0).log2 = 0 := by decide
        refine bounded_mul ?_ ?_ ?_
        · decide
        · omega
        · omega
    exact (sized_pack bounded (by decide) (by decide)).isFinite

end VisualNovel.Decimal
