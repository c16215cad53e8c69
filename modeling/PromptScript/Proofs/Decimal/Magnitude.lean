import Mathlib

/-!
# Magnitudes of binary64 numbers

The magnitude of a finite number is bounded by the place of its first binary digit.  Rounding moves
that place by one at most, and packing keeps it, so that a quotient of numbers of moderate size is
finite: it is never rounded to infinity.
-/

namespace PromptScript.Magnitude

open Float.Model (Format UnpackedFloat totalExponent)
open Float.Model.UnpackedFloat

/-- Whether the number is zero, or finite with its first binary digit at `limit` at most. -/
def Within (limit : Int) : UnpackedFloat → Prop
  | .zero _ => True
  | .finite _ mantissa exponent _ => mantissa.log2 + exponent ≤ limit
  | _ => False

instance (limit : Int) : (number : UnpackedFloat) → Decidable (Within limit number)
  | .zero _ => .isTrue trivial
  | .finite _ mantissa exponent _ => inferInstanceAs (Decidable (mantissa.log2 + exponent ≤ limit))
  | .infinity _ => .isFalse id
  | .notANumber => .isFalse id

/-- Whether the number is finite with its first binary digit at `limit` at least. -/
def Beyond (limit : Int) : UnpackedFloat → Prop
  | .finite _ mantissa exponent _ => limit ≤ mantissa.log2 + exponent
  | _ => False

instance (limit : Int) : (number : UnpackedFloat) → Decidable (Beyond limit number)
  | .finite _ mantissa exponent _ => inferInstanceAs (Decidable (limit ≤ mantissa.log2 + exponent))
  | .zero _ => .isFalse id
  | .infinity _ => .isFalse id
  | .notANumber => .isFalse id

theorem beyond_mono {first second : Int} {number : UnpackedFloat} (hnumber : Beyond second number)
    (hle : first ≤ second) : Beyond first number := by
  cases number with
  | infinity sign => exact hnumber.elim
  | notANumber => exact hnumber.elim
  | zero sign => exact hnumber.elim
  | finite sign mantissa exponent hmantissa => exact le_trans hle hnumber

section Rounding

variable {mantissa shift : Nat} {exponent limit : Int}

theorem mantissa_shiftRight (extended : ExtendedMantissa) (shift : Nat) :
    (extended >>> shift).mantissa = extended.mantissa / 2 ^ shift := by
  change (Nat.repeat ExtendedMantissa.shiftRightOne shift extended).mantissa = _
  induction shift with
  | zero => simp [Nat.repeat]
  | succ shift ih =>
      rw [Nat.repeat, ExtendedMantissa.shiftRightOne, ih, Nat.div_div_eq_div_mul, Nat.pow_succ]

theorem roundedMantissa_mem (extended : ExtendedMantissa) :
    extended.mantissa ≤ extended.roundedMantissa ∧
      extended.roundedMantissa ≤ extended.mantissa + 1 := by
  rcases extended with ⟨mantissa, _ | _, _ | _⟩ <;>
    simp only [ExtendedMantissa.roundedMantissa, ExtendedMantissa.accuracy,
      Accuracy.roundToNearestEven] <;> omega

/-- The shift that brings a number to its target exponent. -/
def targetShift (mantissa : Nat) (exponent : Int) : Nat :=
  (Format.binary64.targetExponent (totalExponent mantissa exponent) - exponent).toNat

theorem shiftToTargetExponent_eq (mantissa : Nat) (exponent : Int) (accuracy : Accuracy) :
    (shiftToTargetExponent Format.binary64 mantissa exponent accuracy).1.mantissa =
        mantissa / 2 ^ targetShift mantissa exponent ∧
      (shiftToTargetExponent Format.binary64 mantissa exponent accuracy).2 =
        exponent + targetShift mantissa exponent := by
  refine ⟨?_, rfl⟩
  have hmantissa : (ExtendedMantissa.ofMantissaAndAccuracy mantissa accuracy).mantissa =
      mantissa := by
    rcases accuracy with _ | (_ | _ | _) <;> rfl
  simp only [shiftToTargetExponent, shiftToExponent, mantissa_shiftRight, hmantissa, targetShift]

theorem exponent_add_targetShift (mantissa : Nat) (exponent : Int) :
    exponent + targetShift mantissa exponent ≤ max (mantissa.log2 + exponent) (-1074) := by
  simp only [targetShift, Format.targetExponent, totalExponent, Format.mantissaBits,
    Format.minExponent]
  omega

theorem log2_div_add (hquotient : mantissa / 2 ^ shift ≠ 0) :
    (mantissa / 2 ^ shift).log2 + shift ≤ mantissa.log2 := by
  have hmantissa : mantissa ≠ 0 := by
    rintro rfl
    simp at hquotient
  rw [Nat.le_log2 hmantissa, Nat.pow_add]
  exact (Nat.mul_le_mul_right _ (Nat.log2_self_le hquotient)).trans (Nat.div_mul_le_self _ _)

/-- Rounding up moves the first binary digit by one at most. -/
theorem log2_le_of_le_succ {rounded : Nat} (hrounded : rounded ≤ mantissa / 2 ^ shift + 1) :
    rounded.log2 ≤ mantissa.log2 + 1 - shift := by
  by_cases hzero : rounded = 0
  · rw [hzero, Nat.log2_zero]
    exact Nat.zero_le _
  · have hless : mantissa / 2 ^ shift < 2 ^ (mantissa.log2 + 1 - shift) := by
      rw [Nat.div_lt_iff_lt_mul (Nat.two_pow_pos shift), ← Nat.pow_add]
      have hself := Nat.lt_log2_self (n := mantissa)
      exact hself.trans_le (Nat.pow_le_pow_right (by decide) (by omega))
    have hpositive := Nat.two_pow_pos (mantissa.log2 + 1 - shift)
    rw [← Nat.lt_succ_iff, Nat.log2_lt hzero, Nat.pow_succ]
    omega

theorem within_roundWithAccuracy (sign : Sign) (accuracy : Accuracy)
    (hplace : mantissa.log2 + exponent + 1 ≤ limit) (hlimit : -1073 ≤ limit) :
    Within limit (roundWithAccuracy Format.binary64 sign mantissa exponent accuracy) := by
  obtain ⟨hfirst, hbetween⟩ := shiftToTargetExponent_eq mantissa exponent accuracy
  rcases hshifted : shiftToTargetExponent Format.binary64 mantissa exponent accuracy with
    ⟨first, between⟩
  rw [hshifted] at hfirst hbetween
  simp only at hfirst hbetween
  have hrounded := (roundedMantissa_mem first).2
  rw [hfirst] at hrounded
  have hlog := log2_le_of_le_succ hrounded
  have hsum := exponent_add_targetShift mantissa exponent
  obtain ⟨hsecond, hlast⟩ := shiftToTargetExponent_eq first.roundedMantissa between .exact
  rcases hagain : shiftToTargetExponent Format.binary64 first.roundedMantissa between .exact with
    ⟨second, last⟩
  rw [hagain] at hsecond hlast
  simp only at hsecond hlast
  simp only [roundWithAccuracy, hshifted, hagain]
  split
  next => trivial
  next hfinal =>
    rw [hsecond] at hfinal
    have hquotient := log2_div_add hfinal
    simp only [Within, hsecond]
    omega

theorem targetShift_normal (hdigits : 52 ≤ mantissa.log2)
    (hplace : -1022 ≤ mantissa.log2 + exponent) :
    targetShift mantissa exponent = mantissa.log2 - 52 := by
  simp only [targetShift, Format.targetExponent, totalExponent, Format.mantissaBits,
    Format.minExponent]
  omega

theorem log2_div_two_pow (hmantissa : mantissa ≠ 0) (hshift : shift ≤ mantissa.log2) :
    (mantissa / 2 ^ shift).log2 = mantissa.log2 - shift := by
  have hlow : 2 ^ (mantissa.log2 - shift) ≤ mantissa / 2 ^ shift := by
    rw [Nat.le_div_iff_mul_le (Nat.two_pow_pos shift), ← Nat.pow_add, Nat.sub_add_cancel hshift]
    exact Nat.log2_self_le hmantissa
  have hne : mantissa / 2 ^ shift ≠ 0 :=
    (Nat.lt_of_lt_of_le (Nat.two_pow_pos _) hlow).ne'
  have hup := log2_div_add hne
  have hdown := (Nat.le_log2 hne).mpr hlow
  omega

/-- A mantissa with digits enough is rounded to one of 53 digits, and its first digit moves by one
at most. -/
theorem roundWithAccuracy_normal (mantissa : Nat) (exponent : Int) (sign : Sign)
    (accuracy : Accuracy)
    (hdigits : 52 ≤ mantissa.log2) (hplace : -1022 ≤ mantissa.log2 + exponent) :
    ∃ final last, ∃ hfinal : 0 < final,
      roundWithAccuracy Format.binary64 sign mantissa exponent accuracy =
        .finite sign final last hfinal ∧ final.log2 = 52 ∧
      mantissa.log2 + exponent ≤ 52 + last ∧ 52 + last ≤ mantissa.log2 + exponent + 1 := by
  have hmantissa : mantissa ≠ 0 := by
    rintro rfl
    simp at hdigits
  obtain ⟨hfirst, hbetween⟩ := shiftToTargetExponent_eq mantissa exponent accuracy
  rcases hshifted : shiftToTargetExponent Format.binary64 mantissa exponent accuracy with
    ⟨first, between⟩
  rw [hshifted, targetShift_normal hdigits hplace] at hfirst hbetween
  simp only at hfirst hbetween
  have hlog : first.mantissa.log2 = 52 := by
    rw [hfirst, log2_div_two_pow hmantissa (by omega)]
    omega
  have hfirstne : first.mantissa ≠ 0 := by
    intro hzero
    simp [hzero] at hlog
  obtain ⟨hlow, hhigh⟩ := roundedMantissa_mem first
  have hbounds := (Nat.log2_eq_iff hfirstne).mp hlog
  have hrounded : first.roundedMantissa ≠ 0 := by omega
  have hleast : 52 ≤ first.roundedMantissa.log2 := (Nat.le_log2 hrounded).mpr (by omega)
  have hgreatest : first.roundedMantissa.log2 < 54 := (Nat.log2_lt hrounded).mpr (by omega)
  obtain ⟨hsecond, hlast⟩ := shiftToTargetExponent_eq first.roundedMantissa between .exact
  rcases hagain : shiftToTargetExponent Format.binary64 first.roundedMantissa between .exact with
    ⟨second, last⟩
  rw [hagain, targetShift_normal hleast (by omega)] at hsecond hlast
  simp only at hsecond hlast
  have hfinal : second.mantissa.log2 = 52 := by
    rw [hsecond, log2_div_two_pow hrounded (by omega)]
    omega
  have hpositive : second.mantissa ≠ 0 := by
    intro hzero
    simp [hzero] at hfinal
  refine ⟨second.mantissa, last, Nat.pos_of_ne_zero hpositive, ?_, hfinal, by omega, by omega⟩
  simp only [roundWithAccuracy, hshifted, hagain]
  exact dif_neg hpositive

end Rounding

/-! ## Packing -/

section Packing

variable {limit : Int} {number : UnpackedFloat}

theorem log2_lt_of_lt_two_pow {value width : Nat} (hwidth : 0 < width) (hvalue : value < 2 ^ width) :
    value.log2 < width := by
  by_cases hzero : value = 0
  · rwa [hzero, Nat.log2_zero]
  · exact (Nat.log2_lt hzero).mpr hvalue

/-- Bits whose exponent is not the greatest are those of a finite number. -/
theorem within_unpack_components (sign : Sign) {exponent : BitVec 11} (mantissa : BitVec 52)
    (hexponent : exponent ≠ -1#_)
    (hplace : exponent ≠ 0#_ → (exponent.toNat : Int) - 1023 ≤ limit) (hlow : -1023 ≤ limit) :
    Within limit (unpack Format.binary64
      (packComponents Format.binary64 sign exponent mantissa)) := by
  simp only [unpack, unpackMantissa_packComponents, unpackExponent_packComponents, hexponent,
    if_false]
  have hbias : Format.exponentBias Format.binary64 = 1023 := rfl
  split
  next hzero =>
    split
    next => trivial
    next =>
      have hlog := log2_lt_of_lt_two_pow (by decide) mantissa.isLt
      simp only [Within, hzero, hbias, BitVec.toNat_zero]
      omega
  next hnormal =>
    have hlog := log2_lt_of_lt_two_pow (by decide) (1#1 ++ mantissa).isLt
    have hlimit := hplace hnormal
    simp only [Within, hbias]
    omega

theorem ofNat_ne_neg_one {value : Nat} (hvalue : value < 2047) : BitVec.ofNat 11 value ≠ -1#11 := by
  intro hsame
  have htoNat := congrArg BitVec.toNat hsame
  rw [BitVec.toNat_ofNat, Nat.mod_eq_of_lt (by omega)] at htoNat
  rw [htoNat] at hvalue
  exact absurd hvalue (by decide)

theorem within_unpack_pack (hnumber : Within limit number) (hlow : -1000 ≤ limit)
    (hhigh : limit ≤ 971) : Within limit (unpack Format.binary64 (pack Format.binary64 number)) := by
  have hbias : Format.exponentBias Format.binary64 = 1023 := rfl
  cases number with
  | infinity sign => exact hnumber.elim
  | notANumber => exact hnumber.elim
  | zero sign => exact within_unpack_components sign 0 (by decide) (absurd rfl) (by omega)
  | finite sign mantissa exponent hmantissa =>
      simp only [Within] at hnumber
      simp only [pack, hbias]
      split
      next hlarge => omega
      next hfits =>
        split
        next hnormal =>
          have hdigits : mantissa.log2 = 52 := Nat.succ.inj hnormal
          refine within_unpack_components sign _ (ofNat_ne_neg_one (by omega)) ?_ (by omega)
          intro hexponent
          rw [BitVec.toNat_ofNat]
          omega
        next => exact within_unpack_components sign _ (by decide) (absurd rfl) (by omega)

/-- A mantissa of 53 digits is packed without its first digit and unpacked with it. -/
theorem unpack_pack_normal (exponent : Int) (sign : Sign) {mantissa : Nat} (hmantissa : 0 < mantissa)
    (hdigits : mantissa.log2 = 52) (hlow : -1074 ≤ exponent) (hhigh : exponent ≤ 971) :
    ∃ sign' mantissa', ∃ hmantissa' : 0 < mantissa',
      unpack Format.binary64 (pack Format.binary64 (.finite sign mantissa exponent hmantissa)) =
        .finite sign' mantissa' exponent hmantissa' ∧ mantissa'.log2 = 52 := by
  have hbias : Format.exponentBias Format.binary64 = 1023 := rfl
  have hbits : mantissa.log2 + 1 = Format.binary64.mantissaBits := by
    rw [hdigits]
    rfl
  generalize hbiased : (exponent + 1023 + 52).toNat = biased
  have hvalue : (BitVec.ofNat 11 biased).toNat = biased := by
    rw [BitVec.toNat_ofNat]
    omega
  have hgreatest : BitVec.ofNat 11 biased ≠ -1#11 := ofNat_ne_neg_one (by omega)
  have hleast : BitVec.ofNat 11 biased ≠ 0#11 := by
    intro hzero
    rw [hzero, BitVec.toNat_zero] at hvalue
    omega
  have hexponent : ((BitVec.ofNat 11 biased).toNat : Int) - ((1023 : Nat) + (52 : Nat)) =
      exponent := by
    rw [hvalue]
    omega
  have himplicit : 2 ^ 52 ≤ (1#1 ++ BitVec.ofNat 52 mantissa).toNat := by
    rw [BitVec.toNat_append]
    exact Nat.left_le_or
  have hpack : pack Format.binary64 (.finite sign mantissa exponent hmantissa) =
      packComponents Format.binary64 sign (BitVec.ofNat 11 biased) (BitVec.ofNat 52 mantissa) := by
    simp only [pack, hbias]
    rw [if_neg (by omega), if_pos hbits]
    simp only [← hbiased]
    rfl
  have hlog : (1#1 ++ BitVec.ofNat 52 mantissa).toNat.log2 = 52 :=
    (Nat.log2_eq_iff (by omega)).mpr ⟨himplicit, (1#1 ++ BitVec.ofNat 52 mantissa).isLt⟩
  rw [hpack]
  simp only [unpack, unpackMantissa_packComponents, unpackExponent_packComponents, hbias]
  rw [if_neg hgreatest, if_neg hleast, hexponent]
  have hpositive : 0 < (1#1 ++ BitVec.ofNat 52 mantissa).toNat := by omega
  exact ⟨_, _, hpositive, rfl, hlog⟩

theorem isFinite_unpack_pack (sign : Sign) {mantissa : Nat} {exponent : Int}
    (hmantissa : 0 < mantissa) (hexponent : exponent ≤ 971) : (unpack Format.binary64
      (pack Format.binary64 (.finite sign mantissa exponent hmantissa))).isFinite = true := by
  have hbias : Format.exponentBias Format.binary64 = 1023 := rfl
  have hcomponents : ∀ (sign : Sign) {exponent : BitVec 11} (mantissa : BitVec 52),
      exponent ≠ -1#_ → (unpack Format.binary64
        (packComponents Format.binary64 sign exponent mantissa)).isFinite = true := by
    intro sign exponent mantissa hgreatest
    simp only [unpack, unpackMantissa_packComponents, unpackExponent_packComponents, hgreatest,
      if_false]
    split
    · split <;> rfl
    · rfl
  simp only [pack, hbias]
  rw [if_neg (by omega)]
  split
  next => exact hcomponents sign _ (ofNat_ne_neg_one (by omega))
  next => exact hcomponents sign _ (by decide)

/-- Every finite number that is unpacked can be packed again. -/
theorem exponent_le_of_unpack {bits : BitVec Format.binary64.numBits} {sign : Sign}
    {mantissa : Nat} {exponent : Int} {hmantissa : 0 < mantissa}
    (hunpack : unpack Format.binary64 bits = .finite sign mantissa exponent hmantissa) :
    exponent ≤ 971 := by
  have hbias : Format.exponentBias Format.binary64 = 1023 := rfl
  have hgreatest : ∀ field : BitVec 11, field ≠ -1#11 → field.toNat ≤ 2046 := by
    intro field hfield
    have hless := field.isLt
    have hne : field.toNat ≠ 2047 := fun hsame => hfield (BitVec.eq_of_toNat_eq hsame)
    omega
  simp only [unpack, hbias] at hunpack
  split at hunpack
  next => split at hunpack <;> cases hunpack
  next hfinite =>
    split at hunpack
    next hzero =>
      split at hunpack
      next => cases hunpack
      next =>
        cases hunpack
        rw [hzero, BitVec.toNat_zero]
        decide
    next =>
      cases hunpack
      have hfield := hgreatest _ hfinite
      omega

/-- A number remains one when it is packed, though it may become infinite. -/
theorem unpack_pack_ne_notANumber (hnumber : number ≠ .notANumber) :
    unpack Format.binary64 (pack Format.binary64 number) ≠ .notANumber := by
  have hcomponents : ∀ (sign : Sign) (exponent : BitVec 11) (mantissa : BitVec 52),
      (exponent = -1#_ → mantissa = 0#_) → unpack Format.binary64
        (packComponents Format.binary64 sign exponent mantissa) ≠ .notANumber := by
    intro sign exponent mantissa hgreatest
    simp only [unpack, unpackMantissa_packComponents, unpackExponent_packComponents]
    split
    next hexponent => simp [hgreatest hexponent]
    next =>
      split
      · split <;> simp
      · simp
  cases number with
  | notANumber => exact absurd rfl hnumber
  | infinity sign => exact hcomponents sign _ _ fun _ => rfl
  | zero sign => exact hcomponents sign _ _ fun _ => rfl
  | finite sign mantissa exponent hmantissa =>
      have hbias : Format.exponentBias Format.binary64 = 1023 := rfl
      simp only [pack, hbias]
      split
      next => exact hcomponents sign _ _ fun _ => rfl
      next hfits =>
        split
        next =>
          exact hcomponents sign _ _ fun hgreatest =>
            absurd hgreatest (ofNat_ne_neg_one (by omega))
        next => exact hcomponents sign _ _ fun hgreatest => absurd hgreatest (by decide)

end Packing

/-! ## Arithmetic -/

section Arithmetic

variable {limit first second : Int} {left right : UnpackedFloat}

theorem log2_mul_le (left right : Nat) : (left * right).log2 ≤ left.log2 + right.log2 + 1 := by
  by_cases hzero : left * right = 0
  · rw [hzero, Nat.log2_zero]
    exact Nat.zero_le _
  · rw [← Nat.lt_succ_iff, Nat.log2_lt hzero]
    calc
      left * right < 2 ^ (left.log2 + 1) * 2 ^ (right.log2 + 1) :=
        Nat.mul_lt_mul'' Nat.lt_log2_self Nat.lt_log2_self
      _ = 2 ^ (left.log2 + right.log2 + 1).succ := by
        rw [← Nat.pow_add]
        congr 1
        omega

theorem log2_shiftLeft {value : Nat} (hvalue : value ≠ 0) (shift : Nat) :
    (value <<< shift).log2 = value.log2 + shift := by
  have hpositive := Nat.two_pow_pos shift
  have hshifted : value * 2 ^ shift ≠ 0 := Nat.mul_ne_zero hvalue hpositive.ne'
  rw [Nat.shiftLeft_eq, Nat.log2_eq_iff hshifted, Nat.add_right_comm, Nat.pow_add, Nat.pow_add]
  exact ⟨Nat.mul_le_mul_right _ (Nat.log2_self_le hvalue),
    Nat.mul_lt_mul_of_pos_right Nat.lt_log2_self hpositive⟩

theorem log2_shiftLeft_le (value shift : Nat) : (value <<< shift).log2 ≤ value.log2 + shift := by
  by_cases hzero : value = 0
  · rw [hzero, Nat.zero_shiftLeft, Nat.log2_zero]
    exact Nat.zero_le _
  · exact (log2_shiftLeft hzero shift).le

theorem log2_div_add_le {dividend divisor : Nat} (hquotient : dividend / divisor ≠ 0)
    (hdivisor : divisor ≠ 0) : (dividend / divisor).log2 + divisor.log2 ≤ dividend.log2 := by
  have hdividend : dividend ≠ 0 := by
    rintro rfl
    simp at hquotient
  rw [Nat.le_log2 hdividend, Nat.pow_add]
  calc
    2 ^ (dividend / divisor).log2 * 2 ^ divisor.log2 ≤ dividend / divisor * divisor :=
      Nat.mul_le_mul (Nat.log2_self_le hquotient) (Nat.log2_self_le hdivisor)
    _ ≤ dividend := Nat.div_mul_le_self dividend divisor

theorem within_mul (hleft : Within first left) (hright : Within second right)
    (hsum : first + second + 2 ≤ limit) (hlimit : -1073 ≤ limit) :
    Within limit (mul Format.binary64 left right) := by
  cases left with
  | infinity sign => exact hleft.elim
  | notANumber => exact hleft.elim
  | zero sign =>
      cases right with
      | infinity sign => exact hright.elim
      | notANumber => exact hright.elim
      | zero sign => trivial
      | finite sign mantissa exponent hmantissa => trivial
  | finite sign mantissa exponent hmantissa =>
      cases right with
      | infinity sign => exact hright.elim
      | notANumber => exact hright.elim
      | zero sign => trivial
      | finite sign' mantissa' exponent' hmantissa' =>
          simp only [Within] at hleft hright
          have hproduct := log2_mul_le mantissa mantissa'
          exact within_roundWithAccuracy _ _ (by omega) hlimit

theorem within_div (hleft : Within first left) (hright : Beyond second right)
    (hdifference : first - second + 1 ≤ limit) (hlimit : -1073 ≤ limit) :
    Within limit (div Format.binary64 left right) := by
  cases right with
  | infinity sign => exact hright.elim
  | notANumber => exact hright.elim
  | zero sign => exact hright.elim
  | finite sign' mantissa' exponent' hmantissa' =>
      cases left with
      | infinity sign => exact hleft.elim
      | notANumber => exact hleft.elim
      | zero sign => trivial
      | finite sign mantissa exponent hmantissa =>
          simp only [Within, Beyond] at hleft hright
          simp only [div, divCore]
          apply within_roundWithAccuracy _ _ _ hlimit
          generalize htarget : min (exponent - exponent') (Format.targetExponent Format.binary64
            (totalExponent mantissa exponent - totalExponent mantissa' exponent')) = target
          simp only [Format.targetExponent, totalExponent, Format.mantissaBits,
            Format.minExponent] at htarget
          have hshift := log2_shiftLeft_le mantissa (exponent - exponent' - target).toNat
          by_cases hquotient : mantissa <<< (exponent - exponent' - target).toNat / mantissa' = 0
          · rw [hquotient, Nat.log2_zero]
            omega
          · have hdivided := log2_div_add_le hquotient hmantissa'.ne'
            omega

theorem within_round (sign : Sign) {mantissa : Nat} {exponent : Int}
    (hplace : mantissa.log2 + exponent + 1 ≤ limit) (hlimit : -1073 ≤ limit) :
    Within limit (UnpackedFloat.round Format.binary64 sign mantissa exponent) := by
  simp only [UnpackedFloat.round, decreaseExponent]
  apply within_roundWithAccuracy _ _ _ hlimit
  have hshift := log2_shiftLeft_le mantissa
    (exponent - Format.targetExponent Format.binary64 (totalExponent mantissa exponent)).toNat
  omega

theorem within_ofNat {value width : Nat} (hwidth : 0 < width) (hvalue : value < 2 ^ width) :
    Within width (ofNat Format.binary64 value) := by
  have hlog := log2_lt_of_lt_two_pow hwidth hvalue
  simp only [ofNat, ofInt, UnpackedFloat.normalize]
  split
  next =>
    have hnegative : (-(value : Int)).toNat = 0 := by omega
    rw [hnegative]
    exact within_round _ (by rw [Nat.log2_zero]; omega) (by omega)
  next => trivial
  next =>
    rw [Int.toNat_natCast]
    exact within_round _ (by omega) (by omega)

end Arithmetic

/-! ## Binary64 numbers -/

section Numbers

variable {limit first second : Int} {left right : Float}

/-- Whether a number is zero, or finite with its first binary digit at `limit` at most. -/
def Moderate (limit : Int) (number : Float) : Prop :=
  Within limit number.toModel.unpack

theorem moderate_ofModel_pack {number : UnpackedFloat} (hnumber : Within limit number)
    (hlow : -1000 ≤ limit) (hhigh : limit ≤ 971) :
    Moderate limit (Float.ofModel (Float.Model.pack number)) :=
  within_unpack_pack hnumber hlow hhigh

theorem Moderate.isFinite (hleft : Moderate limit left) : left.isFinite = true := by
  change left.toModel.unpack.isFinite = true
  unfold Moderate at hleft
  cases hunpacked : left.toModel.unpack with
  | infinity sign => exact (hunpacked ▸ hleft).elim
  | notANumber => exact (hunpacked ▸ hleft).elim
  | zero sign => rfl
  | finite sign mantissa exponent hmantissa => rfl

theorem Moderate.mono (hleft : Moderate first left) (hle : first ≤ second) :
    Moderate second left := by
  unfold Moderate at hleft ⊢
  cases hunpacked : left.toModel.unpack with
  | infinity sign => exact (hunpacked ▸ hleft).elim
  | notANumber => exact (hunpacked ▸ hleft).elim
  | zero sign => trivial
  | finite sign mantissa exponent hmantissa =>
      rw [hunpacked] at hleft
      exact le_trans hleft hle

theorem isFinite_neg (hleft : left.isFinite = true) : (-left).isFinite = true := by
  change left.toModel.unpack.isFinite = true at hleft
  change (unpack Format.binary64 (pack Format.binary64 left.toModel.unpack.neg)).isFinite = true
  cases hunpacked : left.toModel.unpack with
  | infinity sign => simp [hunpacked, UnpackedFloat.isFinite] at hleft
  | notANumber => simp [hunpacked, UnpackedFloat.isFinite] at hleft
  | zero sign => cases sign <;> decide +kernel
  | finite sign mantissa exponent hmantissa =>
      exact isFinite_unpack_pack _ hmantissa (exponent_le_of_unpack hunpacked)

theorem Moderate.mul (hleft : Moderate first left) (hright : Moderate second right)
    (hsum : first + second + 2 ≤ limit) (hlow : -1000 ≤ limit) (hhigh : limit ≤ 971) :
    Moderate limit (left * right) :=
  moderate_ofModel_pack (within_mul hleft hright hsum (by omega)) hlow hhigh

theorem Moderate.div (hleft : Moderate first left) (hright : Beyond second right.toModel.unpack)
    (hdifference : first - second + 1 ≤ limit) (hlow : -1000 ≤ limit) (hhigh : limit ≤ 971) :
    Moderate limit (left / right) :=
  moderate_ofModel_pack (within_div hleft hright hdifference (by omega)) hlow hhigh

theorem moderate_toFloat (value : UInt64) : Moderate 64 value.toFloat :=
  moderate_ofModel_pack (within_ofNat (by decide) value.toNat_lt) (by decide) (by decide)

/-- A product of finite numbers is finite where it is not infinite. -/
theorem isFinite_mul (hleft : left.isFinite = true) (hright : right.isFinite = true)
    (hproduct : (left * right).isInf = false) : (left * right).isFinite = true := by
  have hnumber : UnpackedFloat.mul Format.binary64 left.toModel.unpack right.toModel.unpack ≠
      .notANumber := by
    change left.toModel.unpack.isFinite = true at hleft
    change right.toModel.unpack.isFinite = true at hright
    cases hfirst : left.toModel.unpack <;> cases hsecond : right.toModel.unpack <;>
      simp_all [UnpackedFloat.isFinite, UnpackedFloat.mul, roundWithAccuracy]
    split <;> simp
  have hpacked := unpack_pack_ne_notANumber hnumber
  change (unpack Format.binary64 (pack Format.binary64 _)).isInf = false at hproduct
  change (unpack Format.binary64 (pack Format.binary64 _)).isFinite = true
  revert hproduct hpacked
  cases unpack Format.binary64 (pack Format.binary64
    (UnpackedFloat.mul Format.binary64 left.toModel.unpack right.toModel.unpack)) <;>
      simp [UnpackedFloat.isFinite, UnpackedFloat.isInf]

/-- A whole number times a power of ten is rounded to a normal number, unless it is too large. -/
theorem ofScientific_normal (value power : Nat) (hvalue : value ≠ 0) (hpower : power ≤ 2048)
    (hplace : (value * 10 ^ power).log2 ≤ 1022) :
    Moderate ((value * 10 ^ power).log2 + 1) (.ofModel (Float.Model.ofScientific value power)) ∧
      Beyond (value * 10 ^ power).log2 (Float.Model.ofScientific value power).unpack := by
  have hproduct : value * 10 ^ power ≠ 0 :=
    Nat.mul_ne_zero hvalue (Nat.pow_pos (by decide)).ne'
  have hshifted : value <<< 53 * 10 ^ power = (value * 10 ^ power) <<< 53 := by
    rw [Nat.shiftLeft_eq, Nat.shiftLeft_eq, Nat.mul_right_comm]
  have hlog := log2_shiftLeft hproduct 53
  rw [← hshifted] at hlog
  obtain ⟨final, last, hfinal, hround, hdigits, hlow, hhigh⟩ := roundWithAccuracy_normal
    (value <<< 53 * 10 ^ power) (-53) .positive .exact (by omega) (by omega)
  have hscientific : ofScientific Format.binary64 value power =
      .finite .positive final last hfinal := by
    have hbits : (2 : Int) ^ Format.binary64.exponentBits = 2048 := rfl
    rw [← hround, ofScientific, hbits, dif_neg hvalue, if_neg (by omega), if_neg (by omega),
      if_pos (by omega)]
    rfl
  obtain ⟨sign, mantissa, hmantissa, hunpack, hbits⟩ := unpack_pack_normal last
    .positive hfinal hdigits (by omega) (by omega)
  have hnumber : (Float.Model.ofScientific value power).unpack =
      .finite sign mantissa last hmantissa := by
    rw [← hunpack, ← hscientific]
    rfl
  constructor
  · change Within _ (Float.Model.ofScientific value power).unpack
    rw [hnumber]
    simp only [Within]
    omega
  · rw [hnumber]
    simp only [Beyond]
    omega

theorem moderate_ofNat {value : Nat} (hvalue : value < 2 ^ 64) : Moderate 66 (Float.ofNat value) := by
  change Moderate 66 (Float.ofScientific value false 0)
  unfold Float.ofScientific
  split
  next hsmall =>
    have hone : Moderate 0 (Float.exactlyRepresentablePowersOfTen[0]) := by
      unfold Moderate
      decide +kernel
    exact (moderate_toFloat value.toUInt64).mul hone (by decide) (by decide) (by decide)
  next hlarge =>
    have hlog := log2_lt_of_lt_two_pow (by decide) hvalue
    have hscientific := (ofScientific_normal value 0 (by omega) (by decide)
      (by rw [Nat.pow_zero, Nat.mul_one]; omega)).1
    rw [Nat.pow_zero, Nat.mul_one] at hscientific
    exact hscientific.mono (by omega)

/-- A whole number of 64 bits is rounded to a finite number. -/
theorem isFinite_ofInt {value : Int} (hlow : -2 ^ 64 < value) (hhigh : value < 2 ^ 64) :
    (Float.ofInt value).isFinite = true := by
  cases value with
  | ofNat value => exact (moderate_ofNat (Int.ofNat_lt.mp hhigh)).isFinite
  | negSucc value =>
      rw [Int.negSucc_eq] at hlow
      exact isFinite_neg (moderate_ofNat (by omega)).isFinite

end Numbers

end PromptScript.Magnitude
