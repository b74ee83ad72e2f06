import Rehearsal.Number.Binary

/-!
The order of doubles. What is not a number is neither less nor greater than anything, and what is
above zero is seen to be so by its parts.
-/

set_option autoImplicit false

namespace Rehearsal.Number

open Float.Model Float.Model.UnpackedFloat

variable (bits : BitVec Format.binary64.numBits)

theorem toNat_unpackMantissa : (unpackMantissa bits).toNat = bits.toNat % Nat.pow 2 52 := by
  delta unpackMantissa
  rw [BitVec.toNat_cast, BitVec.extractLsb_toNat]
  rfl

theorem toNat_unpackExponent : (unpackExponent bits).toNat = bits.toNat / Nat.pow 2 52 % 2048 := by
  delta unpackExponent
  rw [BitVec.toNat_cast, BitVec.extractLsb_toNat, Nat.shiftRight_eq_div_pow]
  rfl

theorem toNat_unpackSign : (unpackSign bits).toNat = bits.toNat / Nat.pow 2 63 := by
  delta unpackSign
  rw [BitVec.toNat_cast, BitVec.extractLsb_toNat, Nat.shiftRight_eq_div_pow]
  have least : bits.toNat < 2 ^ 64 := bits.isLt
  change bits.toNat / 2 ^ 63 % 2 ^ 1 = bits.toNat / 2 ^ 63
  omega

/-- The parts of a double in the words of its unpacked form. -/
theorem ofFloat_eq (value : Float) :
    let bits : BitVec Format.binary64.numBits := value.toBits.toBitVec
    Binary.ofFloat value =
      if (unpackExponent bits).toNat == 2047 then
        if (unpackMantissa bits).toNat == 0 then .infinite ((unpackSign bits).toNat == 1) else .nan
      else if (unpackExponent bits).toNat == 0 then
        .finite ((unpackSign bits).toNat == 1) (unpackMantissa bits).toNat (-1074)
      else
        .finite ((unpackSign bits).toNat == 1) ((unpackMantissa bits).toNat + Nat.pow 2 52)
          (((unpackExponent bits).toNat : Int) - 1075) := by
  intro bits
  rw [toNat_unpackExponent, toNat_unpackMantissa, toNat_unpackSign]
  rfl

theorem eq_zero_of_positive {sign : BitVec 1} (above : Sign.ofBitVec sign ≠ .negative) :
    sign.toNat = 0 := by
  unfold Sign.ofBitVec at above
  split at above
  next same => rw [same]; rfl
  next => exact absurd rfl above

theorem parts_of_positive
    (above : (UnpackedFloat.zero .positive).compare (UnpackedFloat.unpack Format.binary64 bits) =
      some .lt) :
    (unpackSign bits).toNat = 0 ∧
      ((unpackExponent bits).toNat = 2047 → (unpackMantissa bits).toNat = 0) ∧
      ((unpackExponent bits).toNat = 0 → (unpackMantissa bits).toNat ≠ 0) := by
  unfold UnpackedFloat.unpack at above
  dsimp only at above
  have signed : Sign.ofBitVec (unpackSign bits) ≠ .negative := by
    intro negative
    rw [negative] at above
    by_cases full : unpackExponent bits = -1#_
    · rw [if_pos full] at above
      by_cases none : unpackMantissa bits = 0#_
      · rw [if_pos none] at above
        cases above
      · rw [if_neg none] at above
        cases above
    · rw [if_neg full] at above
      by_cases low : unpackExponent bits = 0#_
      · rw [if_pos low] at above
        by_cases none : unpackMantissa bits = 0#_
        · rw [dif_pos none] at above
          cases above
        · rw [dif_neg none] at above
          cases above
      · rw [if_neg low] at above
        cases above
  refine ⟨eq_zero_of_positive signed, ?_, ?_⟩
  · intro full
    rw [if_pos (BitVec.eq_of_toNat_eq full)] at above
    by_cases none : unpackMantissa bits = 0#_
    · rw [none]
      rfl
    · rw [if_neg none] at above
      cases above
  · intro small none
    have low : unpackExponent bits = 0#_ := BitVec.eq_of_toNat_eq small
    have other : ¬ unpackExponent bits = -1#_ := by
      rw [low]
      decide
    rw [if_neg other, if_pos low, dif_pos (BitVec.eq_of_toNat_eq none)] at above
    cases above

/-- Above zero there are one infinity and the doubles with a mantissa and no minus. -/
theorem ofFloat_of_positive {value : Float} (positive : 0.0 < value) :
    Binary.ofFloat value = .infinite false ∨ ∃ mantissa exponent,
      0 < mantissa ∧ Binary.ofFloat value = .finite false mantissa exponent := by
  have above : (0.0 : Float).toModel.unpack.lt value.toModel.unpack = true :=
    of_decide_eq_true positive
  have zero : (0.0 : Float).toModel.unpack = .zero .positive := rfl
  rw [zero, UnpackedFloat.lt, beq_iff_eq] at above
  obtain ⟨plus, full, small⟩ := parts_of_positive value.toBits.toBitVec above
  rw [ofFloat_eq]
  dsimp only
  rw [plus]
  split
  next infinite =>
    rw [full (eq_of_beq infinite)]
    exact .inl rfl
  next =>
    right
    split
    next low =>
      exact ⟨_, _, Nat.pos_of_ne_zero (small (eq_of_beq low)), rfl⟩
    next => exact ⟨_, _, Nat.add_pos_right _ (by decide), rfl⟩

end Rehearsal.Number
