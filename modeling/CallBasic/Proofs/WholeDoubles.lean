import Mathlib
import CallBasic.Value
/-!
# Whole numbers as doubles

An integer of magnitude at most `2^53` is a double exactly, and a number is shown with all the
digits of that integer (`formatNumber_ofInt`).

The double of an integer goes through the logical model of `Float`: the magnitude is normalised
to a 53-bit mantissa, multiplied by the double one, packed into 64 bits, and negated for a
negative integer. Every step leaves a normal double `m * 2^e`, with `2^52 ≤ m < 2^53`
(`NormalParts`), as it is: rounding it is exact (`roundWithAccuracy_scaled`), its packed bits
unpack to it (`unpack_pack`), and the printer reads them back as its sign, `m` and `e`
(`ofFloat_pack`).
-/

namespace CallBasic.Decimal

open Float.Model Float.Model.UnpackedFloat

/-- The parts `m * 2^e` of a normal double: a mantissa of 53 bits, and an exponent whose biased
form is neither all zeros nor all ones. -/
structure NormalParts (m : Nat) (e : Int) : Prop where
  low : 2 ^ 52 ≤ m
  high : m < 2 ^ 53
  least : -1074 ≤ e
  most : e ≤ 971

namespace NormalParts

variable {m : Nat} {e : Int}

theorem pos (h : NormalParts m e) : 0 < m :=
  Nat.lt_of_lt_of_le (Nat.two_pow_pos 52) h.low

theorem log2_scaled (h : NormalParts m e) (k : Nat) : (m * 2 ^ k).log2 = 52 + k := by
  have hpos : m * 2 ^ k ≠ 0 := Nat.ne_of_gt (Nat.mul_pos h.pos (Nat.two_pow_pos k))
  refine (Nat.log2_eq_iff hpos).mpr ⟨?_, ?_⟩
  · rw [Nat.pow_add]
    exact Nat.mul_le_mul_right _ h.low
  · rw [show 52 + k + 1 = 53 + k by omega, Nat.pow_add]
    exact Nat.mul_lt_mul_of_pos_right h.high (Nat.two_pow_pos k)

theorem log2_eq (h : NormalParts m e) : m.log2 = 52 := by
  simpa using h.log2_scaled 0

/-- A positive integer below `2^53`, shifted up to 53 bits. -/
theorem of_small {n : Nat} (hn : 0 < n) (hlt : n < 2 ^ 53) :
    NormalParts (n * 2 ^ (52 - n.log2)) (-((52 - n.log2 : Nat) : Int)) := by
  have hlog : n.log2 < 53 := (Nat.log2_lt (Nat.ne_of_gt hn)).mpr hlt
  have hlo := Nat.mul_le_mul_right (2 ^ (52 - n.log2)) (Nat.log2_self_le (Nat.ne_of_gt hn))
  have hhi := Nat.mul_lt_mul_of_pos_right (Nat.lt_log2_self (n := n)) (Nat.two_pow_pos (52 - n.log2))
  rw [← Nat.pow_add, show n.log2 + (52 - n.log2) = 52 by omega] at hlo
  rw [← Nat.pow_add, show n.log2 + 1 + (52 - n.log2) = 53 by omega] at hhi
  exact ⟨hlo, hhi, by omega, by omega⟩

end NormalParts

/-! ## Rounding a normal double -/

/-- Shifting out `k` zero bits loses nothing. -/
theorem shiftRight_scaled (m k : Nat) :
    ExtendedMantissa.ofMantissaAndAccuracy (m * 2 ^ k) .exact >>> k =
      ExtendedMantissa.ofMantissaAndAccuracy m .exact := by
  induction k generalizing m with
  | zero => simp only [Nat.pow_zero, Nat.mul_one]; rfl
  | succ k ih =>
    change Nat.repeat ExtendedMantissa.shiftRightOne (k + 1) _ = _
    rw [Nat.repeat]
    change ExtendedMantissa.shiftRightOne
      (ExtendedMantissa.ofMantissaAndAccuracy (m * 2 ^ (k + 1)) .exact >>> k) = _
    rw [show m * 2 ^ (k + 1) = m * 2 * 2 ^ k by rw [Nat.pow_succ, Nat.mul_right_comm, Nat.mul_assoc],
      ih]
    simp [ExtendedMantissa.shiftRightOne, ExtendedMantissa.ofMantissaAndAccuracy]

/-- Rounding a normal double written with `k` more bits of mantissa gives the double: the
bits shifted out are all zero. -/
theorem roundWithAccuracy_scaled {m : Nat} {e : Int} (h : NormalParts m e) (s : Sign) (k : Nat) :
    roundWithAccuracy Format.binary64 s (m * 2 ^ k) (e - k) .exact = .finite s m e h.pos := by
  have htarget : ∀ j : Nat, Format.binary64.targetExponent (totalExponent (m * 2 ^ j) (e - j)) = e := by
    intro j
    simp only [Format.targetExponent, totalExponent, h.log2_scaled, Format.mantissaBits,
      Format.minExponent]
    have := h.least
    omega
  have hshift : ∀ j : Nat, shiftToTargetExponent Format.binary64 (m * 2 ^ j) (e - j) .exact =
      (ExtendedMantissa.ofMantissaAndAccuracy m .exact, e) := by
    intro j
    simp only [shiftToTargetExponent, htarget, shiftToExponent]
    rw [show (e - (e - j)).toNat = j by omega, shiftRight_scaled]
    congr 1
    omega
  have hagain := hshift 0
  simp only [Nat.pow_zero, Nat.mul_one, Int.natCast_zero, Int.sub_zero] at hagain
  rw [roundWithAccuracy, hshift k]
  simp [ExtendedMantissa.ofMantissaAndAccuracy, ExtendedMantissa.roundedMantissa,
    ExtendedMantissa.accuracy, Accuracy.roundToNearestEven, hagain, Nat.ne_of_gt h.pos]

/-- A positive integer below `2^53` is normalised exactly. -/
theorem ofNat_small {n : Nat} (hn : 0 < n) (hlt : n < 2 ^ 53) :
    UnpackedFloat.ofNat Format.binary64 n =
      .finite .positive (n * 2 ^ (52 - n.log2)) (-((52 - n.log2 : Nat) : Int))
        (NormalParts.of_small hn hlt).pos := by
  have h := NormalParts.of_small hn hlt
  have hlog : n.log2 < 53 := (Nat.log2_lt (Nat.ne_of_gt hn)).mpr hlt
  have hc : compare (n : Int) 0 = .gt := Int.compare_eq_gt.mpr (by omega)
  have ht : Format.binary64.targetExponent (totalExponent n 0) = n.log2 - 52 := by
    simp only [Format.targetExponent, totalExponent, Format.mantissaBits, Format.minExponent]
    omega
  simp only [UnpackedFloat.ofNat, UnpackedFloat.ofInt, UnpackedFloat.normalize, hc, Int.toNat_natCast,
    UnpackedFloat.round, ht, decreaseExponent, Nat.shiftLeft_eq]
  rw [show (0 - ((n.log2 : Int) - 52)).toNat = 52 - n.log2 by omega]
  have hk := roundWithAccuracy_scaled h .positive 0
  simp only [Nat.pow_zero, Nat.mul_one, Int.natCast_zero, Int.sub_zero] at hk
  rw [← hk]
  congr 1
  omega

/-! ## The bits of a normal double -/

section

variable {m : Nat} {e : Int}

theorem pack_normal (h : NormalParts m e) (s : Sign) :
    UnpackedFloat.pack Format.binary64 (.finite s m e h.pos) =
      packComponents Format.binary64 s (BitVec.ofNat 11 (e + 1075).toNat) (BitVec.ofNat 52 m) := by
  have := h.most
  have hn : ¬2 ^ Format.binary64.exponentBits ≤
      (e + Format.binary64.exponentBias + Format.binary64.mantissaBitsWithoutImplicit).toNat + 1 := by
    change ¬2048 ≤ (e + 1023 + 52).toNat + 1
    omega
  have hb : e + (Format.binary64.exponentBias : Int) + (52 : Nat) = e + 1075 := by
    rw [show Format.binary64.exponentBias = 1023 from rfl]
    omega
  simp only [UnpackedFloat.pack, if_neg hn, h.log2_eq]
  rw [if_pos (show 52 + 1 = Format.binary64.mantissaBits from rfl), hb]

theorem unpackSign_packComponents (s : Sign) (exponent : BitVec 11) (mantissa : BitVec 52) :
    unpackSign (packComponents Format.binary64 s exponent mantissa) = s.toBitVec := by
  change (s.toBitVec ++ exponent ++ mantissa).extractLsb' 63 1 = s.toBitVec
  rw [BitVec.extractLsb'_append_eq_of_le (by decide), BitVec.extractLsb'_append_eq_of_le (by decide)]
  cases s <;> rfl

/-- The packed bits of a normal double unpack to it. -/
theorem unpack_pack (h : NormalParts m e) (s : Sign) :
    UnpackedFloat.unpack Format.binary64 (UnpackedFloat.pack Format.binary64 (.finite s m e h.pos)) =
      .finite s m e h.pos := by
  have := h.least
  have := h.most
  have hexp : (BitVec.ofNat 11 (e + 1075).toNat).toNat = (e + 1075).toNat := by
    rw [BitVec.toNat_ofNat]
    omega
  -- the biased exponent is neither all ones (infinity, nan) nor all zeros (subnormal)
  have hfield : ∀ b : BitVec 11, b.toNat ≠ (e + 1075).toNat → BitVec.ofNat 11 (e + 1075).toNat ≠ b :=
    fun b hb he => hb (he ▸ hexp)
  have hones := hfield (-1#11) (by change 2047 ≠ (e + 1075).toNat; omega)
  have hzero := hfield 0#11 (by change 0 ≠ (e + 1075).toNat; omega)
  -- the implicit leading bit comes back in front of the stored 52 bits
  have hmant : (1#1 ++ BitVec.ofNat 52 m).toNat = m := by
    simp only [BitVec.toNat_append, BitVec.toNat_ofNat]
    change 1 <<< 52 ||| m % 2 ^ 52 = m
    rw [← Nat.shiftLeft_add_eq_or_of_lt (Nat.mod_lt m (Nat.two_pow_pos 52))]
    have := h.low
    have := h.high
    omega
  have hsign : Sign.ofBitVec s.toBitVec = s := by cases s <;> rfl
  rw [pack_normal h s]
  simp only [UnpackedFloat.unpack, unpackMantissa_packComponents, unpackExponent_packComponents,
    unpackSign_packComponents, hsign, if_neg hones, if_neg hzero, hmant, hexp]
  congr 1
  change ((e + 1075).toNat : Int) - (1023 + 52) = e
  omega

/-- The 64 bits of a normal double, as a number: the sign bit, the biased exponent, and the
mantissa without its leading bit. -/
theorem pack_toNat (h : NormalParts m e) (s : Sign) :
    (UnpackedFloat.pack Format.binary64 (.finite s m e h.pos)).toNat =
      s.toBitVec.toNat * 2 ^ 63 + (e + 1075).toNat * 2 ^ 52 + m % 2 ^ 52 := by
  have := h.least
  have := h.most
  rw [pack_normal h s]
  change (s.toBitVec ++ BitVec.ofNat 11 (e + 1075).toNat ++ BitVec.ofNat 52 m).toNat = _
  have hsign : s.toBitVec.toNat < 2 := s.toBitVec.isLt
  simp only [BitVec.toNat_append, BitVec.toNat_ofNat]
  rw [← Nat.shiftLeft_add_eq_or_of_lt (Nat.mod_lt _ (Nat.two_pow_pos 11)),
    ← Nat.shiftLeft_add_eq_or_of_lt (Nat.mod_lt m (Nat.two_pow_pos 52)), Nat.shiftLeft_eq,
    Nat.shiftLeft_eq]
  omega

/-- Whether a sign is negative, as the printer reads it off the sign bit. -/
def signBit : Sign → Bool
  | .negative => true
  | .positive => false

/-- The printer reads a normal double's bits back as its sign and parts. -/
theorem ofFloat_pack (h : NormalParts m e) (s : Sign) :
    Binary.ofFloat (Float.ofModel (Float.Model.pack (.finite s m e h.pos))) =
      .finite (signBit s) m e := by
  have := h.least
  have := h.most
  have := h.low
  have := h.high
  have hbits : (Float.ofModel (Float.Model.pack (.finite s m e h.pos))).toBits.toNat =
      s.toBitVec.toNat * 2 ^ 63 + (e + 1075).toNat * 2 ^ 52 + m % 2 ^ 52 :=
    pack_toNat h s
  have hsign : s.toBitVec.toNat < 2 := s.toBitVec.isLt
  simp only [Binary.ofFloat, hbits]
  have hneg : (s.toBitVec.toNat * 2 ^ 63 + (e + 1075).toNat * 2 ^ 52 + m % 2 ^ 52) / 2 ^ 63 % 2 =
      s.toBitVec.toNat := by omega
  have hexp : (s.toBitVec.toNat * 2 ^ 63 + (e + 1075).toNat * 2 ^ 52 + m % 2 ^ 52) / 2 ^ 52 % 2048 =
      (e + 1075).toNat := by omega
  have hfrac : (s.toBitVec.toNat * 2 ^ 63 + (e + 1075).toNat * 2 ^ 52 + m % 2 ^ 52) % 2 ^ 52 =
      m % 2 ^ 52 := by omega
  rw [hneg, hexp, hfrac, if_neg (by simp only [beq_iff_eq]; omega),
    if_neg (by simp only [beq_iff_eq]; omega)]
  congr 1
  · cases s <;> rfl
  · omega
  · omega

end

/-! ## Doubles of integers -/

/-- The double of a positive integer below `2^53`: the integer shifted up to 53 bits. -/
theorem ofNat_toModel {n : Nat} (hn : 0 < n) (hlt : n < 2 ^ 53) :
    (Float.ofNat n).toModel =
      Float.Model.pack (.finite .positive (n * 2 ^ (52 - n.log2)) (-((52 - n.log2 : Nat) : Int))
        (NormalParts.of_small hn hlt).pos) := by
  have h := NormalParts.of_small hn hlt
  -- below `2^53` the conversion multiplies the exact conversion of the integer by the double one
  have hone : (Float.ofBits 0x3FF0000000000000).toModel.unpack =
      .finite .positive (2 ^ 52) (-52) (by decide) := by rfl
  have hword : n.toUInt64.toNat = n :=
    UInt64.toNat_ofNat_of_lt' (by rw [show UInt64.size = 2 ^ 64 from rfl]; omega)
  have hconv : (n.toUInt64.toFloat).toModel.unpack =
      .finite .positive (n * 2 ^ (52 - n.log2)) (-((52 - n.log2 : Nat) : Int)) h.pos := by
    change UnpackedFloat.unpack _ (UnpackedFloat.pack _ (UnpackedFloat.ofNat _ n.toUInt64.toNat)) = _
    rw [hword, ofNat_small hn hlt, unpack_pack h]
  change (Float.ofScientific n false 0).toModel = _
  rw [Float.ofScientific, dif_pos ⟨hlt, by decide⟩]
  change Float.Model.mul (n.toUInt64.toFloat).toModel (Float.ofBits 0x3FF0000000000000).toModel = _
  rw [Float.Model.mul, hconv, hone]
  change Float.Model.pack (roundWithAccuracy Format.binary64 .positive
    (n * 2 ^ (52 - n.log2) * 2 ^ 52) (-((52 - n.log2 : Nat) : Int) + -52) .exact) = _
  rw [show -((52 - n.log2 : Nat) : Int) + -52 = -((52 - n.log2 : Nat) : Int) - (52 : Nat) by omega,
    roundWithAccuracy_scaled h .positive 52]

/-- Negating a double flips its sign bit. -/
theorem neg_toModel {x : Float} {m : Nat} {e : Int} (h : NormalParts m e)
    (hx : x.toModel = Float.Model.pack (.finite .positive m e h.pos)) :
    (-x).toModel = Float.Model.pack (.finite .negative m e h.pos) := by
  change Float.Model.pack x.toModel.unpack.neg = _
  rw [hx]
  change Float.Model.pack (UnpackedFloat.unpack _ (UnpackedFloat.pack _ _)).neg = _
  rw [unpack_pack h]
  rfl

/-- The text of a whole double `±(n * 2^j) * 2^-j` is the integer `±n`. -/
theorem wholeText?_scaled (neg : Bool) (n j : Nat) :
    (if (Binary.finite neg (n * 2 ^ j) (-(j : Int))).isWhole then
      (Binary.finite neg (n * 2 ^ j) (-(j : Int))).trunc?.map toString else none) =
      some (toString (if neg then -(n : Int) else n)) := by
  have hwhole : (Binary.finite neg (n * 2 ^ j) (-(j : Int))).isWhole = true := by
    simp [Binary.isWhole, isWhole, Nat.mul_mod_left]
  have htrunc : truncPart (n * 2 ^ j) (-(j : Int)) = n := by
    unfold truncPart
    split
    · rename_i hj
      rw [show j = 0 by omega]
      simp
    · rw [show (-(-(j : Int))).toNat = j by omega, Nat.mul_div_cancel _ (Nat.two_pow_pos j)]
  rw [if_pos hwhole]
  simp [Binary.trunc?, htrunc]

/-- A double that is the normal double `±(n * 2^j) * 2^-j` is shown as the integer `±n`. -/
theorem formatNumber_scaled {x : Float} {s : Sign} {n j : Nat} (h : NormalParts (n * 2 ^ j) (-(j : Int)))
    (hx : x.toModel = Float.Model.pack (.finite s (n * 2 ^ j) (-(j : Int)) h.pos)) :
    formatNumber x = toString (if signBit s then -(n : Int) else n) := by
  have hb : Binary.ofFloat x = .finite (signBit s) (n * 2 ^ j) (-(j : Int)) := by
    rw [show x = Float.ofModel x.toModel from rfl, hx, ofFloat_pack h s]
  simp only [formatNumber, wholeText?, hb, wholeText?_scaled]

/-- An integer of magnitude at most `2^53` is shown with all its digits. -/
theorem formatNumber_ofInt {k : Int} (hk : k.natAbs ≤ 2 ^ 53) :
    formatNumber (Float.ofInt k) = toString k := by
  rcases k with n | j
  · -- zero and `2^53` are shown as computed; every integer between goes through the model
    rcases Nat.eq_zero_or_pos n with rfl | hn
    · decide +kernel
    rcases Nat.lt_or_ge n (2 ^ 53) with hlt | hge
    · exact formatNumber_scaled (NormalParts.of_small hn hlt) (ofNat_toModel hn hlt)
    · obtain rfl : n = 2 ^ 53 := by
        change n ≤ 2 ^ 53 at hk
        omega
      decide +kernel
  · rcases Nat.lt_or_ge (j + 1) (2 ^ 53) with hlt | hge
    · have h := NormalParts.of_small (Nat.succ_pos j) hlt
      exact formatNumber_scaled h (neg_toModel h (ofNat_toModel (Nat.succ_pos j) hlt))
    · obtain rfl : j = 2 ^ 53 - 1 := by simp only [Int.natAbs_negSucc] at hk; omega
      decide +kernel

end CallBasic.Decimal
