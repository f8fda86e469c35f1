import Overdub.Playback.Gains

/-!
Whole numbers as floats. A number of at most 53 binary digits has a float of its own; a gain of one
leaves that float alone, and its whole part is the number.
-/

namespace Overdub

open Float.Model (UnpackedFloat totalExponent)
open Float.Model.Format (binary64)
open Float.Model.UnpackedFloat (Sign ExtendedMantissa)

section Pack

@[simp] theorem unpackSign_packComponents {spec : Float.Model.Format} {s : Sign}
    {e : BitVec spec.exponentBits} {m : BitVec spec.mantissaBitsWithoutImplicit} :
    UnpackedFloat.unpackSign (UnpackedFloat.packComponents spec s e m) = s.toBitVec := by
  apply BitVec.eq_of_getLsbD_eq
  intro i hi
  obtain rfl : i = 0 := by omega
  unfold UnpackedFloat.unpackSign UnpackedFloat.packComponents
  simp [BitVec.getLsbD_append, BitVec.getElem_append]

@[simp] theorem ofBitVec_toBitVec (s : Sign) : Sign.ofBitVec s.toBitVec = s := by
  cases s <;> rfl

theorem toNat_append_ofNat {m : Nat} (le : 2 ^ 52 ≤ m) (lt : m < 2 ^ 53) :
    (1#1 ++ BitVec.ofNat 52 m).toNat = m := by
  rw [BitVec.toNat_append, ← Nat.shiftLeft_add_eq_or_of_lt (BitVec.ofNat 52 m).isLt]
  simp [Nat.shiftLeft_eq]
  omega

theorem finite_congr {s s' : Sign} {m m' : Nat} {e e' : Int} {pos : 0 < m} {pos' : 0 < m'}
    (sign : s = s') (mantissa : m = m') (exponent : e = e') :
    UnpackedFloat.finite s m e pos = .finite s' m' e' pos' := by
  subst sign mantissa exponent
  rfl

theorem exponentBias_eq : binary64.exponentBias = 1023 := by decide

theorem mantissaBits_eq : binary64.mantissaBitsWithoutImplicit = 52 := rfl

end Pack

structure IsNormal (m : Nat) (e : Int) : Prop where
  le_mantissa : 2 ^ 52 ≤ m
  mantissa_lt : m < 2 ^ 53
  le_exponent : -1074 ≤ e
  exponent_le : e ≤ 971

namespace IsNormal

variable {m : Nat} {e : Int}

theorem pos (h : IsNormal m e) : 0 < m := Nat.lt_of_lt_of_le (by decide) h.le_mantissa

theorem log2_eq (h : IsNormal m e) : m.log2 = 52 :=
  (Nat.log2_eq_iff (Nat.ne_of_gt h.pos)).mpr ⟨h.le_mantissa, h.mantissa_lt⟩

theorem targetExponent_eq (h : IsNormal m e) :
    binary64.targetExponent (totalExponent m e) = e := by
  have := h.le_exponent
  have least : binary64.minExponent = -1074 := by decide
  have digits : binary64.mantissaBits = 53 := by decide
  unfold Float.Model.Format.targetExponent totalExponent
  rw [least, digits, h.log2_eq]
  omega

def float (h : IsNormal m e) (s : Sign) : Float := .ofModel (.pack (.finite s m e h.pos))

theorem exists_biased (h : IsNormal m e) : ∃ b : Nat, e = b - 1075 ∧ 0 < b ∧ b < 2047 := by
  have low := h.le_exponent
  have high := h.exponent_le
  exact ⟨(e + 1075).toNat, by omega, by omega, by omega⟩

theorem pack_eq (h : IsNormal m e) (s : Sign) {b : Nat} (biased : e = b - 1075) (some : 0 < b) :
    UnpackedFloat.pack binary64 (.finite s m e h.pos) =
      UnpackedFloat.packComponents binary64 s (BitVec.ofNat 11 b) (BitVec.ofNat 52 m) := by
  have exponent : (e + binary64.exponentBias + binary64.mantissaBitsWithoutImplicit).toNat = b := by
    rw [exponentBias_eq, mantissaBits_eq]
    omega
  unfold UnpackedFloat.pack
  simp only [exponent, h.log2_eq]
  rw [if_neg (by have high := h.exponent_le; omega), if_pos (by decide)]

theorem unpack_float (h : IsNormal m e) (s : Sign) :
    (h.float s).toModel.unpack = .finite s m e h.pos := by
  obtain ⟨b, biased, low, high⟩ := h.exists_biased
  have kept : (BitVec.ofNat 11 b).toNat = b := by
    rw [BitVec.toNat_ofNat, Nat.mod_eq_of_lt (by omega)]
  have some : BitVec.ofNat 11 b ≠ 0#_ := by
    intro none
    have := congrArg BitVec.toNat none
    rw [kept, BitVec.toNat_zero] at this
    omega
  have finite : BitVec.ofNat 11 b ≠ -1#_ := by
    intro all
    have := congrArg BitVec.toNat all
    have top : (-1#11).toNat = 2047 := by decide
    rw [kept] at this
    omega
  change UnpackedFloat.unpack binary64 (UnpackedFloat.pack binary64 (.finite s m e h.pos)) = _
  rw [h.pack_eq s biased low]
  unfold UnpackedFloat.unpack
  dsimp only
  rw [if_neg (by rwa [UnpackedFloat.unpackExponent_packComponents]),
    if_neg (by rwa [UnpackedFloat.unpackExponent_packComponents])]
  apply finite_congr
  · rw [unpackSign_packComponents, ofBitVec_toBitVec]
  · rw [UnpackedFloat.unpackMantissa_packComponents]
    exact toNat_append_ofNat h.le_mantissa h.mantissa_lt
  · rw [UnpackedFloat.unpackExponent_packComponents, kept, exponentBias_eq]
    omega

end IsNormal

theorem log2_mul_two_pow {n : Nat} (some : n ≠ 0) (k : Nat) : (n * 2 ^ k).log2 = n.log2 + k := by
  induction k with
  | zero => rw [Nat.pow_zero, Nat.mul_one, Nat.add_zero]
  | succ k ih =>
    have more : n * 2 ^ (k + 1) = 2 * (n * 2 ^ k) := by rw [Nat.pow_succ]; ac_rfl
    rw [more, Nat.log2_two_mul (Nat.mul_ne_zero some (Nat.ne_of_gt (Nat.two_pow_pos k))), ih,
      Nat.add_assoc]

theorem totalExponent_mul_two_pow {n : Nat} (some : n ≠ 0) (e : Int) (k : Nat) :
    totalExponent (n * 2 ^ k) (e - k) = totalExponent n e := by
  unfold totalExponent
  rw [log2_mul_two_pow some]
  omega

theorem shiftRight_exact (m k : Nat) :
    (⟨m * 2 ^ k, false, false⟩ : ExtendedMantissa) >>> k = ⟨m, false, false⟩ := by
  change k.repeat ExtendedMantissa.shiftRightOne _ = _
  induction k generalizing m with
  | zero => simp [Nat.repeat]
  | succ k ih =>
    have more : m * 2 ^ (k + 1) = 2 * m * 2 ^ k := by rw [Nat.pow_succ]; ac_rfl
    rw [Nat.repeat, more, ih]
    simp [ExtendedMantissa.shiftRightOne]

namespace IsNormal

variable {m : Nat} {e : Int}

theorem shiftToTargetExponent_eq (h : IsNormal m e) (k : Nat) :
    UnpackedFloat.shiftToTargetExponent binary64 (m * 2 ^ k) (e - k) .exact =
      (⟨m, false, false⟩, e) := by
  have target : binary64.targetExponent (totalExponent (m * 2 ^ k) (e - k)) = e := by
    rw [totalExponent_mul_two_pow (Nat.ne_of_gt h.pos), h.targetExponent_eq]
  have size : (e - (e - k)).toNat = k := by omega
  unfold UnpackedFloat.shiftToTargetExponent UnpackedFloat.shiftToExponent
  simp only [target, size]
  rw [UnpackedFloat.ExtendedMantissa.ofMantissaAndAccuracy, shiftRight_exact, Int.sub_add_cancel]

theorem roundWithAccuracy_eq (h : IsNormal m e) (s : Sign) (k : Nat) :
    UnpackedFloat.roundWithAccuracy binary64 s (m * 2 ^ k) (e - k) .exact = .finite s m e h.pos := by
  have whole : UnpackedFloat.shiftToTargetExponent binary64 m e .exact = (⟨m, false, false⟩, e) := by
    have none := h.shiftToTargetExponent_eq 0
    rwa [Nat.pow_zero, Nat.mul_one, Int.natCast_zero, Int.sub_zero] at none
  have rounded : ExtendedMantissa.roundedMantissa ⟨m, false, false⟩ = m := rfl
  unfold UnpackedFloat.roundWithAccuracy
  rw [h.shiftToTargetExponent_eq k]
  dsimp only
  rw [rounded, whole]
  exact dif_neg (Nat.ne_of_gt h.pos)

theorem neg_float (h : IsNormal m e) (s : Sign) : -h.float s = h.float (-s) := by
  change Float.ofModel (.pack (h.float s).toModel.unpack.neg) = _
  rw [h.unpack_float]
  rfl

theorem isNormal_one : IsNormal (2 ^ 52) (-52) := by constructor <;> decide

theorem one_eq : (1 : Float) = isNormal_one.float .positive := by decide +kernel

theorem float_mul_one (h : IsNormal m e) (s : Sign) : h.float s * 1 = h.float s := by
  have sign : s * Sign.positive = s := by cases s <;> rfl
  change Float.ofModel (.pack (UnpackedFloat.mul binary64 (h.float s).toModel.unpack
    (1 : Float).toModel.unpack)) = _
  rw [one_eq, h.unpack_float, isNormal_one.unpack_float]
  unfold UnpackedFloat.mul
  dsimp only
  rw [sign]
  exact congrArg (fun x => Float.ofModel (.pack x)) (h.roundWithAccuracy_eq s 52)

end IsNormal

theorem exists_isNormal {n : Nat} (some : n ≠ 0) (lt : n < 2 ^ 53) :
    ∃ k : Nat, IsNormal (n * 2 ^ k) (-k) := by
  have log : n.log2 ≤ 52 := Nat.le_of_lt_succ ((Nat.log2_lt some).mpr lt)
  have digits : (n * 2 ^ (52 - n.log2)).log2 = 52 := by
    rw [log2_mul_two_pow some]
    omega
  have pos : n * 2 ^ (52 - n.log2) ≠ 0 :=
    Nat.mul_ne_zero some (Nat.ne_of_gt (Nat.two_pow_pos _))
  obtain ⟨low, high⟩ := (Nat.log2_eq_iff pos).mp digits
  exact ⟨52 - n.log2, low, high, by omega, by omega⟩

section Float

variable {n k : Nat}

theorem toFloat_eq (h : IsNormal (n * 2 ^ k) (-k)) (lt : n < 2 ^ 64) :
    n.toUInt64.toFloat = h.float .positive := by
  have some : n ≠ 0 := fun none => Nat.ne_of_gt h.pos (by rw [none, Nat.zero_mul])
  have digits : n.toUInt64.toNat = n := UInt64.toNat_ofNat_of_lt' lt
  have target : binary64.targetExponent (totalExponent n 0) = -k := by
    rw [← totalExponent_mul_two_pow some 0 k, Int.zero_sub, h.targetExponent_eq]
  have round : UnpackedFloat.round binary64 .positive n 0 =
      .finite .positive (n * 2 ^ k) (-k) h.pos := by
    have none := h.roundWithAccuracy_eq .positive 0
    rw [Nat.pow_zero, Nat.mul_one, Int.natCast_zero, Int.sub_zero] at none
    refine Eq.trans ?_ none
    unfold UnpackedFloat.round UnpackedFloat.decreaseExponent
    simp only [target, Nat.shiftLeft_eq, Int.zero_sub, Int.neg_neg, Int.toNat_natCast]
  have normalize : UnpackedFloat.normalize binary64 n 0 .positive =
      UnpackedFloat.round binary64 .positive n 0 := by
    have pos : compare (n : Int) 0 = .gt := Int.compare_eq_gt.mpr (by omega)
    unfold UnpackedFloat.normalize
    rw [pos]
    rfl
  change Float.ofModel (.pack (UnpackedFloat.normalize binary64 (n.toUInt64.toNat : Int) 0 .positive)) = _
  rw [digits, normalize, round]
  rfl

theorem toInt_float (h : IsNormal (n * 2 ^ k) (-k)) (s : Sign) (lo hi : Int) :
    (h.float s).toModel.unpack.toInt lo hi = s.apply n := by
  rw [h.unpack_float]
  unfold UnpackedFloat.toInt UnpackedFloat.roundToInt UnpackedFloat.decreaseExponent
    UnpackedFloat.shiftToExponent
  have none : (-(k : Int)).toNat = 0 := by omega
  have size : (0 - -(k : Int)).toNat = k := by omega
  simp only [Int.sub_zero, none, Nat.shiftLeft_zero, Int.natCast_zero, size]
  rw [UnpackedFloat.ExtendedMantissa.ofMantissaAndAccuracy, shiftRight_exact]

theorem toNat_toUInt64 (h : IsNormal (n * 2 ^ k) (-k)) (lt : n < 2 ^ 64) (s : Sign) :
    ((h.float s).toUInt64.toNat : Int) = max 0 (s.apply n) := by
  have part : (h.float s).toUInt64 = UInt64.ofNatClamp (s.apply n).toNat :=
    congrArg (fun i : Int => UInt64.ofNatClamp i.toNat) (toInt_float h s 0 _)
  have fits : (s.apply n).toNat < UInt64.size := by
    have size : UInt64.size = 2 ^ 64 := rfl
    cases s <;> simp only [Sign.apply, size] <;> omega
  rw [part, UInt64.ofNatClamp_eq_ofNat _ fits, UInt64.toNat_ofNat_of_lt' fits]
  omega

theorem wholePart_mul_one {n : Int} (lt : n.natAbs < 2 ^ 53) : wholePart (wholeFloat n * 1) = n := by
  by_cases none : n = 0
  · rw [none]
    decide +kernel
  obtain ⟨k, normal⟩ := exists_isNormal (Int.natAbs_ne_zero.mpr none) lt
  have lt : n.natAbs < 2 ^ 64 := Nat.lt_trans lt (by decide)
  have float : wholeFloat n = normal.float (if n < 0 then .negative else .positive) := by
    unfold wholeFloat
    rw [toFloat_eq normal lt]
    split
    · exact normal.neg_float .positive
    · rfl
  unfold wholePart
  rw [float, normal.float_mul_one, normal.neg_float, toNat_toUInt64 normal lt,
    toNat_toUInt64 normal lt]
  split
  · change max 0 (-(n.natAbs : Int)) - max 0 (n.natAbs : Int) = n
    omega
  · change max 0 (n.natAbs : Int) - max 0 (-(n.natAbs : Int)) = n
    omega

end Float

end Overdub
