import Mathlib.Algebra.Order.Field.Power
import Mathlib.Data.Rat.Cast.Order
import Mathlib.Tactic.FieldSimp
import Mathlib.Tactic.Linarith
import Mathlib.Tactic.Positivity
import Overdub.Binary64
import Overdub.Proofs.Nearest

/-!
Floats as rational numbers. A quotient is rounded on a grid whose step grows with its binade; the
powers of two are on every finer grid, so rounding keeps the order of quotients, and with it
products, quotients of floats and whole numbers keep theirs.
-/

namespace Overdub.Dyadic

def value (d : Dyadic) : ℚ := d.mantissa * (2 : ℚ) ^ d.exponent

theorem value_nonneg (d : Dyadic) : 0 ≤ d.value := by
  unfold value
  positivity

theorem zpow_eq_div (e : Int) : (2 : ℚ) ^ e = (2 ^ e.toNat : Nat) / (2 ^ (-e).toNat : Nat) := by
  rcases Int.le_total 0 e with h | h
  · obtain ⟨n, rfl⟩ := Int.eq_ofNat_of_zero_le h
    simp
  · obtain ⟨n, rfl⟩ := Int.exists_eq_neg_ofNat h
    simp

theorem le_div_iff_zpow {n d : Nat} (hd : 0 < d) (e : Int) :
    d * 2 ^ e.toNat ≤ n * 2 ^ (-e).toNat ↔ (2 : ℚ) ^ e ≤ n / d := by
  have hd : (0 : ℚ) < d := by exact_mod_cast hd
  rw [zpow_eq_div, div_le_div_iff₀ (by positivity) hd, mul_comm]
  exact_mod_cast Iff.rfl

theorem binade_spec {n d : Nat} (hn : 0 < n) (hd : 0 < d) :
    (2 : ℚ) ^ binade n d ≤ n / d ∧ (n : ℚ) / d < 2 ^ (binade n d + 1) := by
  have hd' : (0 : ℚ) < d := by exact_mod_cast hd
  have hn' : (0 : ℚ) < n := by exact_mod_cast hn
  -- Numerator and denominator lie in binades of their own.
  have own : ∀ k : Nat, 0 < k → (2 : ℚ) ^ (k.log2 : Int) ≤ k ∧ (k : ℚ) < 2 ^ (k.log2 + 1 : Int) := by
    intro k hk
    have low := Nat.log2_self_le (Nat.ne_of_gt hk)
    have high := @Nat.lt_log2_self k
    refine ⟨by exact_mod_cast low, by exact_mod_cast high⟩
  obtain ⟨lowN, highN⟩ := own n hn
  obtain ⟨lowD, highD⟩ := own d hd
  have two : (2 : ℚ) ≠ 0 := by norm_num
  have below : (2 : ℚ) ^ ((n.log2 : Int) - d.log2 - 1) ≤ n / d := by
    rw [le_div_iff₀ hd']
    calc (2 : ℚ) ^ ((n.log2 : Int) - d.log2 - 1) * d
        ≤ 2 ^ ((n.log2 : Int) - d.log2 - 1) * 2 ^ (d.log2 + 1 : Int) := by gcongr
      _ = 2 ^ (n.log2 : Int) := by rw [← zpow_add₀ two]; congr 1; omega
      _ ≤ n := lowN
  have above : (n : ℚ) / d < 2 ^ ((n.log2 : Int) - d.log2 + 1) := by
    rw [div_lt_iff₀ hd']
    calc (n : ℚ) < 2 ^ (n.log2 + 1 : Int) := highN
      _ = 2 ^ ((n.log2 : Int) - d.log2 + 1) * 2 ^ (d.log2 : Int) := by
        rw [← zpow_add₀ two]; congr 1; omega
      _ ≤ 2 ^ ((n.log2 : Int) - d.log2 + 1) * d := by gcongr
  unfold binade
  dsimp only
  split
  · next h => exact ⟨(le_div_iff_zpow hd _).mp h, above⟩
  · next h =>
    rw [le_div_iff_zpow hd, not_le] at h
    refine ⟨below, ?_⟩
    rwa [Int.sub_add_cancel]

def step (n d : Nat) : Int := max (binade n d - 52) (-1074)

theorem value_ofRatio {n d : Nat} (hn : 0 < n) :
    (ofRatio n d).value = roundEven (n * 2 ^ (-step n d).toNat) (d * 2 ^ (step n d).toNat) *
      (2 : ℚ) ^ step n d := by
  rw [ofRatio, if_neg (Nat.ne_of_gt hn)]
  rfl

theorem div_step {n d : Nat} (e : Int) :
    ((n * 2 ^ (-e).toNat : Nat) : ℚ) / (d * 2 ^ e.toNat : Nat) * 2 ^ e = n / d := by
  rw [zpow_eq_div]
  push_cast
  field_simp

theorem value_ofRatio_le {n d m : Nat} (hn : 0 < n) (hd : 0 < d)
    (h : (n : ℚ) / d ≤ m * 2 ^ step n d) : (ofRatio n d).value ≤ m * 2 ^ step n d := by
  have pos : 0 < d * 2 ^ (step n d).toNat := Nat.mul_pos hd (Nat.two_pow_pos _)
  rw [← div_step (step n d), mul_le_mul_iff_left₀ (by positivity),
    div_le_iff₀ (by exact_mod_cast pos)] at h
  rw [value_ofRatio hn]
  gcongr
  exact roundEven_le pos (by exact_mod_cast h)

theorem le_value_ofRatio {n d m : Nat} (hn : 0 < n) (hd : 0 < d)
    (h : m * 2 ^ step n d ≤ (n : ℚ) / d) : m * 2 ^ step n d ≤ (ofRatio n d).value := by
  have pos : 0 < d * 2 ^ (step n d).toNat := Nat.mul_pos hd (Nat.two_pow_pos _)
  rw [← div_step (step n d), mul_le_mul_iff_left₀ (by positivity),
    le_div_iff₀ (by exact_mod_cast pos)] at h
  rw [value_ofRatio hn]
  gcongr
  exact le_roundEven pos (by exact_mod_cast h)

theorem exists_mul_zpow {s e : Int} (h : s ≤ e) : ∃ m : Nat, (m : ℚ) * 2 ^ s = 2 ^ e := by
  obtain ⟨k, hk⟩ := Int.eq_ofNat_of_zero_le (Int.sub_nonneg.mpr h)
  refine ⟨2 ^ k, ?_⟩
  rw [Nat.cast_pow, ← zpow_natCast, Nat.cast_ofNat, ← zpow_add₀ (by norm_num), ← hk,
    Int.sub_add_cancel]

theorem value_ofRatio_le_zpow {n d : Nat} (hn : 0 < n) (hd : 0 < d) {e : Int} (grid : step n d ≤ e)
    (h : (n : ℚ) / d ≤ 2 ^ e) : (ofRatio n d).value ≤ 2 ^ e := by
  obtain ⟨m, power⟩ := exists_mul_zpow grid
  rw [← power] at h ⊢
  exact value_ofRatio_le hn hd h

theorem zpow_le_value_ofRatio {n d : Nat} (hn : 0 < n) (hd : 0 < d) {e : Int} (grid : step n d ≤ e)
    (h : 2 ^ e ≤ (n : ℚ) / d) : 2 ^ e ≤ (ofRatio n d).value := by
  obtain ⟨m, power⟩ := exists_mul_zpow grid
  rw [← power] at h ⊢
  exact le_value_ofRatio hn hd h

theorem binade_mono {n d n' d' : Nat} (hn : 0 < n) (hd : 0 < d) (hn' : 0 < n') (hd' : 0 < d')
    (h : (n : ℚ) / d ≤ n' / d') : binade n d ≤ binade n' d' := by
  have low := (binade_spec hn hd).1
  have high := (binade_spec hn' hd').2
  have := (zpow_lt_zpow_iff_right₀ (by norm_num : (1 : ℚ) < 2)).mp
    (low.trans_lt (h.trans_lt high))
  omega

theorem value_ofRatio_mono {n d n' d' : Nat} (hd : 0 < d) (hd' : 0 < d')
    (h : (n : ℚ) / d ≤ n' / d') : (ofRatio n d).value ≤ (ofRatio n' d').value := by
  rcases Nat.eq_zero_or_pos n with rfl | hn
  · have zero : (ofRatio 0 d).value = 0 := by simp [ofRatio, value]
    rw [zero]
    exact value_nonneg _
  have hn' : 0 < n' := by
    have := (div_pos (Nat.cast_pos.mpr hn) (Nat.cast_pos.mpr hd)).trans_le h
    rw [div_pos_iff_of_pos_right (Nat.cast_pos.mpr hd')] at this
    exact Nat.cast_pos.mp this
  have up := binade_mono hn hd hn' hd' h
  have steps : step n d ≤ step n' d' := by
    unfold step
    omega
  rcases Int.lt_or_eq_of_le steps with finer | same
  · -- The power of two where the binade of the greater one starts is on both grids.
    have later : binade n d + 1 ≤ binade n' d' := by
      unfold step at *
      omega
    have grid' : step n' d' ≤ binade n' d' := by
      unfold step at *
      omega
    have below : (n : ℚ) / d ≤ 2 ^ binade n' d' :=
      (binade_spec hn hd).2.le.trans (zpow_le_zpow_right₀ (by norm_num) later)
    exact (value_ofRatio_le_zpow hn hd (finer.le.trans grid') below).trans
      (zpow_le_value_ofRatio hn' hd' grid' (binade_spec hn' hd').1)
  · rw [value_ofRatio hn, value_ofRatio hn', same]
    gcongr
    have pos := Nat.mul_pos hd (Nat.two_pow_pos (step n' d').toNat)
    have pos' := Nat.mul_pos hd' (Nat.two_pow_pos (step n' d').toNat)
    apply roundEven_mono pos pos'
    rw [← div_step (n := n) (step n' d'), ← div_step (n := n') (step n' d'),
      mul_le_mul_iff_left₀ (by positivity),
      div_le_div_iff₀ (by exact_mod_cast pos) (by exact_mod_cast pos')] at h
    exact_mod_cast h

theorem value_ofNat_mono {a b : Nat} (h : a ≤ b) : (ofNat a).value ≤ (ofNat b).value := by
  apply value_ofRatio_mono Nat.one_pos Nat.one_pos
  gcongr

theorem value_mul_mono {a a' : Dyadic} (b : Dyadic) (h : a.value ≤ a'.value) :
    (a.mul b).value ≤ (a'.mul b).value := by
  have exact : ∀ a : Dyadic, ((a.mantissa * b.mantissa * 2 ^ (a.exponent + b.exponent).toNat : Nat) : ℚ) /
      (2 ^ (-(a.exponent + b.exponent)).toNat : Nat) = a.value * b.value := by
    intro a
    rw [Nat.cast_mul, mul_div_assoc, ← zpow_eq_div, zpow_add₀ (by norm_num), Nat.cast_mul,
      mul_mul_mul_comm]
    rfl
  apply value_ofRatio_mono (Nat.two_pow_pos _) (Nat.two_pow_pos _)
  rw [exact, exact]
  exact mul_le_mul_of_nonneg_right h b.value_nonneg

theorem value_div_mono {a a' b : Dyadic} (hb : 0 < b.mantissa) (h : a.value ≤ a'.value) :
    (a.div b).value ≤ (a'.div b).value := by
  have exact : ∀ a : Dyadic, ((a.mantissa * 2 ^ (a.exponent - b.exponent).toNat : Nat) : ℚ) /
      (b.mantissa * 2 ^ (-(a.exponent - b.exponent)).toNat : Nat) = a.value / b.value := by
    intro a
    rw [Nat.cast_mul, Nat.cast_mul, mul_div_mul_comm, ← zpow_eq_div, zpow_sub₀ (by norm_num),
      ← mul_div_mul_comm]
    rfl
  have pos : ∀ n : Nat, 0 < b.mantissa * 2 ^ n := fun n => Nat.mul_pos hb (Nat.two_pow_pos n)
  apply value_ofRatio_mono (pos _) (pos _)
  rw [exact, exact]
  exact div_le_div_of_nonneg_right h b.value_nonneg

theorem toWord_mono {a b : Dyadic} (h : a.value ≤ b.value) : a.toWord ≤ b.toWord := by
  have exact : ∀ a : Dyadic, a.value =
      ((a.mantissa * 2 ^ a.exponent.toNat : Nat) : ℚ) / (2 ^ (-a.exponent).toNat : Nat) := by
    intro a
    rw [Nat.cast_mul, mul_div_assoc, ← zpow_eq_div]
    rfl
  rw [exact, exact, div_le_div_iff₀ (by positivity) (by positivity)] at h
  have : roundAway (a.mantissa * 2 ^ a.exponent.toNat : Nat) (2 ^ (-a.exponent).toNat) ≤
      roundAway (b.mantissa * 2 ^ b.exponent.toNat : Nat) (2 ^ (-b.exponent).toNat) :=
    roundAway_mono (Nat.two_pow_pos _) (Nat.two_pow_pos _) (by exact_mod_cast h)
  unfold toWord
  omega

open Float.Model in
theorem mantissa_ofFloat_pos {x : Float} (pos : 0 < x) : 0 < (ofFloat x).mantissa := by
  have above : Float.Model.lt (0 : Float).toModel x.toModel = true := of_decide_eq_true pos
  change UnpackedFloat.lt (.zero .positive) x.toModel.unpack = true at above
  apply Nat.pos_of_ne_zero
  intro none
  unfold ofFloat ofBits at none
  dsimp only at none
  split at none
  · next small =>
    -- Exponent and mantissa are zero, so `x` is a zero of either sign.
    change x.toModel.toBits.toNat / 2 ^ 52 % 2 ^ 11 = 0 at small
    change x.toModel.toBits.toNat % 2 ^ 52 = 0 at none
    have mantissa :
        @UnpackedFloat.unpackMantissa Format.binary64 x.toModel.toBits.toBitVec = 0#52 := by
      apply BitVec.eq_of_toNat_eq
      simpa [UnpackedFloat.unpackMantissa, BitVec.extractLsb] using none
    have exponent :
        @UnpackedFloat.unpackExponent Format.binary64 x.toModel.toBits.toBitVec = 0#11 := by
      apply BitVec.eq_of_toNat_eq
      simpa [UnpackedFloat.unpackExponent, BitVec.extractLsb, Nat.shiftRight_eq_div_pow] using small
    have zero : ∃ s, x.toModel.unpack = .zero s := by
      unfold unpack UnpackedFloat.unpack
      dsimp only
      rw [exponent, if_neg (by decide), if_pos rfl, dif_pos mantissa]
      exact ⟨_, rfl⟩
    obtain ⟨s, zero⟩ := zero
    rw [zero] at above
    cases s <;> exact absurd above (by decide)
  · change _ + 2 ^ 52 = 0 at none
    omega

end Overdub.Dyadic
