import Mathlib.Tactic.Linarith
import Overdub.Number

/-!
Rounding keeps the order of quotients, also where their denominators differ.
-/

namespace Overdub

theorem roundEven_mono {n d n' d' : Nat} (hd : 0 < d) (hd' : 0 < d') (h : n * d' ≤ n' * d) :
    roundEven n d ≤ roundEven n' d' := by
  have split := Nat.div_add_mod n d
  have split' := Nat.div_add_mod n' d'
  have floors : n / d ≤ n' / d' := by
    rw [Nat.le_div_iff_mul_le hd']
    have := Nat.div_mul_le_self n d
    nlinarith
  unfold roundEven
  dsimp only
  rcases Nat.lt_or_eq_of_le floors with lower | same
  · split <;> split <;> omega
  · -- Over the same whole number the rests are in order, so the first only goes up with the second.
    rw [← same] at split' ⊢
    have rests : n % d * d' ≤ n' % d' * d := by nlinarith
    have half : d ≤ 2 * (n % d) → d' ≤ 2 * (n' % d') := by
      intro up
      by_contra down
      nlinarith
    have more : d < 2 * (n % d) → d' < 2 * (n' % d') := by
      intro up
      by_contra down
      nlinarith
    split <;> split <;> omega

theorem roundEven_mul {m d : Nat} (hd : 0 < d) : roundEven (m * d) d = m := by
  unfold roundEven
  dsimp only
  rw [Nat.mul_div_cancel _ hd, Nat.mul_mod_left, if_neg (by omega)]

theorem roundEven_le {n d m : Nat} (hd : 0 < d) (h : n ≤ m * d) : roundEven n d ≤ m := by
  have := roundEven_mono hd hd (Nat.mul_le_mul_right d h)
  rwa [roundEven_mul hd] at this

theorem le_roundEven {n d m : Nat} (hd : 0 < d) (h : m * d ≤ n) : m ≤ roundEven n d := by
  have := roundEven_mono hd hd (Nat.mul_le_mul_right d h)
  rwa [roundEven_mul hd] at this

theorem le_halfUp_iff {d : Nat} (hd : 0 < d) (k n : Int) :
    k ≤ (n + d / 2) / d ↔ 2 * k * d ≤ 2 * n + d := by
  rw [Int.le_ediv_iff_mul_le (by exact_mod_cast hd), Int.mul_assoc]
  omega

end Overdub
