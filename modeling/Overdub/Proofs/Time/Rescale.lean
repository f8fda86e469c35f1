import Mathlib.Tactic.Ring
import Overdub.Proofs.Nearest
import Overdub.Time.Base

/-!
Moving tick counts between clocks. On its own clock a tick count stays as it is, up to the ends of
the range.
-/

namespace Overdub

namespace Ticks

theorem least_le_zero : least ≤ 0 := by decide

theorem zero_le_most : 0 ≤ most := by decide

theorem least_le_clamp (n : Int) : least ≤ clamp n := le_clampTo n

theorem clamp_le {m n : Int} (low : least ≤ m) (h : n ≤ m) : clamp n ≤ m := by
  unfold clamp clampTo
  omega

theorem le_clamp {n : Int} (high : n ≤ most) : n ≤ clamp n := by
  unfold clamp clampTo
  omega

theorem clamp_mono {n m : Int} (le : n ≤ m) : clamp n ≤ clamp m := by
  unfold clamp clampTo
  omega

theorem clamp_of_mem {n : Int} (low : least ≤ n) (high : n ≤ most) : clamp n = n :=
  clampTo_of_mem low high

theorem clamp_clamp (n : Int) : clamp (clamp n) = clamp n :=
  clamp_of_mem (least_le_clamp n) (clampTo_le (by decide) n)

theorem valid_clamp (n : Int) : Valid (clamp n) := ⟨least_le_clamp n, clampTo_le (by decide) n⟩

theorem clamp_le_self {n : Int} (hn : 0 ≤ n) : clamp n ≤ n :=
  clamp_le (Int.le_trans least_le_zero hn) (Int.le_refl n)

end Ticks

namespace TimeBase

theorem num_pos (b : TimeBase) : 0 < b.num.toNat :=
  Nat.pos_of_ne_zero fun e => b.num_ne (UInt32.toNat_inj.mp e)

theorem den_pos (b : TimeBase) : 0 < b.den.toNat :=
  Nat.pos_of_ne_zero fun e => b.den_ne (UInt32.toNat_inj.mp e)

theorem rescale_self (b : TimeBase) (n : Int) : b.rescale n b = Ticks.clamp n := by
  have whole : n * b.num.toNat * b.den.toNat = n * (b.den.toNat * b.num.toNat : Nat) := by
    rw [Nat.cast_mul]
    ring
  rw [rescale, whole, roundAway_mul (Nat.mul_pos b.den_pos b.num_pos)]

@[simp] theorem rescale_zero (b c : TimeBase) : b.rescale 0 c = 0 := by
  have nothing := roundAway_mul (Nat.mul_pos b.den_pos c.num_pos) 0
  rw [Int.zero_mul] at nothing
  rw [rescale, Int.zero_mul, Int.zero_mul, nothing]
  decide

theorem rescale_self_of_mem (b : TimeBase) {n : Int} (low : Ticks.least ≤ n) (high : n ≤ Ticks.most) :
    b.rescale n b = n := by
  rw [rescale_self, Ticks.clamp_of_mem low high]

end TimeBase

end Overdub
