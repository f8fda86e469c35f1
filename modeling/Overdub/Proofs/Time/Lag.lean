import Overdub.Proofs.Time.Rescale

/-!
A moment that is told on one clock by way of another. Every rounding adds up to half a tick, so the
moment may be told a little late. How late is bounded, and on clocks that are close to each other it
is not late at all.
-/

namespace Overdub

namespace TimeBase

theorem roundAway_ticks_nonneg {b c : TimeBase} {n : Int} (hn : 0 ≤ n) :
    0 ≤ roundAway (n * b.num.toNat * c.den.toNat) (b.den.toNat * c.num.toNat) := by
  have ticks : (0 : Int) ≤ n * b.num.toNat * c.den.toNat :=
    Int.mul_nonneg (Int.mul_nonneg hn (Int.natCast_nonneg _)) (Int.natCast_nonneg _)
  unfold roundAway
  rw [if_pos ticks]
  exact Int.ediv_nonneg (by omega) (Int.natCast_nonneg _)

theorem rescale_le_most (b : TimeBase) (n : Int) (c : TimeBase) : b.rescale n c ≤ Ticks.most :=
  clampTo_le (by decide) _

theorem rescale_nonneg {b c : TimeBase} {n : Int} (hn : 0 ≤ n) : 0 ≤ b.rescale n c := by
  have tick := roundAway_ticks_nonneg (b := b) (c := c) hn
  have most := Ticks.zero_le_most
  unfold rescale Ticks.clamp clampTo
  omega

theorem two_mul_rescale_le {a b : UInt32} (ha : a ≠ 0) (hb : b ≠ 0) {n : Int} (hn : 0 ≤ n) :
    2 * ((perSample a ha).rescale n (perSample b hb) * a.toNat) ≤ 2 * (n * b.toNat) + a.toNat := by
  have pos : 0 < a.toNat := Nat.pos_of_ne_zero fun e => ha (UInt32.toNat_inj.mp e)
  have tick := roundAway_ticks_nonneg (b := perSample a ha) (c := perSample b hb) hn
  have round := two_mul_roundAway_le pos (n * b.toNat)
  have least := Ticks.least_le_zero
  have clamped := Ticks.clamp_le (Int.le_trans least tick) (Int.le_refl _)
  have whole : n * (perSample a ha).num.toNat * (perSample b hb).den.toNat = n * b.toNat := by
    simp [perSample]
  have ticks : (perSample a ha).den.toNat * (perSample b hb).num.toNat = a.toNat := by
    simp [perSample]
  rw [whole, ticks] at clamped
  rw [rescale, whole, ticks]
  have := Int.mul_le_mul_of_nonneg_right clamped (Int.natCast_nonneg a.toNat)
  omega

/-- The tick at which something starts that is moved by `d` on the clock `via`. -/
def ofDurationVia (b via : TimeBase) (d : Duration) : Int := via.rescale (via.ofDuration d) b

section Lag

variable {a b : UInt32} {hb : b ≠ 0} {d : Duration} {now : Int}

theorem two_mul_micros_le (hnow : 0 ≤ now) (due : d ≤ (perSample b hb).toDuration now) :
    2 * ((d.micros : Int) * b.toNat) ≤ 2 * (now * 1000000) + b.toNat := by
  have round : 2 * ((perSample b hb).rescale now microseconds * b.toNat) ≤
      2 * (now * 1000000) + b.toNat := two_mul_rescale_le hb (by decide) hnow
  have nonneg := rescale_nonneg (b := perSample b hb) (c := microseconds) hnow
  replace due : d.nanos ≤ ((perSample b hb).rescale now microseconds).toNat * 1000 := due
  have early : (d.micros : Int) ≤ (perSample b hb).rescale now microseconds := by
    unfold Duration.micros
    omega
  have := Int.mul_le_mul_of_nonneg_right early (Int.natCast_nonneg b.toNat)
  omega

theorem ofDuration_nonneg (c : TimeBase) (d : Duration) : 0 ≤ c.ofDuration d := by
  have most := Ticks.zero_le_most
  exact rescale_nonneg (by omega)

theorem two_mul_ofDuration_le (ha : a ≠ 0) (d : Duration) :
    2 * ((perSample a ha).ofDuration d * 1000000) ≤ 2 * (d.micros * a.toNat : Int) + 1000000 := by
  have most := Ticks.zero_le_most
  have round : 2 * ((perSample a ha).ofDuration d * 1000000) ≤
      2 * (min (d.micros : Int) Ticks.most * a.toNat) + 1000000 :=
    two_mul_rescale_le (by decide) ha (by omega)
  have := Int.mul_le_mul_of_nonneg_right (Int.min_le_left (d.micros : Int) Ticks.most)
    (Int.natCast_nonneg a.toNat)
  omega

/-- What is due at `now` is told late by at most half a tick of each of the three clocks. -/
theorem lag_le (ha : a ≠ 0) (hnow : 0 ≤ now) (due : d ≤ (perSample b hb).toDuration now) :
    2 * (((perSample b hb).ofDurationVia (perSample a ha) d - now) * (1000000 * a.toNat)) ≤
      b.toNat * a.toNat + 1000000 * b.toNat + 1000000 * a.toNat := by
  have first := two_mul_micros_le hnow due
  have second := two_mul_ofDuration_le ha d
  have third := two_mul_rescale_le ha hb (ofDuration_nonneg (perSample a ha) d)
  change 2 * ((perSample b hb).ofDurationVia (perSample a ha) d * a.toNat) ≤ _ at third
  generalize (perSample b hb).ofDurationVia (perSample a ha) d = s at third ⊢
  generalize (perSample a ha).ofDuration d = r at second third
  replace first := Int.mul_le_mul_of_nonneg_right first (Int.natCast_nonneg a.toNat)
  replace second := Int.mul_le_mul_of_nonneg_right second (Int.natCast_nonneg b.toNat)
  linarith

theorem ofDurationVia_le (ha : a ≠ 0) (hnow : 0 ≤ now)
    (due : d ≤ (perSample b hb).toDuration now)
    (coarse : b.toNat * (a.toNat + 1000000) < 1000000 * a.toNat) :
    (perSample b hb).ofDurationVia (perSample a ha) d ≤ now := by
  have lag := lag_le ha hnow due
  zify at coarse
  by_contra late
  nlinarith

theorem ofDurationVia_self_le (hnow : 0 ≤ now) (due : d ≤ (perSample b hb).toDuration now)
    (slow : b.toNat ≤ 1000000) :
    (perSample b hb).ofDurationVia (perSample b hb) d ≤ now := by
  have low := Ticks.least_le_zero
  have nonneg := ofDuration_nonneg (perSample b hb) d
  have same : (perSample b hb).ofDurationVia (perSample b hb) d ≤ (perSample b hb).ofDuration d := by
    rw [ofDurationVia, rescale_self]
    exact Ticks.clamp_le (Int.le_trans low nonneg) (Int.le_refl _)
  have first := two_mul_micros_le hnow due
  have second := two_mul_ofDuration_le hb d
  rcases Nat.lt_or_eq_of_le slow with slower | same
  · omega
  · -- Neither of the two roundings has anything to round.
    rw [same] at first second
    omega

end Lag

end TimeBase

end Overdub
