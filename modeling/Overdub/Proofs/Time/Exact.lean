import Overdub.Proofs.Checked
import Overdub.Proofs.Nearest
import Overdub.Proofs.Time.Lag

/-!
One rounding from clock to clock. The quotient is rounded as it is, in words that are wide enough for
it, and only then cut at the ends of the range. So a clock with ticks that are no longer takes over
every tick count without loss.
-/

namespace Overdub

namespace TimeBase

variable {b c : TimeBase} {v n : Int}

def tick (b : TimeBase) : ℚ := b.num.toNat / b.den.toNat

def precise (b : TimeBase) (ticks : Int) (c : TimeBase) : ℚ :=
  ticks * b.num.toNat * c.den.toNat / (b.den.toNat * c.num.toNat)

theorem tick_pos (b : TimeBase) : 0 < b.tick :=
  div_pos (Nat.cast_pos.mpr b.num_pos) (Nat.cast_pos.mpr b.den_pos)

theorem tick_perSample {rate : UInt32} (h : rate ≠ 0) : (perSample rate h).tick = 1 / rate.toNat := by
  simp [tick, perSample]

theorem tick_microseconds : microseconds.tick = 1 / 1000000 := tick_perSample _

theorem precise_eq (b : TimeBase) (v : Int) (c : TimeBase) : b.precise v c = v * b.tick / c.tick := by
  have := b.den_pos
  have := c.num_pos
  have := c.den_pos
  unfold precise tick
  field_simp

theorem precise_neg (b : TimeBase) (v : Int) (c : TimeBase) : b.precise (-v) c = -b.precise v c := by
  rw [precise_eq, precise_eq]
  push_cast
  ring

theorem precise_mono {w : Int} (le : v ≤ w) : b.precise v c ≤ b.precise w c := by
  have := b.tick_pos
  have := c.tick_pos
  have : (v : ℚ) ≤ w := by exact_mod_cast le
  rw [precise_eq, precise_eq]
  gcongr

theorem exists_nearest (b : TimeBase) (v : Int) (c : TimeBase) :
    ∃ n, Nearest (b.precise v c) n ∧ b.rescale v c = Ticks.clamp n := by
  have round := nearest_roundAway (Nat.mul_pos b.den_pos c.num_pos) (v * b.num.toNat * c.den.toNat)
  push_cast at round
  exact ⟨_, round, rfl⟩

theorem rescale_eq (h : Nearest (b.precise v c) n) : b.rescale v c = Ticks.clamp n := by
  obtain ⟨m, near, rescaled⟩ := b.exists_nearest v c
  rw [rescaled, near.unique h]

theorem rescale_mono (b c : TimeBase) {v w : Int} (le : v ≤ w) : b.rescale v c ≤ b.rescale w c := by
  obtain ⟨n, near, rescaled⟩ := b.exists_nearest v c
  obtain ⟨m, near', rescaled'⟩ := b.exists_nearest w c
  rw [rescaled, rescaled']
  exact Ticks.clamp_mono (near.mono near' (precise_mono le))

theorem toDuration_mono (b : TimeBase) {v w : Int} (le : v ≤ w) : b.toDuration v ≤ b.toDuration w := by
  have ticks := b.rescale_mono microseconds le
  change (b.rescale v microseconds).toNat * 1000 ≤ (b.rescale w microseconds).toNat * 1000
  omega

theorem ofDuration_mono (b : TimeBase) {d e : Duration} (le : d ≤ e) :
    b.ofDuration d ≤ b.ofDuration e := by
  have micros : d.micros ≤ e.micros := Nat.div_le_div_right le
  exact microseconds.rescale_mono b (by omega)

theorem nearest_of_tick_eq (same : b.tick = c.tick) (v : Int) : Nearest (b.precise v c) v := by
  have exact : b.precise v c = v := by
    rw [precise_eq, same, mul_div_cancel_right₀ _ c.tick_pos.ne']
  rw [exact]
  exact .intCast v

namespace Guarded

open Checked

def rescale (b : TimeBase) (ticks : Int) (c : TimeBase) : Except Fault Int := do
  let num ← wideMul (← wideMul ticks b.num.toNat) c.den.toNat
  let den ← wideMul b.den.toNat c.num.toNat
  let rounded ← wideRound num den
  return Ticks.clamp rounded

theorem rescale_eq (b : TimeBase) (v : Int64) (c : TimeBase) :
    rescale b v.toInt c = .ok (b.rescale v.toInt c) := by
  have low := v.le_toInt
  have high := v.toInt_lt
  have ticks : v.toInt.natAbs ≤ 2 ^ 63 := by omega
  have word (x : UInt32) : ((x.toNat : Int)).natAbs ≤ 2 ^ 32 - 1 := by
    have := x.toNat_lt
    omega
  have scaled : (v.toInt * b.num.toNat).natAbs ≤ 2 ^ 63 * (2 ^ 32 - 1) := by
    rw [Int.natAbs_mul]
    exact Nat.mul_le_mul ticks (word b.num)
  have num : (v.toInt * b.num.toNat * c.den.toNat).natAbs ≤ 2 ^ 63 * (2 ^ 32 - 1) * (2 ^ 32 - 1) := by
    rw [Int.natAbs_mul]
    exact Nat.mul_le_mul scaled (word c.den)
  have den : ((b.den.toNat : Int) * c.num.toNat).natAbs ≤ (2 ^ 32 - 1) * (2 ^ 32 - 1) := by
    rw [Int.natAbs_mul]
    exact Nat.mul_le_mul (word b.den) (word c.num)
  rw [rescale, wideMul_eq (by omega), ok_bind, wideMul_eq (by omega), ok_bind, wideMul_eq (by omega),
    ok_bind]
  rw [← Int.natCast_mul, Int.natAbs_natCast] at den
  rw [← Int.natCast_mul, wideRound_eq (Nat.mul_pos b.den_pos c.num_pos) (by omega)]
  rfl

end Guarded

/-- Nothing overflows on the way to the nearest tick, however large the tick count. Order is kept, and
so is the sign, as far as the range of ticks goes. -/
theorem rounds_exactly (b c : TimeBase) :
    (∀ v : Int64, Guarded.rescale b v.toInt c = .ok (b.rescale v.toInt c)) ∧
    (∀ v : Int, ∃ n, Nearest (v * b.num.toNat * c.den.toNat / (b.den.toNat * c.num.toNat)) n ∧
      b.rescale v c = Ticks.clamp n ∧ b.rescale (-v) c = Ticks.clamp (-n)) ∧
    (∀ v w, v ≤ w → b.rescale v c ≤ b.rescale w c) ∧
    (b.tick = c.tick → ∀ v : Int64, b.rescale v.toInt c = v.toInt) ∧
    (∀ v w, v ≤ w → b.toDuration v ≤ b.toDuration w) ∧
    ∀ d e, d ≤ e → b.ofDuration d ≤ b.ofDuration e := by
  refine ⟨fun v => Guarded.rescale_eq b v c, ?_, fun v w => b.rescale_mono c, ?_,
    fun v w => b.toDuration_mono, fun d e => b.ofDuration_mono⟩
  · intro v
    obtain ⟨n, near, rescaled⟩ := b.exists_nearest v c
    have mirror : Nearest (b.precise (-v) c) (-n) := by
      rw [precise_neg]
      exact near.neg
    exact ⟨n, near, rescaled, rescale_eq mirror⟩
  · intro same v
    rw [rescale_eq (nearest_of_tick_eq same v.toInt), Ticks.clamp_of_mem v.le_toInt]
    exact Int.le_sub_one_of_lt v.toInt_lt

example : (perSample 1000 (by decide)).rescale (-150) (perSample 10 (by decide)) = -2 := by
  decide +kernel

/-- The tick on the clock `c` is none that is cut off at an end of the range. -/
def InRange (b : TimeBase) (ticks : Int) (c : TimeBase) : Prop :=
  ∃ n, Nearest (b.precise ticks c) n ∧ Ticks.least ≤ n ∧ n ≤ Ticks.most

section Finer

variable {a : TimeBase} (finer : b.tick ≤ a.tick) (near : Nearest (a.precise v b) n)
include finer near

/-- The way back makes what was rounded off smaller, and on the way there it was at most a half. -/
theorem nearest_back : Nearest (b.precise n a) v := by
  rcases finer.eq_or_lt with same | shorter
  · obtain rfl := near.unique (nearest_of_tick_eq same.symm v)
    exact nearest_of_tick_eq same n
  · have pos := a.tick_pos
    have pos' := b.tick_pos
    have ratio : b.tick / a.tick < 1 := (div_lt_one pos).mpr shorter
    have scaled : v - b.precise n a = (a.precise v b - n) * (b.tick / a.tick) := by
      rw [precise_eq, precise_eq]
      field_simp
    apply Nearest.of_lt_half
    rw [scaled, abs_mul, abs_of_pos (div_pos pos' pos), abs_sub_comm]
    calc
      |(n : ℚ) - a.precise v b| * (b.tick / a.tick) ≤ 1 / 2 * (b.tick / a.tick) :=
        mul_le_mul_of_nonneg_right near.abs_sub_le_half (div_pos pos' pos).le
      _ < 1 / 2 := by linarith

theorem le_and_le_of_finer : (0 ≤ v → v ≤ n) ∧ (v ≤ 0 → n ≤ v) := by
  have pos := b.tick_pos
  rw [precise_eq] at near
  constructor
  · intro above
    have above : (0 : ℚ) ≤ v := by exact_mod_cast above
    refine (Nearest.intCast v).mono near ?_
    rw [le_div_iff₀ pos]
    exact mul_le_mul_of_nonneg_left finer above
  · intro below
    have below : (v : ℚ) ≤ 0 := by exact_mod_cast below
    refine near.mono (.intCast v) ?_
    rw [div_le_iff₀ pos]
    exact mul_le_mul_of_nonpos_left finer below

end Finer

/-- A clock with ticks that are no longer gives every tick count back, and so do durations, which
are told in microseconds, to a clock with ticks of a microsecond or more. -/
theorem finer_clock_keeps_ticks {a : TimeBase} (finer : b.tick ≤ a.tick) (fits : a.InRange v b) :
    b.rescale (a.rescale v b) a = v ∧
      (b = microseconds → 0 ≤ v → a.ofDuration (a.toDuration v) = v) := by
  obtain ⟨n, near, low, high⟩ := fits
  have outer := le_and_le_of_finer finer near
  have there : a.rescale v b = n := by rw [rescale_eq near, Ticks.clamp_of_mem low high]
  have back : b.rescale n a = v := by
    have small := Ticks.least_le_zero
    have large := Ticks.zero_le_most
    rw [rescale_eq (nearest_back finer near), Ticks.clamp_of_mem (by omega) (by omega)]
  refine ⟨there ▸ back, ?_⟩
  rintro rfl later
  have whole : (a.toDuration v).micros = n.toNat := by
    rw [toDuration, there]
    exact Nat.mul_div_cancel _ (by decide)
  have kept : min (n.toNat : Int) Ticks.most = n := by omega
  rw [ofDuration, whole, kept, back]

theorem finer_clock_keeps_ticks_one_sample :
    let a := perSample 48000 (by decide)
    microseconds.tick ≤ a.tick ∧ a.InRange 1 microseconds ∧ a.rescale 1 microseconds = 21 ∧
      microseconds.rescale 21 a = 1 ∧ a.ofDuration (a.toDuration 1) = 1 := by
  intro a
  have sample : a.tick = 1 / 48000 := tick_perSample _
  have finer : microseconds.tick ≤ a.tick := by
    rw [sample, tick_microseconds]
    norm_num
  have near : Nearest (a.precise 1 microseconds) 21 := by
    apply Nearest.of_lt_half
    rw [precise_eq, sample, tick_microseconds, abs_lt]
    norm_num
  have fits : a.InRange 1 microseconds := ⟨21, near, by decide, by decide⟩
  have there : a.rescale 1 microseconds = 21 := by decide +kernel
  obtain ⟨back, again⟩ := finer_clock_keeps_ticks finer fits
  rw [there] at back
  exact ⟨finer, fits, there, back, again rfl (by decide)⟩

end TimeBase

end Overdub
