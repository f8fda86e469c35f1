import Overdub.Proofs.Time.Exact

/-!
Durations on a clock. A duration is cut to whole microseconds before it is rounded to ticks. The cut
takes it back over the middle between two ticks, if the middle is not at a whole microsecond itself.
-/

namespace Overdub

namespace Duration

variable {d : Duration}

def kept (d : Duration) : Duration := .ofMicros (min d.micros Ticks.most.toNat)

theorem kept_le (d : Duration) : d.kept ≤ d := by
  change min (d.nanos / 1000) _ * 1000 ≤ d.nanos
  omega

theorem kept_eq (fits : (d.micros : Int) ≤ Ticks.most) : d.kept = .ofMicros d.micros := by
  rw [kept, min_eq_left (by omega)]

end Duration

namespace TimeBase

variable {b : TimeBase} {d e : Duration} {n : Int}

def ticksIn (b : TimeBase) (d : Duration) : ℚ := d.nanos / 1000000000 / b.tick

/-- The duration comes out at the tick that is nearest to it. -/
def TellsNearest (b : TimeBase) (d : Duration) : Prop :=
  ∃ n, Nearest (b.ticksIn d) n ∧ b.ofDuration d = Ticks.clamp n

theorem ticksIn_nonneg (b : TimeBase) (d : Duration) : 0 ≤ b.ticksIn d := by
  have := b.tick_pos
  unfold ticksIn
  positivity

theorem ticksIn_mono (le : d ≤ e) : b.ticksIn d ≤ b.ticksIn e := by
  have := b.tick_pos
  have : (d.nanos : ℚ) ≤ e.nanos := Nat.cast_le.mpr le
  unfold ticksIn
  gcongr

theorem ticksIn_le_kept (slow : microseconds.tick ≤ b.tick) (fits : (d.micros : Int) ≤ Ticks.most) :
    b.ticksIn d ≤ b.ticksIn d.kept + 1 := by
  have pos := b.tick_pos
  have cut : (d.nanos : ℚ) ≤ d.kept.nanos + 1000 := by
    rw [Duration.kept_eq fits]
    change (d.nanos : ℚ) ≤ (d.nanos / 1000 * 1000 : Nat) + 1000
    exact_mod_cast (by omega : d.nanos ≤ d.nanos / 1000 * 1000 + 1000)
  rw [tick_microseconds] at slow
  rw [ticksIn, ticksIn, div_add_one pos.ne', div_le_div_iff_of_pos_right pos]
  linarith

theorem precise_microseconds (n : Nat) (b : TimeBase) :
    microseconds.precise n b = b.ticksIn (.ofMicros n) := by
  rw [precise_eq, tick_microseconds, ticksIn, Duration.ofMicros]
  push_cast
  ring

theorem middle_le_ticksIn_iff (b : TimeBase) (k : Int) (d : Duration) :
    (k : ℚ) - 1 / 2 ≤ b.ticksIn d ↔
      (2 * k - 1) * (1000 * (1000000 * b.num.toNat)) ≤ 2 * b.den.toNat * d.nanos := by
  have num : (0 : ℚ) < b.num.toNat := Nat.cast_pos.mpr b.num_pos
  have den : (0 : ℚ) < b.den.toNat := Nat.cast_pos.mpr b.den_pos
  have whole : (2 * k - 1) * (1000 * (1000000 * b.num.toNat)) ≤ 2 * b.den.toNat * d.nanos ↔
      (2 * k - 1 : ℚ) * (1000 * (1000000 * b.num.toNat)) ≤ 2 * b.den.toNat * d.nanos := by
    exact_mod_cast Iff.rfl
  rw [whole, ticksIn, tick, le_div_iff₀ (by positivity), ← mul_div_assoc, div_le_div_iff₀ den (by norm_num)]
  constructor <;> intro h <;> linarith

theorem ofDuration_spec (b : TimeBase) (d : Duration) :
    ∃ m, Nearest (b.ticksIn d.kept) m ∧ b.ofDuration d = Ticks.clamp m := by
  have whole : ((min d.micros Ticks.most.toNat : Nat) : Int) = min (d.micros : Int) Ticks.most := by
    have := Ticks.zero_le_most
    omega
  obtain ⟨m, near, rescaled⟩ := microseconds.exists_nearest (min d.micros Ticks.most.toNat : Nat) b
  rw [precise_microseconds] at near
  rw [whole] at rescaled
  exact ⟨m, near, rescaled⟩

section Nearest

variable (near : Nearest (b.ticksIn d) n)
include near

theorem ofDuration_le : b.ofDuration d ≤ Ticks.clamp n := by
  obtain ⟨m, near', told⟩ := b.ofDuration_spec d
  rw [told]
  exact Ticks.clamp_mono (near'.mono near (ticksIn_mono d.kept_le))

/-- The nearest tick is told just if what is left of the duration is past the middle before it. -/
theorem ofDuration_eq_iff :
    b.ofDuration d = Ticks.clamp n ↔ (Ticks.clamp n : ℚ) - 1 / 2 ≤ b.ticksIn d.kept := by
  obtain ⟨m, near', told⟩ := b.ofDuration_spec d
  rw [← near'.le_iff (b.ticksIn_nonneg _)]
  constructor
  · intro same
    rw [← same, told]
    exact Ticks.clamp_le_self (near'.nonneg (b.ticksIn_nonneg _))
  · intro le
    refine Int.le_antisymm (ofDuration_le near) ?_
    have again := Ticks.clamp_mono le
    rwa [Ticks.clamp_clamp, ← told] at again

theorem le_ofDuration (slow : microseconds.tick ≤ b.tick) (fits : (d.micros : Int) ≤ Ticks.most) :
    Ticks.clamp n - 1 ≤ b.ofDuration d := by
  obtain ⟨m, near', told⟩ := b.ofDuration_spec d
  have cut := ticksIn_le_kept slow fits
  have half := (abs_le.mp near.abs_sub_le_half).2
  have before : n - 1 ≤ m := by
    rw [near'.le_iff (b.ticksIn_nonneg _)]
    push_cast
    linarith
  rw [told]
  unfold Ticks.clamp clampTo
  omega

end Nearest

theorem tellsNearest_ofMicros (b : TimeBase) {n : Nat} (fits : (n : Int) ≤ Ticks.most) :
    b.TellsNearest (.ofMicros n) := by
  have whole : (Duration.ofMicros n).micros = n := Nat.mul_div_cancel n (by decide)
  have same : (Duration.ofMicros n).kept = .ofMicros n := by
    rw [Duration.kept_eq (by rwa [whole]), whole]
  have told := b.ofDuration_spec (.ofMicros n)
  rwa [same] at told

section Middle

theorem tellsNearest_of_dvd (whole : 2 * b.den.toNat ∣ 1000000 * b.num.toNat)
    (fits : (d.micros : Int) ≤ Ticks.most) : b.TellsNearest d := by
  obtain ⟨half, length⟩ := whole
  have pos : (0 : Int) < 2 * b.den.toNat := by
    have := b.den_pos
    omega
  have middle (k : Int) (d : Duration) :
      (k : ℚ) - 1 / 2 ≤ b.ticksIn d ↔ (2 * k - 1) * half * 1000 ≤ d.nanos := by
    have length : (1000000 * b.num.toNat : Int) = 2 * b.den.toNat * half := by exact_mod_cast length
    have common : (2 * k - 1) * (1000 * (2 * b.den.toNat * half)) =
        2 * b.den.toNat * ((2 * k - 1) * half * 1000) := by ring
    rw [middle_le_ticksIn_iff, length, common, mul_le_mul_iff_right₀ pos]
  obtain ⟨n, near⟩ : ∃ n, Nearest (b.ticksIn d) n := ⟨_, .of_nonneg (b.ticksIn_nonneg d)⟩
  refine ⟨n, near, (ofDuration_eq_iff near).mpr ?_⟩
  have reached : Ticks.clamp n ≤ n := Ticks.clamp_le_self (near.nonneg (b.ticksIn_nonneg d))
  rw [near.le_iff (b.ticksIn_nonneg d), middle] at reached
  rw [middle, Duration.kept_eq fits]
  change _ ≤ ((d.nanos / 1000 * 1000 : Nat) : Int)
  omega

theorem exists_odd_mul {x y : Nat} (pos : 0 < y) (broken : ¬ y ∣ x) :
    ∃ i c gap, y * c = (2 * i + 1) * x + gap ∧ y ≤ 1000 * gap ∧ gap < y ∧ i ≤ y ∧ c ≤ 3 * x := by
  have rest : 0 < x % y := Nat.emod_pos_of_not_dvd broken
  have less := Nat.mod_lt x pos
  -- The fraction itself ends `s / y` below. With `i` it is a thousandth, and still less than one.
  obtain ⟨s, short⟩ : ∃ s, s = y - x % y := ⟨_, rfl⟩
  obtain ⟨i, index⟩ : ∃ i, i = y / (1000 * s) := ⟨_, rfl⟩
  have within : 1000 * s * i ≤ y := index ▸ Nat.mul_div_le y _
  have beyond : y < 1000 * s * (i + 1) := index ▸ Nat.lt_mul_div_succ y (by omega)
  have next : y * (x / y + 1) = x + s := by
    have := Nat.div_add_mod x y
    rw [Nat.mul_succ]
    omega
  have whole : y * ((2 * i + 1) * (x / y + 1)) = (2 * i + 1) * x + (2 * i + 1) * s := by
    rw [Nat.mul_left_comm, next, Nat.mul_add]
  have gap : (2 * i + 1) * s < y := by
    rcases Nat.eq_zero_or_pos i with rfl | some
    · omega
    · nlinarith
  have index_le : i ≤ y := index ▸ Nat.div_le_self y _
  refine ⟨i, _, _, whole, by nlinarith, gap, index_le, ?_⟩
  have bound : y * ((2 * i + 1) * (x / y + 1)) < y * (3 * x + 1) := by
    rw [whole]
    nlinarith
  exact Nat.le_of_lt_succ (Nat.lt_of_mul_lt_mul_left bound)

theorem not_tellsNearest {k : Int} (low : 0 ≤ k) (high : k ≤ Ticks.most)
    (reached : (k : ℚ) - 1 / 2 ≤ b.ticksIn d) (lost : ¬ (k : ℚ) - 1 / 2 ≤ b.ticksIn d.kept) :
    ¬ b.TellsNearest d := by
  rintro ⟨n, near, told⟩
  rw [ofDuration_eq_iff near] at told
  rw [← near.le_iff (b.ticksIn_nonneg d)] at reached
  have nearest := Ticks.clamp_mono reached
  rw [Ticks.clamp_of_mem (Int.le_trans Ticks.least_le_zero low) high] at nearest
  have nearest : (k : ℚ) ≤ Ticks.clamp n := by exact_mod_cast nearest
  exact lost (by linarith)

theorem exists_not_tellsNearest (broken : ¬ 2 * b.den.toNat ∣ 1000000 * b.num.toNat) :
    ∃ d : Duration, (d.micros : Int) ≤ Ticks.most ∧ ¬ b.TellsNearest d := by
  have den := b.den_pos
  obtain ⟨i, c, gap, whole, some, less, index, bound⟩ := exists_odd_mul (by omega) broken
  -- The terms of a clock are words of 32 bits, so `c` is far within the range.
  have most : Ticks.most = 2 ^ 63 - 1 := rfl
  have num_lt := b.num.toNat_lt
  have den_lt := b.den.toNat_lt
  have pos : 0 < c := by
    rcases Nat.eq_zero_or_pos c with rfl | pos
    · omega
    · exact pos
  obtain ⟨d, nanos⟩ : ∃ d : Duration, d.nanos = 1000 * c - 1 := ⟨⟨_⟩, rfl⟩
  have micros : d.micros = c - 1 := by
    rw [Duration.micros, nanos]
    omega
  have fits : (d.micros : Int) ≤ Ticks.most := by omega
  zify at whole some less
  refine ⟨d, fits, not_tellsNearest (k := i + 1) (by omega) (by omega) ?_ ?_⟩
  · have nanos : (d.nanos : Int) = 1000 * c - 1 := by omega
    rw [middle_le_ticksIn_iff, nanos]
    linarith
  · have nanos : (d.kept.nanos : Int) = 1000 * c - 1000 := by
      rw [Duration.kept_eq fits, micros]
      change (((c - 1) * 1000 : Nat) : Int) = _
      omega
    rw [middle_le_ticksIn_iff, nanos]
    linarith

end Middle

/-- The tick that is told is the nearest one just if the cut leaves the duration past the middle
before that tick. It is never a later one, and on clocks with ticks of a microsecond or more it is at
most one tick early. Whole microseconds lose nothing, and nor does any duration on a clock whose
middles are at whole microseconds, but on every other clock some duration does. -/
theorem tells_nearest_tick_unless_cut (b : TimeBase) :
    (∀ d, ∃ n, Nearest (b.ticksIn d) n ∧
      (b.ofDuration d = Ticks.clamp n ↔ (Ticks.clamp n : ℚ) - 1 / 2 ≤ b.ticksIn d.kept) ∧
      b.ofDuration d ≤ Ticks.clamp n ∧
      (microseconds.tick ≤ b.tick → (d.micros : Int) ≤ Ticks.most →
        Ticks.clamp n - 1 ≤ b.ofDuration d)) ∧
    (∀ n : Nat, (n : Int) ≤ Ticks.most → b.TellsNearest (.ofMicros n)) ∧
    ((∀ d : Duration, (d.micros : Int) ≤ Ticks.most → b.TellsNearest d) ↔
      2 * b.den.toNat ∣ 1000000 * b.num.toNat) := by
  refine ⟨fun d => ?_, fun n => b.tellsNearest_ofMicros, ?_, fun whole d => tellsNearest_of_dvd whole⟩
  · have near := Nearest.of_nonneg (b.ticksIn_nonneg d)
    exact ⟨_, near, ofDuration_eq_iff near, ofDuration_le near, le_ofDuration near⟩
  · intro all
    by_contra broken
    obtain ⟨d, fits, misses⟩ := exists_not_tellsNearest broken
    exact misses (all d fits)

/-- Ten microseconds and 417 nanoseconds are just past the middle before the first sample at 48000
samples a second, and without the nanoseconds they are not. -/
theorem cut_misses_first_sample :
    let b := perSample 48000 (by decide)
    let d : Duration := ⟨10417⟩
    Nearest (b.ticksIn d) 1 ∧ b.ofDuration d = 0 ∧ ¬ b.TellsNearest d := by
  intro b d
  have near : Nearest (b.ticksIn d) 1 := by
    apply Nearest.of_lt_half
    have sample : b.tick = 1 / 48000 := tick_perSample _
    rw [ticksIn, sample, abs_lt]
    norm_num [d]
  have told : b.ofDuration d = 0 := by decide +kernel
  refine ⟨near, told, ?_⟩
  rintro ⟨n, near', told'⟩
  obtain rfl := near.unique near'
  rw [told] at told'
  exact absurd told' (by decide)

end TimeBase

end Overdub
