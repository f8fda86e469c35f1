import Mathlib.Algebra.Order.Round
import Mathlib.Data.Rat.Floor
import Mathlib.Tactic.FieldSimp
import Mathlib.Tactic.Linarith
import Overdub.Proofs.Number

/-!
Rounding told by its result. Whichever way the nearest integer is worked out, there is just one.
-/

namespace Overdub

variable {q r : ℚ} {n m k : ℤ}

theorem right_near_iff (lt : m < n) : |(n : ℚ) - q| ≤ |(m : ℚ) - q| ↔ (m : ℚ) + n ≤ 2 * q := by
  have lt : (m : ℚ) < n := by exact_mod_cast lt
  constructor <;> intro h <;>
    rcases abs_cases ((n : ℚ) - q) with ⟨e, _⟩ | ⟨e, _⟩ <;>
    rcases abs_cases ((m : ℚ) - q) with ⟨e', _⟩ | ⟨e', _⟩ <;> linarith

theorem left_near_iff (lt : m < n) : |(m : ℚ) - q| ≤ |(n : ℚ) - q| ↔ 2 * q ≤ (m : ℚ) + n := by
  have lt : (m : ℚ) < n := by exact_mod_cast lt
  constructor <;> intro h <;>
    rcases abs_cases ((n : ℚ) - q) with ⟨e, _⟩ | ⟨e, _⟩ <;>
    rcases abs_cases ((m : ℚ) - q) with ⟨e', _⟩ | ⟨e', _⟩ <;> linarith

/-- No integer is nearer to `q` than `n`, and one that is as near is no further from zero. -/
structure Nearest (q : ℚ) (n : ℤ) : Prop where
  near : ∀ m : ℤ, |(n : ℚ) - q| ≤ |(m : ℚ) - q|
  away : ∀ m : ℤ, |(m : ℚ) - q| = |(n : ℚ) - q| → |m| ≤ |n|

namespace Nearest

theorem mono (h : Nearest q n) (h' : Nearest r m) (le : q ≤ r) : n ≤ m := by
  by_contra lt
  replace lt : m < n := Int.not_le.mp lt
  have low := (right_near_iff lt).mp (h.near m)
  have high := (left_near_iff lt).mp (h'.near n)
  obtain rfl : q = r := by linarith
  -- The two are on both sides of `q` and equally far from zero, so `q` is zero.
  have tie : |(m : ℚ) - q| = |(n : ℚ) - q| := le_antisymm (h'.near n) (h.near m)
  have far := h.away m tie
  have far' := h'.away n tie.symm
  have opposite : m + n = 0 := by
    rcases abs_cases m with ⟨e, _⟩ | ⟨e, _⟩ <;> rcases abs_cases n with ⟨e', _⟩ | ⟨e', _⟩ <;> omega
  have zero : (m : ℚ) + n = 0 := by exact_mod_cast opposite
  obtain rfl : q = 0 := by linarith
  have none := h.near 0
  rw [Int.cast_zero, sub_zero, sub_zero, abs_zero, abs_nonpos_iff, Int.cast_eq_zero] at none
  omega

theorem unique (h : Nearest q n) (h' : Nearest q m) : n = m :=
  le_antisymm (h.mono h' le_rfl) (h'.mono h le_rfl)

theorem neg (h : Nearest q n) : Nearest (-q) (-n) where
  near m := by
    have near := h.near (-m)
    rw [← abs_neg, ← abs_neg ((m : ℚ) - -q)]
    push_cast at near ⊢
    convert near using 2 <;> ring
  away m tie := by
    rw [abs_neg, ← abs_neg m]
    refine h.away (-m) ?_
    rw [← abs_neg, ← abs_neg ((n : ℚ) - q)]
    push_cast at tie ⊢
    convert tie using 2 <;> ring

theorem intCast (n : ℤ) : Nearest n n where
  near m := by
    rw [sub_self, abs_zero]
    exact abs_nonneg _
  away m tie := by
    rw [sub_self, abs_zero, abs_eq_zero, sub_eq_zero, Int.cast_inj] at tie
    exact le_of_eq (congrArg _ tie)

theorem abs_sub_le_half (h : Nearest q n) : |(n : ℚ) - q| ≤ 1 / 2 := by
  have below := (right_near_iff (sub_one_lt n)).mp (h.near (n - 1))
  have above := (left_near_iff (lt_add_one n)).mp (h.near (n + 1))
  push_cast at below above
  rw [abs_le]
  constructor <;> linarith

theorem of_lt_half (h : |(n : ℚ) - q| < 1 / 2) : Nearest q n := by
  have further : ∀ m : ℤ, m ≠ n → |(n : ℚ) - q| < |(m : ℚ) - q| := by
    intro m ne
    have apart : (1 : ℚ) ≤ |(m : ℚ) - n| := by exact_mod_cast Int.one_le_abs (sub_ne_zero.mpr ne)
    have := abs_sub_le (m : ℚ) q n
    rw [abs_sub_comm q] at this
    linarith
  refine ⟨fun m => ?_, fun m tie => ?_⟩
  · rcases eq_or_ne m n with rfl | ne
    · exact le_rfl
    · exact (further m ne).le
  · rcases eq_or_ne m n with rfl | ne
    · exact le_rfl
    · exact absurd tie.symm (further m ne).ne

theorem of_nonneg (hq : 0 ≤ q) : Nearest q (round q) where
  near m := by
    rw [abs_sub_comm, abs_sub_comm (m : ℚ)]
    exact round_le q m
  away m tie := by
    have low : q - 1 / 2 < round q := by
      have := Int.lt_floor_add_one (q + 1 / 2)
      rw [round_eq]
      linarith
    have nonneg : 0 ≤ round q := by
      rw [round_eq]
      exact Int.floor_nonneg.mpr (by linarith)
    rcases lt_trichotomy m (round q) with lt | rfl | lt
    · have mirror : (0 : ℚ) ≤ m + round q := by
        linarith [(left_near_iff lt).mp tie.le]
      have mirror : 0 ≤ m + round q := by exact_mod_cast mirror
      rw [abs_of_nonneg nonneg, abs_le]
      omega
    · exact le_rfl
    · have mirror := (right_near_iff lt).mp tie.le
      have beside : m < round q + 1 := by
        have : (m : ℚ) < round q + 1 := by linarith
        exact_mod_cast this
      omega

theorem le_iff (h : Nearest q n) (hq : 0 ≤ q) : k ≤ n ↔ (k : ℚ) - 1 / 2 ≤ q := by
  rw [h.unique (of_nonneg hq), round_eq, Int.le_floor, sub_le_iff_le_add]

theorem nonneg (h : Nearest q n) (hq : 0 ≤ q) : 0 ≤ n := by
  rw [h.le_iff hq]
  push_cast
  linarith

end Nearest

theorem roundAway_eq_round {d : Nat} (hd : 0 < d) {n : Int} (hn : 0 ≤ n) :
    roundAway n d = round (n / d : ℚ) := by
  have pos : (0 : ℚ) < d := by exact_mod_cast hd
  refine eq_of_forall_le_iff fun k => ?_
  rw [roundAway, if_pos hn, le_halfUp_iff hd, round_eq, Int.le_floor, div_add_div _ _ pos.ne' two_ne_zero,
    le_div_iff₀ (by positivity)]
  have : 2 * k * d ≤ 2 * n + d ↔ (2 * k * d : ℚ) ≤ 2 * n + d := by exact_mod_cast Iff.rfl
  rw [this]
  constructor <;> intro h <;> linarith

theorem nearest_roundAway {d : Nat} (hd : 0 < d) (n : Int) :
    Nearest (n / d : ℚ) (roundAway n d) := by
  rcases Int.lt_or_le n 0 with neg | nonneg
  · have flipped : 0 ≤ -n := by omega
    have mirror : roundAway n d = -roundAway (-n) d := by
      rw [roundAway, if_neg (by omega), roundAway, if_pos flipped]
    have whole := (Nearest.of_nonneg (q := ((-n : Int) : ℚ) / d) (by positivity)).neg
    rw [mirror, roundAway_eq_round hd flipped]
    convert whole using 1
    push_cast
    ring
  · rw [roundAway_eq_round hd nonneg]
    exact Nearest.of_nonneg (by positivity)

theorem roundAway_mono {n n' : Int} {d d' : Nat} (hd : 0 < d) (hd' : 0 < d')
    (h : n * d' ≤ n' * d) : roundAway n d ≤ roundAway n' d' := by
  have pos : (0 : ℚ) < d := by exact_mod_cast hd
  have pos' : (0 : ℚ) < d' := by exact_mod_cast hd'
  refine (nearest_roundAway hd n).mono (nearest_roundAway hd' n') ?_
  rw [div_le_div_iff₀ pos pos']
  exact_mod_cast h

theorem roundAway_mul {d : Nat} (hd : 0 < d) (n : Int) : roundAway (n * d) d = n := by
  have pos : (d : ℚ) ≠ 0 := by exact_mod_cast hd.ne'
  have near := nearest_roundAway hd (n * d)
  rw [Int.cast_mul, Int.cast_natCast, mul_div_cancel_right₀ _ pos] at near
  exact near.unique (.intCast n)

theorem two_mul_roundAway_le {d : Nat} (hd : 0 < d) (n : Int) :
    2 * (roundAway n d * d) ≤ 2 * n + d := by
  have pos : (0 : ℚ) < d := by exact_mod_cast hd
  have half := (abs_le.mp (nearest_roundAway hd n).abs_sub_le_half).2
  rw [sub_le_iff_le_add, div_add_div _ _ two_ne_zero pos.ne', le_div_iff₀ (by positivity)] at half
  have half : (2 * (roundAway n d * d) : ℚ) ≤ 2 * n + d := by linarith
  exact_mod_cast half

end Overdub
