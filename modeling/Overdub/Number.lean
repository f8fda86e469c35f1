/-!
Rounding and clamping of integers, shared by clocks, durations and sample counts.
-/

namespace Overdub

-- Powers and sums are those of the core library, also where Mathlib brings its own.
attribute [default_instance 10001] instPowNat

instance natPow : Pow Nat Nat := instPowNat

instance intPow : Pow Int Nat := instPowNat

instance natZero : Zero Nat := Zero.ofOfNat0

/-- The integer nearest to `n / d`; a quotient half-way between two integers goes away from zero. -/
def roundAway (n : Int) (d : Nat) : Int :=
  if 0 ≤ n then (n + d / 2) / d else -((-n + d / 2) / d)

/-- The integer nearest to `n / d`; a quotient half-way between two integers goes to the even
one. -/
def roundEven (n d : Nat) : Nat :=
  let q := n / d
  let r := n % d
  if d < 2 * r ∨ (d = 2 * r ∧ q % 2 = 1) then q + 1 else q

def clampTo (lo hi n : Int) : Int := max lo (min n hi)

theorem le_clampTo {lo hi : Int} (n : Int) : lo ≤ clampTo lo hi n := by
  unfold clampTo; omega

theorem clampTo_le {lo hi : Int} (h : lo ≤ hi) (n : Int) : clampTo lo hi n ≤ hi := by
  unfold clampTo; omega

theorem clampTo_of_mem {lo hi n : Int} (hl : lo ≤ n) (hh : n ≤ hi) : clampTo lo hi n = n := by
  unfold clampTo; omega

end Overdub
