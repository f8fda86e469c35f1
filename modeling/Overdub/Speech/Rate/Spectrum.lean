import Overdub.Number

/-!
The discrete Fourier transform, for any length. A length is split by its least factor; the
transforms of the parts are put together with roots of unity. A part of large prime length is
convolved with a chirp instead, at a length that is a power of two.
-/

namespace Overdub

structure Complex where
  re : Float
  im : Float
  deriving Inhabited

namespace Complex

def ofReal (x : Float) : Complex := ⟨x, 0⟩

def add (a b : Complex) : Complex := ⟨a.re + b.re, a.im + b.im⟩

def mul (a b : Complex) : Complex := ⟨a.re * b.re - a.im * b.im, a.re * b.im + a.im * b.re⟩

def conj (a : Complex) : Complex := ⟨a.re, -a.im⟩

end Complex

namespace Spectrum

def pi : Float := 3.141592653589793

def roots (n : Nat) : Array Complex :=
  Array.ofFn fun k : Fin n =>
    let angle := 2 * pi * Float.ofNat k / Float.ofNat n
    ⟨angle.cos, -angle.sin⟩

/-- Transform of the `2 ^ e` entries of `xs` that stand `stride` apart from `start` on; `w` holds
the roots of unity for `stride * 2 ^ e`. -/
def byHalves (w xs : Array Complex) (start stride : Nat) : (e : Nat) → Array Complex
  | 0 => #[xs.getD start default]
  | e + 1 =>
    let even := byHalves w xs start (2 * stride) e
    let odd := byHalves w xs (start + stride) (2 * stride) e
    let half := 2 ^ e
    Array.ofFn fun k : Fin (2 * half) =>
      (even.getD (k % half) default).add
        ((w.getD (k * stride) default).mul (odd.getD (k % half) default))

def chirped (xs : Array Complex) : Array Complex :=
  let n := xs.size
  let e := (2 * n).log2 + 1
  let m := 2 ^ e
  let turns := roots (2 * n)
  let chirp := fun (k : Nat) => turns.getD (k * k % (2 * n)) default
  let signal := xs.mapIdx fun i x => x.mul (chirp i)
  let echo := Array.ofFn fun i : Fin m =>
    if i < n then (chirp i).conj else if m < i + n then (chirp (m - i)).conj else ⟨0, 0⟩
  let w := roots m
  let product :=
    (byHalves w signal 0 1 e).zipWith (fun a b => (a.mul b).conj) (byHalves w echo 0 1 e)
  let wave := byHalves w product 0 1 e
  let scale := Complex.ofReal (1 / Float.ofNat m)
  Array.ofFn fun k : Fin n => ((wave.getD k default).conj.mul scale).mul (chirp k)

def factorFrom (n d : Nat) : Nat :=
  if n < d * d then n else if n % d = 0 then d else factorFrom n (d + 1)
termination_by n - d
decreasing_by
  rename_i hr hd
  have : d ≠ n := fun e => hd (by simp [e])
  have := Nat.le_mul_self d
  omega

theorem one_lt_factorFrom {n d : Nat} (hn : 1 < n) (hd : 1 < d) : 1 < factorFrom n d := by
  fun_induction factorFrom n d with
  | case1 => exact hn
  | case2 => exact hd
  | case3 _ _ _ ih => exact ih (by omega)

def byFactors (w xs : Array Complex) (start stride n : Nat) : Array Complex :=
  if h : n ≤ 1 then #[xs.getD start default]
  else
    let p := factorFrom n 2
    if p = n ∧ 64 < n then
      chirped (Array.ofFn fun i : Fin n => xs.getD (start + i * stride) default)
    else
      have : n / p < n :=
        Nat.div_lt_self (by omega) (one_lt_factorFrom (by omega) (by omega))
      let parts := (List.range p).map fun r =>
        (r, byFactors w xs (start + r * stride) (stride * p) (n / p))
      Array.ofFn fun k : Fin n =>
        parts.foldl (fun sum part =>
          sum.add <| (w.getD (part.1 * k % n * stride) default).mul
            (part.2.getD (k % (n / p)) default))
          ⟨0, 0⟩
termination_by n

def transform (xs : Array Complex) : Array Complex := byFactors (roots xs.size) xs 0 1 xs.size

end Spectrum

end Overdub
