import Overdub.Speech.Rate.Spectrum

/-!
The low-pass filter between two rates: a windowed sine quotient that leaves out what the lower
rate cannot carry.
-/

namespace Overdub

structure BlockSize where
  input : Nat
  output : Nat
  input_pos : 0 < input

namespace BlockSize

/-- The least block of at least `512` samples in which both rates come out whole. -/
def ofRates (source target : Nat) (h : 0 < source) : BlockSize :=
  let g := source.gcd target
  let k := (512 + source / g - 1) / (source / g)
  have hs : 0 < source / g := Nat.div_pos (Nat.gcd_le_left _ h) (Nat.gcd_pos_of_pos_left _ h)
  ⟨k * (source / g), k * (target / g),
    Nat.mul_pos (Nat.div_pos (by omega) hs) hs⟩

end BlockSize

namespace Kernel

open Spectrum (pi)

def cutoff (n : Float) : Float :=
  1 / (13.745202940783823 / n + 121.73532586374934 / (n * n) + 5964.163279612051 / (n * n * n) + 1)

def edge (s : BlockSize) : Float :=
  let input := Float.ofNat s.input
  let output := Float.ofNat s.output
  if s.input ≤ s.output then cutoff input else cutoff output * output / input

def taper (n x : Float) : Float :=
  0.35875 - 0.48829 * (2 * pi * x / n).cos + 0.14128 * (4 * pi * x / n).cos
    - 0.01168 * (6 * pi * x / n).cos

def sineQuotient (v : Float) : Float := if v == 0 then 1 else (pi * v).sin / (pi * v)

def impulse (s : BlockSize) : List Float :=
  let c := edge s
  let n := Float.ofNat s.input
  let raw := (List.range s.input).map fun (i : Nat) =>
    let x := Float.ofNat i
    let t := taper n x
    t * t * sineQuotient ((x - Float.ofNat (s.input / 2)) * c)
  let sum := raw.foldl (· + ·) 0
  raw.map (· / (sum * 2 * n))

def response (s : BlockSize) : Array Complex :=
  Spectrum.transform
    ((impulse s).map Complex.ofReal ++ .replicate s.input ⟨0, 0⟩).toArray

end Kernel

end Overdub
