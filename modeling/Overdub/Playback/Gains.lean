import Overdub.Pcm.Buffer

/-!
Adding speech to the primary audio, one scalar at a time. Each side is scaled by its own gain;
the sum stops at the ends of the kind's range.
-/

namespace Overdub

def wholeFloat (n : Int) : Float :=
  let size := n.natAbs.toUInt64.toFloat
  if n < 0 then -size else size

def wholePart (x : Float) : Int := x.toUInt64.toNat - (-x).toUInt64.toNat

def scaled (lo hi : Int) (gain : Float) (n : Int) : Int :=
  clampTo lo hi (wholePart (wholeFloat n * gain))

structure Gains where
  primary : Float := 1
  speech : Float := 1

def Gains.sum (g : Gains) (lo hi : Int) (p s : Int) : Int :=
  scaled lo hi g.primary p + scaled lo hi g.speech s

/-- Integers are scaled where there is room for twice their bits. Floats add as they are and what is
not a number stays so. -/
def Kind.mix : (k : Kind) → Gains → k.Scalar → k.Scalar → k.Scalar
  | .u8, g, p, s =>
    let sum := g.sum 0 (2 ^ 16 - 1) (UInt8.toNat p) (UInt8.toNat s)
    UInt8.ofNat (clampTo 0 (2 ^ 8 - 1) sum).toNat
  | .s16, g, p, s =>
    let sum := g.sum (-2 ^ 31) (2 ^ 31 - 1) (Int16.toInt p) (Int16.toInt s)
    Int16.ofInt (clampTo (-2 ^ 15) (2 ^ 15 - 1) sum)
  | .s32, g, p, s =>
    let sum := g.sum (-2 ^ 63) (2 ^ 63 - 1) (Int32.toInt p) (Int32.toInt s)
    Int32.ofInt (clampTo (-2 ^ 31) (2 ^ 31 - 1) sum)
  | .f32, g, p, s =>
    .ofFloat (confine (-1) 1
      (Single.toFloat p * g.primary.toFloat32 + Single.toFloat s * g.speech.toFloat32))
  | .f64, g, p, s =>
    .ofFloat (confine (-1) 1 (Double.toFloat p * g.primary + Double.toFloat s * g.speech))

def Slice.mix {k : Kind} {c : Nat} (g : Gains) (p s : Slice k c) : Slice k c :=
  p.zipWith (k.mix g) s

end Overdub
