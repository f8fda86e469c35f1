import Overdub.Number

/-!
Double-precision floats as exact numbers, a mantissa times a power of two.
-/

namespace Overdub

/-- The magnitude `mantissa * 2 ^ exponent` of a finite float. -/
structure Dyadic where
  mantissa : Nat
  exponent : Int
  deriving DecidableEq, Repr

namespace Dyadic

def ofBits (bits : Nat) : Dyadic :=
  let e : Nat := bits / 2 ^ 52 % 2 ^ 11
  let m : Nat := bits % 2 ^ 52
  if e = 0 then ⟨m, -1074⟩ else ⟨m + 2 ^ 52, e - 1075⟩

def ofFloat (x : Float) : Dyadic := ofBits x.toBits.toNat

def isNarrow (d : Dyadic) : Bool := d.mantissa = 2 ^ 52 ∧ -1074 < d.exponent

def scaled (d : Dyadic) (scale : Nat) : Nat :=
  roundEven (d.mantissa * scale * 2 ^ d.exponent.toNat) (2 ^ (-d.exponent).toNat)

def binade (n d : Nat) : Int :=
  let e : Int := (n.log2 : Int) - d.log2
  if d * 2 ^ e.toNat ≤ n * 2 ^ (-e).toNat then e else e - 1

/-- The float nearest to `n / d`, of 53 binary digits or as many as its exponent leaves it; a half
goes to the even neighbour. -/
def ofRatio (n d : Nat) : Dyadic :=
  if n = 0 then ⟨0, 0⟩
  else
    let q := max (binade n d - 52) (-1074)
    ⟨roundEven (n * 2 ^ (-q).toNat) (d * 2 ^ q.toNat), q⟩

def ofNat (n : Nat) : Dyadic := ofRatio n 1

def toFloat (d : Dyadic) : Float :=
  let bits :=
    if d.mantissa < 2 ^ 52 then d.mantissa
    else (d.exponent + 1075).toNat * 2 ^ 52 + (d.mantissa - 2 ^ 52)
  .ofBits (UInt64.ofNat (min bits (0x7ff * 2 ^ 52)))

def mul (a b : Dyadic) : Dyadic :=
  let e := a.exponent + b.exponent
  ofRatio (a.mantissa * b.mantissa * 2 ^ e.toNat) (2 ^ (-e).toNat)

def div (a b : Dyadic) : Dyadic :=
  let e := a.exponent - b.exponent
  ofRatio (a.mantissa * 2 ^ e.toNat) (b.mantissa * 2 ^ (-e).toNat)

def toWord (d : Dyadic) : Nat :=
  min (roundAway (d.mantissa * 2 ^ d.exponent.toNat : Nat) (2 ^ (-d.exponent).toNat)).toNat
    (2 ^ 64 - 1)

end Dyadic

end Overdub
