import Overdub.Binary64

/-!
Floats as decimals: the fewest digits that still read back as the same float, and of those the
nearest, written without an exponent.
-/

namespace Overdub.Text

structure Decimal where
  digits : Nat
  exponent : Int
  deriving DecidableEq, Repr

namespace Decimal

def compare (c : Nat) (e : Int) (n : Nat) (q : Int) : Ordering :=
  Ord.compare (c * 10 ^ e.toNat * 2 ^ (-q).toNat) (n * 2 ^ q.toNat * 10 ^ (-e).toNat)

/-- Whether `c * 10 ^ e` lies where every number rounds to `d`. The ends belong to it if the
mantissa is even. -/
def readsBack (d : Dyadic) (c : Nat) (e : Int) : Bool :=
  let q := d.exponent - 2
  let low := compare c e (4 * d.mantissa - if d.isNarrow then 1 else 2) q
  let high := compare c e (4 * d.mantissa + 2) q
  if d.mantissa % 2 = 0 then low != .lt && high != .gt else low == .gt && high == .lt

def floor (d : Dyadic) (e : Int) : Nat :=
  d.mantissa * 2 ^ d.exponent.toNat * 10 ^ (-e).toNat / (10 ^ e.toNat * 2 ^ (-d.exponent).toNat)

def onGrid? (d : Dyadic) (e : Int) : Option Decimal :=
  let c := floor d e
  match readsBack d c e, readsBack d (c + 1) e with
  | true, true =>
    if compare (2 * c + 1) e (2 * d.mantissa) d.exponent = .lt then some ⟨c + 1, e⟩ else some ⟨c, e⟩
  | true, false => some ⟨c, e⟩
  | false, true => some ⟨c + 1, e⟩
  | false, false => none

def grids : List Int := (List.range 650).map fun (i : Nat) => 309 - (i : Int)

def shortest (d : Dyadic) : Decimal :=
  if d.mantissa = 0 then ⟨0, 0⟩ else (grids.findSome? (onGrid? d)).getD ⟨0, 0⟩

def render (d : Decimal) : List Char :=
  let ds := (Nat.toDigits 10 d.digits)
  if 0 ≤ d.exponent then ds ++ .replicate d.exponent.toNat '0'
  else
    let places := (-d.exponent).toNat
    let ds := .replicate (places + 1 - ds.length) '0' ++ ds
    ds.take (ds.length - places) ++ '.' :: ds.drop (ds.length - places)

end Decimal

def ofFloat (x : Float) : String :=
  if x.isNaN then "NaN"
  else
    let magnitude := if x.isInf then "inf".toList else (Decimal.shortest (.ofFloat x)).render
    .ofList (if x.toBits.toNat < 2 ^ 63 then magnitude else '-' :: magnitude)

end Overdub.Text
