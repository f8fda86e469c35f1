import Overdub.Binary64
import Overdub.Text.Numeral
import Overdub.Text.Split

/-!
Decimal numbers as floats, each the float nearest to it.
-/

namespace Overdub.Text

/-- The float nearest to `digits * 10 ^ exponent`. Exponents beyond all floats are told by the
number of digits alone. -/
def nearestFloat (digits : Nat) (exponent : Int) : Float :=
  let size : Int := (Nat.toDigits 10 digits).length + exponent
  if digits = 0 || size < -400 then 0
  else if 400 < size then .ofBits 0x7ff0000000000000
  else
    (Dyadic.ofRatio (digits * 10 ^ exponent.toNat) (10 ^ (-exponent).toNat)).toFloat

def exponent? (s : List Char) : Option Int :=
  let (isNegative, digits) :=
    match s with
    | '-' :: s => (true, s)
    | '+' :: s => (false, s)
    | s => (false, s)
  if digits.isEmpty || !digits.all isDigit then none
  else some (if isNegative then -(ofDigits digits : Int) else ofDigits digits)

def magnitude? (s : List Char) : Option Float :=
  let number := s.takeWhile fun c => c ≠ 'e' && c ≠ 'E'
  let whole := number.takeWhile (· ≠ '.')
  let places := number.drop (whole.length + 1)
  let exponent :=
    if number.length < s.length then exponent? (s.drop (number.length + 1)) else some 0
  if (whole ++ places).isEmpty || !(whole ++ places).all isDigit then none
  else exponent.map fun e => nearestFloat (ofDigits (whole ++ places)) (e - places.length)

def float? (s : List Char) : Option Float :=
  let (isNegative, rest) :=
    match s with
    | '-' :: s => (true, s)
    | '+' :: s => (false, s)
    | s => (false, s)
  let size :=
    if lower rest ∈ ["inf".toList, "infinity".toList] then some (.ofBits 0x7ff0000000000000)
    else if lower rest = "nan".toList then some (.ofBits 0x7ff8000000000000)
    else magnitude? rest
  size.map fun x => if isNegative then -x else x

end Overdub.Text
