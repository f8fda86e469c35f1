import Overdub.Number

/-!
Decimal numerals for machine words.
-/

namespace Overdub.Text

def isDigit (c : Char) : Bool := '0' ≤ c && c ≤ '9'

def digit (c : Char) : Nat := c.toNat - '0'.toNat

def ofDigits (s : List Char) : Nat := s.foldl (fun n c => n * 10 + digit c) 0

/-- One or more digits after an optional plus sign, for a number below `2 ^ bits`. -/
def word? (bits : Nat) (s : List Char) : Option Nat :=
  let s := if s.head? = some '+' then s.tail else s
  if s.isEmpty || !s.all isDigit then none
  else if ofDigits s < 2 ^ bits then some (ofDigits s) else none

end Overdub.Text
