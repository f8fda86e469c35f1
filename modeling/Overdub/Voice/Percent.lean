/-!
Percent coding of bytes. A byte that needs no escape stands for itself, any other becomes a
percent sign and two digits.
-/

namespace Overdub.Percent

def isUnreserved (b : UInt8) : Bool :=
  let c := Char.ofNat b.toNat
  c.isAlphanum || c == '-' || c == '.' || c == '_' || c == '~'

def digit (n : Nat) : Char := if n < 10 then Char.ofNat (48 + n) else Char.ofNat (55 + n)

def digit? (c : Char) : Option Nat :=
  if '0' ≤ c ∧ c ≤ '9' then some (c.toNat - 48)
  else if 'a' ≤ c ∧ c ≤ 'f' then some (c.toNat - 87)
  else if 'A' ≤ c ∧ c ≤ 'F' then some (c.toNat - 55)
  else none

def escape (b : UInt8) : List Char := ['%', digit (b.toNat / 16), digit (b.toNat % 16)]

def encodeByte (b : UInt8) : List Char :=
  if isUnreserved b then [Char.ofNat b.toNat] else escape b

def encode (bs : List UInt8) : List Char := bs.flatMap encodeByte

def isControl (c : Char) : Bool := c.toNat < 0x20 || 0x7e < c.toNat

def escapeIf (bad : Char → Bool) (s : List Char) : List Char :=
  s.flatMap fun c => if bad c then (String.utf8EncodeChar c).flatMap escape else [c]

/-- A percent sign before two digits of either case is an escape; any other stands for itself. -/
def decode : List Char → List UInt8
  | [] => []
  | '%' :: a :: b :: s =>
    match digit? a, digit? b with
    | some x, some y => UInt8.ofNat (16 * x + y) :: decode s
    | _, _ => 37 :: decode (a :: b :: s)
  | c :: s => String.utf8EncodeChar c ++ decode s

end Overdub.Percent
