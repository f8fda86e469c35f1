import Overdub.Number

/-!
Whole numbers as bytes, little end first, and taking byte strings apart from the front.
-/

namespace Overdub.Bytes

def word : List UInt8 → Nat
  | [] => 0
  | b :: bs => b.toNat + 256 * word bs

def signed (bs : List UInt8) : Int :=
  let n := word bs
  if 2 * n < 256 ^ bs.length then n else n - (256 ^ bs.length : Nat)

def ofWord : Nat → Nat → List UInt8
  | 0, _ => []
  | size + 1, n => UInt8.ofNat n :: ofWord size (n / 256)

def ofSigned (size : Nat) (n : Int) : List UInt8 := ofWord size (n % (256 ^ size : Nat)).toNat

@[simp] theorem length_ofWord (size n : Nat) : (ofWord size n).length = size := by
  induction size generalizing n with
  | zero => rfl
  | succ size ih => simp [ofWord, ih]

theorem word_ofWord {size n : Nat} (h : n < 256 ^ size) : word (ofWord size n) = n := by
  induction size generalizing n with
  | zero => simp_all [ofWord, word]
  | succ size ih =>
    have := ih (n := n / 256) (by omega)
    simp [ofWord, word, this]
    omega

/-- Reads a value from the front of a byte string, or fails with an `ε`. -/
abbrev Scan (ε : Type) := StateT (List UInt8) (Except ε)

namespace Scan

variable {ε : Type}

def take (short : ε) (n : Nat) : Scan ε (List UInt8) := fun s =>
  let bs := s.take n
  if bs.length < n then .error short else .ok (bs, s.drop n)

def word (short : ε) (n : Nat) : Scan ε Nat := Bytes.word <$> take short n

end Scan

end Overdub.Bytes
