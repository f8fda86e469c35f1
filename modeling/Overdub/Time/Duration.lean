import Overdub.Number

/-!
Lengths of time, counted in whole nanoseconds.
-/

namespace Overdub

structure Duration where
  nanos : Nat
  deriving DecidableEq, Repr

namespace Duration

def perSecond : Nat := 1000000000

def zero : Duration := ⟨0⟩

def longest : Duration := ⟨2 ^ 64 * perSecond - 1⟩

def ofParts (seconds nanos : Nat) : Duration := ⟨seconds * perSecond + nanos⟩

def ofMicros (n : Nat) : Duration := ⟨n * 1000⟩

def seconds (d : Duration) : Nat := d.nanos / perSecond

def subsecond (d : Duration) : Nat := d.nanos % perSecond

def micros (d : Duration) : Nat := d.nanos / 1000

def add (a b : Duration) : Duration := ⟨min (a.nanos + b.nanos) longest.nanos⟩

def sub (a b : Duration) : Duration := ⟨a.nanos - b.nanos⟩

instance : LE Duration := ⟨fun a b => a.nanos ≤ b.nanos⟩

instance (a b : Duration) : Decidable (a ≤ b) := inferInstanceAs (Decidable (a.nanos ≤ b.nanos))

/-- Seconds as a float: the whole seconds and the rest are rounded apart, then added. -/
def toFloat (d : Duration) : Float :=
  Float.ofNat d.seconds + Float.ofNat d.subsecond / Float.ofNat perSecond

end Duration

end Overdub
