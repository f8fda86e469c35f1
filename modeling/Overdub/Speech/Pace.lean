import Overdub.Binary64

/-!
Positions in stretched speech. Speech is taken apart into windows that start one hop apart in the
output; the pace says where in the input each of them belongs, and how much output an input makes.
-/

namespace Overdub

structure Pace where
  speed : Dyadic
  deriving DecidableEq, Repr

namespace Pace

def window : Nat := 1024

def hop : Nat := 512

def seek : Nat := 256

def place (p : Pace) (k : Nat) : Nat := ((Dyadic.ofNat (k * hop)).mul p.speed).toWord

def output (p : Pace) (fed : Nat) : Nat := ((Dyadic.ofNat fed).div p.speed).toWord

end Pace

end Overdub
