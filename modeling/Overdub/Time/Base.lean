import Overdub.Time.Duration

/-!
Clocks. A time base fixes the length of one tick as a fraction of a second; a tick count moves
from one clock to another by one exact rounding.
-/

namespace Overdub

namespace Ticks

def least : Int := -2 ^ 63

def most : Int := 2 ^ 63 - 1

def clamp (n : Int) : Int := clampTo least most n

def Valid (n : Int) : Prop := least ≤ n ∧ n ≤ most

instance : DecidablePred Valid := fun _ => inferInstanceAs (Decidable (_ ∧ _))

end Ticks

/-- One tick lasts `num / den` seconds. -/
structure TimeBase where
  num : UInt32
  den : UInt32
  num_ne : num ≠ 0
  den_ne : den ≠ 0
  deriving DecidableEq

namespace TimeBase

def of? (num den : UInt32) : Option TimeBase :=
  if hn : num = 0 then none
  else if hd : den = 0 then none
  else some ⟨num, den, hn, hd⟩

def perSample (rate : UInt32) (h : rate ≠ 0) : TimeBase := ⟨1, rate, by decide, h⟩

def ofRate? (rate : UInt32) : Option TimeBase :=
  if h : rate = 0 then none else some (perSample rate h)

def microseconds : TimeBase := perSample 1000000 (by decide)

def render (b : TimeBase) : String := s!"{b.num.toNat}/{b.den.toNat}"

/-- The tick of `c` nearest to `ticks` ticks of `b`; half-way cases go away from zero. -/
def rescale (b : TimeBase) (ticks : Int) (c : TimeBase) : Int :=
  Ticks.clamp (roundAway (ticks * b.num.toNat * c.den.toNat) (b.den.toNat * c.num.toNat))

/-- Time of a tick to the microsecond; ticks before zero are at zero. -/
def toDuration (b : TimeBase) (ticks : Int) : Duration :=
  .ofMicros (b.rescale ticks microseconds).toNat

def ofDuration (b : TimeBase) (d : Duration) : Int :=
  microseconds.rescale (min (d.micros : Int) Ticks.most) b

end TimeBase

end Overdub
