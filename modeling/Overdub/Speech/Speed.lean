import Overdub.Text.Decimal

/-!
How fast speech is played. Speech that is longer than its cue is sped up to fit, within bounds
that keep it intelligible.
-/

namespace Overdub

structure SpeedRange where
  least : Float := 1
  most : Float := 1.4

namespace Speed

def usable (x : Float) : Bool := x.isFinite && 0 < x

def larger (x y : Float) : Float := if x < y || x.isNaN then y else x

def smaller (x y : Float) : Float := if y < x || x.isNaN then y else x

def check (speed : Float) : Except Float Float :=
  if 0 < speed then .ok speed else .error speed

def complaint (speed : Float) : String := s!"invalid playback speed {Text.ofFloat speed}"

end Speed

/-- The speed at which `seconds` of speech fit into `room`; the slowest if either is unknown. The
upper bound wins over the lower. -/
def SpeedRange.fitting (r : SpeedRange) (seconds room : Float) : Float :=
  if Speed.usable seconds && Speed.usable room then
    Speed.smaller (Speed.larger (seconds / room) r.least) r.most
  else r.least

end Overdub
