import Overdub.Speech.Pace

/-!
The weights of a window: a raised cosine, whose two halves add up to one where windows overlap.
-/

namespace Overdub.Window

def quarterTurn : Float := .ofBits 0x3ff921fb54442d18

/-- Cosine in single precision, for angles that are not negative: a polynomial for what the angle is
off the nearest quarter turn. -/
def cosine (angle : Float32) : Float32 :=
  let turns := (angle.toFloat / quarterTurn + 0.5).toUInt64
  let x := angle.toFloat - turns.toFloat * quarterTurn
  let y := x * x
  let even := 1 + y * (.ofBits 0xbfdffffffd0c621c + y * (.ofBits 0x3fa55553e1068f19 +
    y * (.ofBits 0xbf56c087e89a359d + y * .ofBits 0x3ef99343027bf8c3)))
  let odd := x + x * y * (.ofBits 0xbfc555545995a603 + y * (.ofBits 0x3f81107605230bc4 +
    y * .ofBits 0xbf2994eb3774cf24))
  match turns.toNat % 4 with
  | 0 => even.toFloat32
  | 1 => (-odd).toFloat32
  | 2 => (-even).toFloat32
  | _ => odd.toFloat32

def pi : Float32 := .ofBits 0x40490fdb

def weight (i : Nat) : Float32 :=
  0.5 - 0.5 * cosine (2 * pi * Float32.ofNat i / Float32.ofNat Pace.window)

def rising : List Float32 := (List.range Pace.hop).map weight

def falling : List Float32 := (List.range Pace.hop).map fun i => weight (Pace.hop + i)

end Overdub.Window
