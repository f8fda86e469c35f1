/-!
Floats as their bits. The bits tell apart floats that are equal or are not numbers at all, so a
float that is only passed on comes out as it went in.
-/

namespace Overdub

structure Single where
  bits : UInt32
  deriving DecidableEq, Repr

structure Double where
  bits : UInt64
  deriving DecidableEq, Repr

namespace Single

def ofFloat (x : Float32) : Single := ⟨x.toBits⟩

def toFloat (x : Single) : Float32 := .ofBits x.bits

def isNaN (x : Single) : Bool := 0x7f800000 < x.bits &&& 0x7fffffff

/-- What is not a number keeps its sign and the bits of its fraction, and becomes quiet. -/
def widen (x : Single) : Double :=
  if x.isNaN then
    let sign := (x.bits >>> 31).toUInt64 <<< 63
    ⟨sign ||| (0x7ff8000000000000 : UInt64) ||| ((x.bits &&& 0x7fffff).toUInt64 <<< 29)⟩
  else ⟨x.toFloat.toFloat.toBits⟩

end Single

namespace Double

def ofFloat (x : Float) : Double := ⟨x.toBits⟩

def toFloat (x : Double) : Float := .ofBits x.bits

def isNaN (x : Double) : Bool := 0x7ff0000000000000 < x.bits &&& 0x7fffffffffffffff

def narrow (x : Double) : Single :=
  if x.isNaN then
    let sign := (x.bits >>> 63).toUInt32 <<< 31
    ⟨sign ||| (0x7fc00000 : UInt32) ||| ((x.bits &&& 0xfffffffffffff) >>> 29).toUInt32⟩
  else ⟨x.toFloat.toFloat32.toBits⟩

end Double

end Overdub
