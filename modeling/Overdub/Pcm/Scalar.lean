import Overdub.Pcm.Float
import Overdub.Pcm.Format

/-!
Scalars of each kind, silence, and the way to and from single-precision floats. Values outside
the range of an integer kind stop at its ends.
-/

namespace Overdub

abbrev Kind.Scalar : Kind → Type
  | .u8 => UInt8
  | .s16 => Int16
  | .s32 => Int32
  | .f32 => Single
  | .f64 => Double

/-- Between `lo` and `hi`; what is below neither and above neither, such as a float that is not a
number, stays as it is. -/
def confine {α : Type} [LT α] [DecidableLT α] (lo hi x : α) : α :=
  if x < lo then lo else if hi < x then hi else x

namespace Kind

instance decEq : (k : Kind) → DecidableEq k.Scalar
  | .u8 => inferInstanceAs (DecidableEq UInt8)
  | .s16 => inferInstanceAs (DecidableEq Int16)
  | .s32 => inferInstanceAs (DecidableEq Int32)
  | .f32 => inferInstanceAs (DecidableEq Single)
  | .f64 => inferInstanceAs (DecidableEq Double)

def silence : (k : Kind) → k.Scalar
  | .u8 => (128 : UInt8)
  | .s16 => (0 : Int16)
  | .s32 => (0 : Int32)
  | .f32 => (⟨0⟩ : Single)
  | .f64 => (⟨0⟩ : Double)

/-- The scalar nearest to `x` on the scale of -1 to 1, half-way cases away from zero. -/
def ofSingle : (k : Kind) → Single → k.Scalar
  | .u8, x => (confine 0 255 (x.toFloat * 128 + 128).round).toUInt8
  | .s16, x => (confine (-32768) 32767 (x.toFloat * 32768).round).toInt16
  | .s32, x => (confine (-2147483648) 2147483647 (x.toFloat.toFloat * 2147483648).round).toInt32
  | .f32, x => x
  | .f64, x => x.widen

def toSingle : (k : Kind) → k.Scalar → Single
  | .u8, x => .ofFloat (((x : UInt8).toFloat32 - 128) / 128)
  | .s16, x => .ofFloat ((x : Int16).toFloat32 / 32768)
  | .s32, x => .ofFloat ((x : Int32).toFloat / 2147483648).toFloat32
  | .f32, x => x
  | .f64, x => Double.narrow x

instance (k : Kind) : Inhabited k.Scalar := ⟨k.silence⟩

end Kind

end Overdub
