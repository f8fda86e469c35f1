import Overdub.Bytes
import Overdub.Pcm.Scalar

/-!
How a wave file stores one scalar. What was written reads back as it was, except that 24 bits
cannot hold all of a 32-bit scalar.
-/

namespace Overdub.Wave

structure Spec where
  channels : Nat
  rate : UInt32
  bits : Nat
  float : Bool
  deriving DecidableEq, Repr

inductive Coding
  | u8
  | s16
  | s24 (padded : Bool)
  | s32
  | f32
  | f64
  deriving DecidableEq, Repr

namespace Coding

/-- Scalars of 24 bits are kept at the left of 32. -/
def kind : Coding → Kind
  | .u8 => .u8
  | .s16 => .s16
  | .s24 _ | .s32 => .s32
  | .f32 => .f32
  | .f64 => .f64

def width : Coding → Nat
  | .u8 => 1
  | .s16 => 2
  | .s24 padded => if padded then 4 else 3
  | .s32 | .f32 => 4
  | .f64 => 8

theorem width_pos (c : Coding) : 0 < c.width := by
  rcases c with _ | _ | ⟨_ | _⟩ | _ | _ | _ <;> decide

def of? (bits : Nat) (float : Bool) (width : Nat) : Option Coding :=
  match float, bits, width with
  | false, 8, 1 => some .u8
  | false, 16, 2 => some .s16
  | false, 24, 3 => some (.s24 false)
  | false, 24, 4 => some (.s24 true)
  | false, 32, 4 => some .s32
  | true, 32, 4 => some .f32
  | true, 64, 8 => some .f64
  | _, _, _ => none

def decode : (c : Coding) → List UInt8 → c.kind.Scalar
  | .u8, bs => UInt8.ofNat (Bytes.word bs)
  | .s16, bs => Int16.ofInt (Bytes.signed bs)
  | .s24 _, bs => Int32.ofInt (Bytes.signed (bs.take 3) * 256)
  | .s32, bs => Int32.ofInt (Bytes.signed bs)
  | .f32, bs => Single.mk (UInt32.ofNat (Bytes.word bs))
  | .f64, bs => Double.mk (UInt64.ofNat (Bytes.word bs))

def encode : (c : Coding) → c.kind.Scalar → List UInt8
  | .u8, x => [(x : UInt8)]
  | .s16, x => Bytes.ofSigned 2 (Int16.toInt x)
  | .s24 padded, x => Bytes.ofSigned (if padded then 4 else 3) (Int32.toInt x / 256)
  | .s32, x => Bytes.ofSigned 4 (Int32.toInt x)
  | .f32, x => Bytes.ofWord 4 (Single.bits x).toNat
  | .f64, x => Bytes.ofWord 8 (Double.bits x).toNat

def decodeAll (c : Coding) (bs : List UInt8) : List c.kind.Scalar :=
  if (bs.take c.width).length = c.width then
    c.decode (bs.take c.width) :: decodeAll c (bs.drop c.width)
  else []
termination_by bs.length
decreasing_by
  have := c.width_pos
  simp only [List.length_take, List.length_drop] at *; omega

end Coding

namespace Spec

def kind? (s : Spec) : Option Kind :=
  match s.float, s.bits with
  | false, 8 => some .u8
  | false, 16 => some .s16
  | false, 24 | false, 32 => some .s32
  | true, 32 => some .f32
  | _, _ => none

def width (s : Spec) : Nat := (s.bits + 7) / 8

end Spec

end Overdub.Wave
