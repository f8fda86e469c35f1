import Overdub.Pcm.Frame
import Overdub.Wave.Header

/-!
Frames as a wave file. Scalars of another kind than the file's are converted by way of floats.
-/

namespace Overdub

def Frame.scalarsAs (f : Frame) (k : Kind) : List k.Scalar :=
  let scalars := Slice.interleave f.slices
  if h : f.stream.format.kind = k then h ▸ scalars
  else scalars.map fun x => k.ofSingle (f.stream.format.kind.toSingle x)

namespace Wave

def Spec.ofStream (s : Stream) : Except Error Spec :=
  let encoding : Except Error (Nat × Bool) :=
    match s.format.kind with
    | .u8 => .ok (8, false)
    | .s16 => .ok (16, false)
    | .s32 => .ok (32, false)
    | .f32 => .ok (32, true)
    | .f64 => .error .doubleFloats
  match encoding with
  | .error e => .error e
  | .ok (bits, float) =>
    if s.channels < 2 ^ 16 then .ok ⟨s.channels, s.rate, bits, float⟩
    else .error (.tooManyChannels s.channels)

structure Writer where
  spec : Spec
  frames : Nat := 0
  /-- What was written last comes first. -/
  data : List (List UInt8) := []

namespace Writer

def start? (spec : Spec) : Except Error Writer :=
  if spec.bits ∈ [8, 16, 24, 32] then .ok { spec } else .error (.file .unsupported)

def write (w : Writer) (f : Frame) : Except Error Writer :=
  if w.spec.channels ≠ f.stream.channels then
    .error (.channelCount f.stream.channels w.spec.channels)
  else
    match Coding.of? w.spec.bits w.spec.float w.spec.width with
    | some c =>
      .ok { w with
        frames := w.frames + 1
        data := (f.scalarsAs c.kind).flatMap c.encode :: w.data }
    | none =>
      if f.slices.isEmpty then .ok { w with frames := w.frames + 1 }
      else .error (.file .unsupported)

def channelMask (channels : Nat) : Nat := 2 ^ min channels 18 - 1

def format (s : Spec) : List UInt8 :=
  let align := s.width * s.channels
  let isShort := s.channels ≤ 2 ∧ s.bits ≤ 16
  let common :=
    Bytes.ofWord 2 (if isShort then formatPcm else formatExtensible) ++
      Bytes.ofWord 2 s.channels ++ Bytes.ofWord 4 s.rate.toNat ++
      Bytes.ofWord 4 (align * s.rate.toNat) ++ Bytes.ofWord 2 align ++ Bytes.ofWord 2 s.bits
  let chunk :=
    if isShort then common
    else
      common ++ Bytes.ofWord 2 22 ++ Bytes.ofWord 2 s.bits ++
        Bytes.ofWord 4 (channelMask s.channels) ++
        Bytes.ofWord 2 (if s.float then formatFloat else formatPcm) ++ subformatTail
  tag "fmt " ++ Bytes.ofWord 4 chunk.length ++ chunk

def finish (w : Writer) : List UInt8 :=
  let data := w.data.reverse.flatten
  let body := tag "WAVE" ++ format w.spec ++ tag "data" ++ Bytes.ofWord 4 data.length ++ data
  tag "RIFF" ++ Bytes.ofWord 4 body.length ++ body

end Writer

end Wave

end Overdub
