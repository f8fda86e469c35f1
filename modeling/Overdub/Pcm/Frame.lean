import Overdub.Pcm.Buffer

/-!
Frames: runs of slices of one stream, with the moment at which they start. A frame cannot be
ragged, and its stream always has a positive rate and channel count.
-/

namespace Overdub

structure Frame where
  stream : Stream
  timeBase : TimeBase
  pts : Option Int
  slices : List (Slice stream.format.kind stream.channels)
  rate_ne : stream.rate ≠ 0
  channels_pos : 0 < stream.channels

/-- What can be done to a frame once it is made. Scalars are written to places of planes; there is
nothing to write to where the planes are of another kind or do not reach so far. -/
inductive Edit
  | start (pts : Option Int)
  | write (k : Kind) (plane place : Nat) (x : k.Scalar)

namespace Frame

def format (f : Frame) : Format := f.stream.format

def kind (f : Frame) : Kind := f.stream.format.kind

def channels (f : Frame) : Nat := f.stream.channels

def length (f : Frame) : Nat := f.slices.length

def planes (f : Frame) : List (List f.stream.format.kind.Scalar) :=
  match f.stream.format.layout with
  | .planar => Slice.separate f.slices
  | .interleaved => [Slice.interleave f.slices]

def buffer (f : Frame) : Buffer := ⟨f.stream.format.kind, f.planes⟩

def Stamped (f : Frame) : Prop := ∀ t ∈ f.pts, Ticks.Valid t

instance (f : Frame) : Decidable f.Stamped :=
  inferInstanceAs (Decidable (∀ t ∈ f.pts, Ticks.Valid t))

def withPts (f : Frame) (pts : Option Int) : Frame := { f with pts }

def ofBuffer (s : Stream) (tb : TimeBase) (pts : Option Int) (b : Buffer) :
    Except FrameError Frame :=
  if hr : s.rate = 0 then .error .zeroRate
  else if hc : s.channels = 0 then .error .zeroChannels
  else if hk : b.kind = s.format.kind then
    let planes : List (List s.format.kind.Scalar) := hk ▸ b.planes
    let n := (planes.headD []).length
    let expected := s.format.planeCount s.channels
    if hp : planes.length = expected then
      if hn : ∀ p ∈ planes, p.length = n then
        match hl : s.format.layout with
        | .planar =>
          have hp : planes.length = s.channels := by
            simpa [expected, Format.planeCount, hl] using hp
          .ok ⟨s, tb, pts, Slice.sideBySide planes hp hn, hr, by omega⟩
        | .interleaved =>
          if n % s.channels = 0 then
            .ok ⟨s, tb, pts, Slice.deinterleave (by omega) (planes.headD []), hr, by omega⟩
          else .error (.interleave n s.channels)
      else .error (.planeLength 0 0)
    else .error (.planeCount expected planes.length)
  else .error (.kindMismatch s.format b.kind)

def silence (s : Stream) (tb : TimeBase) (pts : Option Int) (length : Nat) :
    Except FrameError Frame :=
  if hr : s.rate = 0 then .error .zeroRate
  else if hc : s.channels = 0 then .error .zeroChannels
  else if 2 ^ 64 ≤ length * s.stride then .error .overflow
  else
    let slice := .replicate s.channels s.format.kind.silence
    .ok ⟨s, tb, pts, .replicate length slice, hr, by omega⟩

def ofChannels (s : Stream) (tb : TimeBase) (pts : Option Int) (channels : List (List Single)) :
    Except FrameError Frame :=
  if channels.length ≠ s.channels then .error (.planeCount s.channels channels.length)
  else do ofBuffer s tb pts (← Buffer.ofChannels s.format.kind s.format.layout channels)

def toChannels (f : Frame) : List (List Single) :=
  f.buffer.toChannels f.format.layout f.channels

def slicesAs? (f : Frame) (fmt : Format) (c : Nat) : Option (List (Slice fmt.kind c)) :=
  if h : f.stream.format = fmt ∧ f.stream.channels = c then
    some (h.1 ▸ h.2 ▸ f.slices)
  else none

def write (f : Frame) (k : Kind) (plane place : Nat) (x : k.Scalar) : Frame :=
  if h : k = f.stream.format.kind then
    let x : f.stream.format.kind.Scalar := h ▸ x
    match f.stream.format.layout with
    | .planar => { f with slices := f.slices.modify place fun s => s.setIfInBounds plane x }
    | .interleaved =>
      if plane = 0 then
        { f with slices := f.slices.modify (place / f.stream.channels) fun s =>
            s.setIfInBounds (place % f.stream.channels) x }
      else f
  else f

def edit (f : Frame) : Edit → Frame
  | .start pts => f.withPts pts
  | .write k plane place x => f.write k plane place x

def editAll (f : Frame) (edits : List Edit) : Frame := edits.foldl edit f

end Frame

end Overdub
