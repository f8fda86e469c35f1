import Overdub.Time.Base

/-!
What a PCM stream carries: the numeric kind of a scalar, how channels share the planes of a
frame, how many channels there are and how many samples a second.
-/

namespace Overdub

inductive Kind
  | u8 | s16 | s32 | f32 | f64
  deriving DecidableEq, Repr

/-- Interleaved channels take turns in one plane; planar ones have a plane each. -/
inductive Layout
  | interleaved | planar
  deriving DecidableEq, Repr

structure Format where
  kind : Kind
  layout : Layout
  deriving DecidableEq, Repr

structure Stream where
  rate : UInt32
  channels : Nat
  format : Format
  deriving DecidableEq, Repr

theorem Stream.channels_pos {s : Stream} (h : s.channels ≠ 0) : 0 < s.channels :=
  Nat.pos_of_ne_zero h

def Kind.name : Kind → String
  | .u8 => "u8"
  | .s16 => "s16"
  | .s32 => "s32"
  | .f32 => "f32"
  | .f64 => "f64"

namespace Format

def all : List Format :=
  [Kind.u8, .s16, .s32, .f32, .f64].flatMap fun k => [⟨k, .interleaved⟩, ⟨k, .planar⟩]

def name : Format → String
  | ⟨k, .interleaved⟩ => k.name
  | ⟨k, .planar⟩ => k.name ++ "p"

def ofName? (s : String) : Option Format := all.find? (·.name == s)

def planeCount (f : Format) (channels : Nat) : Nat :=
  match f.layout with
  | .interleaved => 1
  | .planar => channels

end Format

inductive FrameError
  | zeroChannels
  | zeroRate
  | kindMismatch (format : Format) (found : Kind)
  | planeCount (expected found : Nat)
  | planeLength (expected found : Nat)
  | interleave (length channels : Nat)
  | allocation
  | overflow
  deriving DecidableEq, Repr

def FrameError.message : FrameError → String
  | .zeroChannels => "audio frame has zero channels"
  | .zeroRate => "audio frame has a zero sample rate"
  | .kindMismatch format found =>
    s!"sample buffer holds {found.name} scalars but format {format.name} was declared"
  | .planeCount expected found => s!"expected {expected} planes, found {found}"
  | .planeLength expected found => s!"expected plane length {expected}, found {found}"
  | .interleave length channels =>
    s!"interleaved plane of {length} scalars does not divide into {channels} channels"
  | .allocation => "out of memory while allocating sample storage"
  | .overflow => "attempt to multiply with overflow"

namespace Stream

def check (s : Stream) : Except FrameError Unit :=
  if s.rate = 0 then .error .zeroRate
  else if s.channels = 0 then .error .zeroChannels
  else .ok ()

def timeBase? (s : Stream) : Option TimeBase := TimeBase.ofRate? s.rate

def stride (s : Stream) : Nat :=
  match s.format.layout with
  | .planar => 1
  | .interleaved => s.channels

end Stream

end Overdub
