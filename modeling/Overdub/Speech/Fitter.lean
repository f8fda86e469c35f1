import Overdub.Pcm.Frame
import Overdub.Speech.Stretch
import Overdub.Speech.Rate.Converter

/-!
Fitting speech to a stream. Decoded frames become one channel at a fixed working rate, are
stretched, brought to the rate of the stream and copied to all of its channels; time stamps go on
from the first frame that has one.
-/

namespace Overdub

def Slice.mean {k : Kind} {c : Nat} (s : Slice k c) : Float32 :=
  match s.toList.map fun x => (k.toSingle x).toFloat with
  | [] => 0
  | [x] => x
  | x :: xs => xs.foldl (· + ·) x * (1 / Float32.ofNat c)

structure Fitter where
  source : Stream
  target : Stream
  timeBase : TimeBase
  inward : RateConverter
  stretch : Option Stretch
  outward : RateConverter
  /-- Time of the first sample, once it is known. -/
  origin : Option Int := none
  emitted : Nat := 0
  rate_ne : target.rate ≠ 0
  channels_pos : 0 < target.channels

namespace Fitter

def workingRate : UInt32 := 48000

def start? (source target : Stream) (timeBase : TimeBase) (speed : Float) :
    Except FitError Fitter :=
  if hs : source.rate = 0 then .error .zeroRate
  else if source.channels = 0 then .error .zeroChannels
  else if ht : target.rate = 0 then .error .zeroRate
  else if hc : target.channels = 0 then .error .zeroChannels
  else do
    let stretch ← Stretch.start? speed
    return {
      source, target, timeBase
      inward := .start source.rate workingRate hs
      stretch := if speed == 1 then none else some stretch
      outward := .start workingRate target.rate (by decide)
      rate_ne := ht
      channels_pos := Stream.channels_pos hc }

/-- A frame of `samples`, the same on every channel, if there are any. -/
def stamp (f : Fitter) (samples : List Float32) : Option Frame × Fitter :=
  if samples.isEmpty then (none, f)
  else
    let perSample := TimeBase.perSample f.target.rate f.rate_ne
    let pts := f.origin.map (· + perSample.rescale (min f.emitted Ticks.most) f.timeBase)
    (some {
        stream := f.target
        timeBase := f.timeBase
        pts
        slices := samples.map fun x => .replicate _ (f.target.format.kind.ofSingle (.ofFloat x))
        rate_ne := f.rate_ne
        channels_pos := f.channels_pos },
      { f with emitted := f.emitted + samples.length })

def bounded (r : Option Frame × Fitter) : Except FitError (Option Frame × Fitter) :=
  if ∀ x ∈ r.1, x.Stamped then .ok r else .error .overflow

def emit (f : Fitter) (samples : List Float32) : Except FitError (Option Frame × Fitter) :=
  bounded (f.stamp samples)

def convey (f : Fitter) (samples : List Float32) : List Float32 × Fitter :=
  let (samples, stretch) :=
    match f.stretch with
    | none => (samples, none)
    | some s =>
      let (out, s) := s.push samples
      (out, some s)
  let (out, outward) := f.outward.push samples
  (out, { f with stretch, outward })

/-- Fits one frame, which must have the rate and channels of the source. -/
def push (f : Fitter) (frame : Frame) : Except FitError (Option Frame × Fitter) :=
  if frame.stream.rate = f.source.rate ∧ frame.stream.channels = f.source.channels then
    let origin := f.origin <|> frame.pts.map fun pts => frame.timeBase.rescale pts f.timeBase
    let (samples, inward) := f.inward.push (frame.slices.map Slice.mean)
    let (out, f) := convey { f with origin, inward } samples
    f.emit out
  else
    .error (.inputFormat f.source.rate.toNat f.source.channels frame.stream.rate.toNat
      frame.stream.channels)

def flush (f : Fitter) : Except FitError (Option Frame × Fitter) :=
  let (samples, inward) := f.inward.flush
  let (samples, stretch) :=
    match f.stretch with
    | none => (samples, none)
    | some s =>
      let (out, s) := s.push samples
      let (rest, s) := s.flush
      (out ++ rest, some s)
  let (out, outward) := f.outward.push samples
  let (rest, outward) := outward.flush
  emit { f with inward, stretch, outward } (out ++ rest)

end Fitter

end Overdub
