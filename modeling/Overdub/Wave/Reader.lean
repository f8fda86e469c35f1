import Overdub.Pcm.Frame
import Overdub.Wave.Header

/-!
A wave file as frames of one size. Frames are interleaved and stamped with the number of samples
before them.
-/

namespace Overdub.Wave

structure Reader where
  spec : Spec
  stream : Stream
  /-- Absent if the scalars cannot be read, in spite of a known kind. -/
  coding : Option Coding
  frameSize : Nat
  position : Nat := 0
  left : Nat
  data : List UInt8
  rate_ne : stream.rate ≠ 0
  channels_pos : 0 < stream.channels

namespace Reader

def start? (path : String) (file : Option (List UInt8)) (frameSize : Nat) :
    Except Error Reader :=
  match file with
  | none => .error (.file .missing)
  | some bytes =>
    match Header.read bytes with
    | .error e => .error (.file e)
    | .ok h =>
      match h.spec.kind? with
      | none => .error (.encoding h.spec.bits h.spec.float)
      | some kind =>
        let stream : Stream := ⟨h.spec.rate, h.spec.channels, ⟨kind, .interleaved⟩⟩
        if hr : stream.rate = 0 then .error (.stream path .zeroRate)
        else if hc : stream.channels = 0 then .error (.stream path .zeroChannels)
        else if frameSize = 0 then .error .frameSize
        else .ok {
          spec := h.spec
          stream, frameSize
          coding := Coding.of? h.spec.bits h.spec.float h.width
          left := h.size / h.width / h.spec.channels
          data := h.data
          rate_ne := hr
          channels_pos := Nat.pos_of_ne_zero hc }

def timeBase (r : Reader) : TimeBase := .perSample r.stream.rate r.rate_ne

def next (r : Reader) : Except Error (Option Frame × Reader) :=
  let n := min r.frameSize r.left
  if 2 ^ 64 ≤ r.frameSize * r.stream.channels then .error .overflow
  else if n = 0 then .ok (none, r)
  else
    match r.coding with
    | none => .error (.file .unsupported)
    | some coding =>
      if h : coding.kind = r.stream.format.kind then
        let size := n * r.stream.channels * coding.width
        let bytes := r.data.take size
        if bytes.length < size then .error (.file .short)
        else
          let scalars : List r.stream.format.kind.Scalar := h ▸ coding.decodeAll bytes
          .ok (some {
              stream := r.stream
              timeBase := r.timeBase
              pts := some r.position
              slices := Slice.deinterleave r.channels_pos scalars
              rate_ne := r.rate_ne
              channels_pos := r.channels_pos },
            { r with
              position := r.position + n
              left := r.left - n
              data := r.data.drop size })
      else .error (.file .unsupported)

theorem left_lt {r r' : Reader} {f : Frame} (h : r.next = .ok (some f, r')) : r'.left < r.left := by
  unfold next at h
  grind

end Reader

end Overdub.Wave
