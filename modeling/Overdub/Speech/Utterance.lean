import Overdub.Binary64
import Overdub.Pcm.Frame
import Overdub.Speech.Container

/-!
Decoded speech: frames of one source stream, and how they come to an end.
-/

namespace Overdub

inductive Ending
  | finished
  | broken (fault : DecodeError)
  | outOfMemory

structure Utterance where
  stream : Stream
  timeBase : TimeBase
  /-- Length of the whole, zero if it is not known. -/
  duration : Duration
  frames : List Frame
  ending : Ending

namespace Utterance

def packet : Nat := 1152

/-- The frames of blocks of `align` bytes, of which `left` bytes are announced. Blocks are cut at
`align` bytes, but within a packet scalars are read one after another. -/
def framesFrom (c : Container) (hr : c.rate ≠ 0) (hc : 0 < c.channels) (align : Nat)
    (ha : 0 < align) (start left : Nat) (data : List UInt8) : List Frame :=
  let blocks := min (left / align) packet
  if _h : blocks = 0 ∨ data.isEmpty then []
  else
    let scalars := (c.coding.decodeAll (data.take (blocks * align))).map c.coding.kind.toSingle
    let slices := (Slice.deinterleave hc scalars).take packet
    let rest :=
      framesFrom c hr hc align ha (start + blocks) (left - blocks * align)
        (data.drop (blocks * align))
    if slices.isEmpty then rest
    else
      { stream := ⟨c.rate, c.channels, ⟨.f32, .planar⟩⟩
        timeBase := .perSample c.rate hr
        pts := some start
        slices
        rate_ne := hr
        channels_pos := hc } :: rest
termination_by left
decreasing_by
  have hb : 0 < blocks := Nat.pos_of_ne_zero fun e => _h (.inl e)
  have hl : 0 < left := Nat.pos_of_ne_zero fun e => by simp [blocks, e] at hb
  exact Nat.sub_lt hl (Nat.mul_pos hb ha)

def ofBytes (bytes : List UInt8) : Except DecodeError Utterance :=
  match Container.read bytes with
  | .error e => .error e
  | .ok c =>
    if hr : c.rate = 0 then .error .noRate
    else if hc : c.channels = 0 then .error .noChannels
    else
      let timeBase := TimeBase.perSample c.rate hr
      let seconds := (Dyadic.ofNat (c.samples.getD 0)).div (.ofNat c.rate.toNat)
      let (frames, ending) :=
        if ha : c.align = 0 then ([], Ending.broken .zeroBlock)
        else
          (framesFrom c hr (Nat.pos_of_ne_zero hc) c.align (Nat.pos_of_ne_zero ha) 0 c.size c.data,
            .finished)
      .ok {
        stream := ⟨c.rate, c.channels, ⟨.f32, .planar⟩⟩
        timeBase
        duration := ⟨seconds.scaled Duration.perSecond⟩
        frames, ending }

def length (u : Utterance) : Nat := (u.frames.map Frame.length).sum

end Utterance

end Overdub
