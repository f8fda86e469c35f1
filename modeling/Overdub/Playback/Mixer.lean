import Overdub.Playback.Gains
import Overdub.Playback.Queue

/-!
The mixer lays queued speech over primary frames, sample by sample and in order. It remembers
how much of the front frame has been used, so speech runs on from one primary frame to the next.
-/

namespace Overdub

inductive MixError
  | primaryFormat (expected : Format) (channels : Nat) (found : Format) (foundChannels : Nat)
  | formatMismatch (cue : CueId) (expected : Format) (channels : Nat) (found : Format)
      (foundChannels : Nat)
  | pastFront (offset length : Nat)
  deriving DecidableEq, Repr

def MixError.message : MixError → String
  | .primaryFormat expected channels found foundChannels =>
    s!"primary frame is {found.name} x{foundChannels}, mixer expects {expected.name} x{channels}"
  | .formatMismatch cue expected channels found foundChannels =>
    s!"{cue.render} queued {found.name} x{foundChannels}, primary is {expected.name} x{channels}"
  | .pastFront offset length => s!"{offset} samples used of a queued frame of {length}"

structure Mixer where
  stream : Stream
  gains : Gains
  /-- Samples per channel already used of the front frame. -/
  offset : Nat := 0

namespace Mixer

structure Outcome where
  mixed : Nat := 0
  touched : List CueId := []
  retired : List CueId := []
  deriving DecidableEq, Repr

/-- What is there after a pass over the queue: the primary slices, the frames left, how much is
used of the first of them, and what happened. -/
structure Pass (k : Kind) (c : Nat) where
  slices : List (Slice k c)
  frames : List QueuedFrame
  offset : Nat
  outcome : Except MixError Outcome

def Pass.after {k : Kind} {c : Nat} (head : List (Slice k c)) (touched retired : List CueId)
    (rest : Pass k c) : Pass k c :=
  { rest with
    slices := head ++ rest.slices
    outcome := rest.outcome.map fun o =>
      ⟨head.length + o.mixed, touched ++ o.touched, retired ++ o.retired⟩ }

/-- Mixes `frames`, less the first `offset` samples, over `slices`. Cue `last` is noted as heard
already. The first frame is looked at even if there is nothing to lay it over. -/
def overlay (g : Gains) (fmt : Format) (c : Nat) (slices : List (Slice fmt.kind c))
    (offset : Nat) (last : Option CueId) : List QueuedFrame → Pass fmt.kind c
  | [] => ⟨slices, [], offset, .ok {}⟩
  | f :: frames =>
    match f.frame.slicesAs? fmt c with
    | none =>
      ⟨slices, f :: frames, offset,
        .error (.formatMismatch f.cue fmt c f.frame.format f.frame.channels)⟩
    | some speech =>
      if speech.length < offset then
        ⟨slices, f :: frames, offset, .error (.pastFront offset speech.length)⟩
      else
        let head := slices.zipWith (Slice.mix g) (speech.drop offset)
        let rest := slices.drop head.length
        let touched := if head.isEmpty ∨ last = some f.cue then [] else [f.cue]
        let last := if head.isEmpty then last else some f.cue
        if offset + head.length < speech.length then
          ⟨head, f :: frames, offset + head.length, .ok ⟨head.length, touched, []⟩⟩
        else
          let retired := if frames.head?.map (·.cue) = some f.cue then [] else [f.cue]
          .after head touched retired <|
            if rest.isEmpty then ⟨[], frames, 0, .ok {}⟩ else overlay g fmt c rest 0 last frames

/-- Speech waits while the front frame starts after `now`, told in ticks of `tb`. A frame without
a start never waits. -/
def due (q : Queue) (tb : TimeBase) (now : Int) : Bool :=
  match q.front? with
  | none => false
  | some f =>
    match f.frame.pts with
    | none => true
    | some pts => f.frame.timeBase.rescale pts tb ≤ now

/-- Lays queued speech over `frame`, which starts at `now` in its own time base. The frame keeps
its length and start, also where an error cuts the work short. -/
def mix (m : Mixer) (frame : Frame) (now : Int) (q : Queue) :
    Except MixError Outcome × Frame × Mixer × Queue :=
  if frame.stream.format = m.stream.format ∧ frame.stream.channels = m.stream.channels then
    if due q frame.timeBase now then
      let pass := overlay m.gains _ _ frame.slices m.offset none q.frames
      (pass.outcome, { frame with slices := pass.slices }, { m with offset := pass.offset },
        q.popMany (q.frames.length - pass.frames.length))
    else (.ok {}, frame, m, q)
  else
    (.error (.primaryFormat m.stream.format m.stream.channels frame.format frame.channels),
      frame, m, q)

end Mixer

end Overdub
