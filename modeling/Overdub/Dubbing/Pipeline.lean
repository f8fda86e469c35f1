import Overdub.Dubbing.Record
import Overdub.Playback.Mixer
import Overdub.Subtitle.Track

/-!
Dubbing one primary stream, frame by frame: cues that fell due are spoken and queued, then queued
speech is mixed over the frame. A cue that fails leaves the frame as it is.
-/

namespace Overdub

inductive PipelineError
  | subtitle (cause : Subtitle.Error)
  | stream (cause : FrameError)
  | generation (cause : GenerationError)
  | mix (cause : MixError)

def PipelineError.message : PipelineError → String
  | .subtitle cause => s!"subtitle error: {cause.message}"
  | .stream cause => s!"configuration error: primary stream: {cause.message}"
  | .generation cause => cause.message
  | .mix cause => s!"mix error: {cause.message}"

structure Pipeline where
  target : Target
  mixer : Mixer
  queue : Queue := {}
  track : Subtitle.Track
  ledger : Ledger := {}
  position : Nat := 0

namespace Pipeline

def start? (target : Target) (gains : Gains) (track : Subtitle.Track) :
    Except PipelineError Pipeline := do
  target.stream.check.mapError .stream
  return { target, track, mixer := { stream := target.stream, gains } }

/-- Speaks one cue. Only what ends all work is passed on; frames of a failed cue are taken back. -/
def speak (p : Pipeline) (speaker : Speaker) (cue : Cue) : Option PipelineError × Pipeline :=
  let id := p.ledger.nextId
  let ledger := p.ledger.add cue
  if cue.isBlank then (none, { p with ledger := ledger.discard id .blank })
  else
    match p.target.generate speaker id cue p.queue with
    | (.ok report, queue) => (none, { p with ledger := ledger.settle id (.ok report), queue })
    | (.error e, queue) =>
      (if e.isFatal then some (.generation e) else none,
        { p with ledger := ledger.settle id (.error e), queue := queue.without id })

def speakAll (speaker : Speaker) : List Cue → Pipeline → Option PipelineError × List Cue × Pipeline
  | [], p => (none, [], p)
  | cue :: cues, p =>
    match p.speak speaker cue with
    | (some e, p) => (some e, cues, p)
    | (none, p) => speakAll speaker cues p

/-- When a frame starts, in ticks of its own clock: its time stamp, or the samples before it. -/
def startOf (p : Pipeline) (frame : Frame) : Int :=
  frame.pts.getD <|
    let perSample := p.target.stream.timeBase?.getD p.target.timeBase
    perSample.rescale (min p.position Ticks.most) frame.timeBase

def note (l : Ledger) (o : Mixer.Outcome) : Ledger :=
  let l := o.retired.foldl Ledger.retire (o.touched.foldl Ledger.touch l)
  { l with totals := { l.totals with mixed := l.totals.mixed + o.mixed } }

/-- Mixes queued speech over `frame`. A cue whose speech has another format is dropped. -/
def mix (p : Pipeline) (frame : Frame) : Except PipelineError Frame × Pipeline :=
  let (result, frame, mixer, queue) := p.mixer.mix frame (p.startOf frame) p.queue
  let done := fun (ledger : Ledger) (queue : Queue) =>
    let totals := { ledger.totals with frames := ledger.totals.frames + 1 }
    (Except.ok frame, { p with
      mixer, queue
      ledger := { ledger with totals }
      position := p.position + frame.length })
  match result with
  | .ok outcome => done (note p.ledger outcome) queue
  | .error (.formatMismatch cue ..) => done (p.ledger.discard cue .mismatch) (queue.without cue)
  | .error e => (.error (.mix e), { p with mixer, queue })

def advance (p : Pipeline) (speaker : Speaker) (cues : List Cue) (frame : Frame) :
    Except PipelineError Frame × List Cue × Pipeline :=
  match speakAll speaker cues p with
  | (some e, left, p) => (.error e, left, p)
  | (none, left, p) =>
    let (result, p) := p.mix frame
    (result, left, p)

def due (p : Pipeline) (frame : Frame) : List Cue × List Cue :=
  p.track.cues.span (·.isDue (frame.timeBase.toDuration (p.startOf frame)))

def dueTexts (p : Pipeline) (frame : Frame) : List (CueId × String) :=
  let cues := ((p.due frame).1.zipIdx p.ledger.nextId).filter (!·.1.isBlank)
  cues.map fun c => (c.2, c.1.text)

def process (p : Pipeline) (speaker : Speaker) (frame : Frame) :
    Except PipelineError Frame × Pipeline :=
  let (due, later) := p.due frame
  let (result, left, p) := p.advance speaker due frame
  (result, { p with track := ⟨left ++ later⟩ })

def pending (p : Pipeline) : Nat := p.queue.frames.length

end Pipeline

end Overdub
