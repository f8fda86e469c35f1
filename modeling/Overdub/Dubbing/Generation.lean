import Overdub.Cue
import Overdub.Playback.Queue
import Overdub.Speech.Fitter
import Overdub.Speech.Utterance
import Overdub.Voice.Answer

/-!
From a cue to queued speech. The speech of one cue is fitted to the time the cue has, frame by
frame; a fault on the way keeps what came before it.
-/

namespace Overdub

inductive Unreachable
  | voice (cause : VoiceError)
  | audio (cause : DecodeError)

def Unreachable.message : Unreachable → String
  | .voice cause => cause.message
  | .audio cause => cause.message

/-- Why a cue was given up before any of its speech could stay in the queue. -/
inductive GenerationError
  | unreachable (url : String) (cause : Unreachable)
  | speed (speed : Float)
  | fit (cause : FitError)
  | outOfMemory
  | overflow

namespace GenerationError

def message : GenerationError → String
  | .unreachable url cause => s!"synthesis backend unreachable for {url}: {cause.message}"
  | .speed x => Speed.complaint x
  | .fit cause => s!"cannot build utterance chain: {cause.message}"
  | .outOfMemory => "out of memory while queueing synthesized audio"
  | .overflow => FitError.overflow.message

/-- Ends the work on the current frame too. -/
def isFatal : GenerationError → Bool
  | .outOfMemory | .overflow => true
  | _ => false

end GenerationError

structure Report where
  duration : Duration
  speed : Float
  frames : Nat
  samples : Nat
  fault : Option DecodeError

/-- What speaks a cue, given its number and text. -/
abbrev Speaker := CueId → String → Except Unreachable Utterance

def Speaker.ofAnswers (answer : CueId → String → Except VoiceError Answer) : Speaker :=
  fun id text =>
    match answer id text with
    | .error e => .error (.voice e)
    | .ok a => (Utterance.ofBytes a.bytes).mapError .audio

structure Target where
  stream : Stream
  timeBase : TimeBase
  speeds : SpeedRange
  server : String

namespace Fitter

/-- Fits frames one by one, moved by `offset` ticks of their own clock. A frame without a time
stamp follows the `position` samples before it. -/
def pushAll (f : Fitter) (offset : Int) (position : Nat) :
    List Frame → List Frame × Option FitError × Fitter
  | [] => ([], none, f)
  | x :: xs =>
    let start := x.pts.getD (min position Ticks.most)
    match f.push (x.withPts (some (Ticks.clamp (start + offset)))) with
    | .error e => ([], some e, f)
    | .ok (out, f) =>
      let (rest, fault, f) := pushAll f offset (position + x.length) xs
      (out.toList ++ rest, fault, f)

end Fitter

namespace Target

def fault (pushed : Option FitError) (ending : Ending) :
    Except GenerationError (Option DecodeError) :=
  match pushed, ending with
  | some .overflow, _ => .error .overflow
  | some e, _ => .ok (some (.fit e))
  | none, .finished => .ok none
  | none, .broken e => .ok (some e)
  | none, .outOfMemory => .error .outOfMemory

/-- Frames for the queue, and what cut them short; the fitting is flushed even then, unless nothing
can go on. -/
def frames (f : Fitter) (offset : Int) (u : Utterance) :
    List Frame × Except GenerationError (Option DecodeError) :=
  let (out, pushed, f) := f.pushAll offset 0 u.frames
  match fault pushed u.ending, f.flush with
  | .error e, _ => (out, .error e)
  | .ok fault, .ok (rest, _) => (out ++ rest.toList, .ok fault)
  -- A flush fails in no other way.
  | .ok _, .error _ => (out, .error .overflow)

def enqueue (t : Target) (id : CueId) (cue : Cue) (u : Utterance) (q : Queue) :
    Except GenerationError Report × Queue :=
  let speed := t.speeds.fitting u.duration.toFloat cue.duration.toFloat
  match Speed.check speed with
  | .error x => (.error (.speed x), q)
  | .ok speed =>
    match Fitter.start? u.stream t.stream t.timeBase speed with
    | .error e => (.error (.fit e), q)
    | .ok fitter =>
      let (frames, result) := frames fitter (u.timeBase.ofDuration cue.start) u
      (result.map fun fault =>
          { duration := u.duration
            speed
            frames := frames.length
            samples := (frames.map Frame.length).sum
            fault },
        frames.foldl (fun q frame => q.push ⟨id, frame⟩) q)

def generate (t : Target) (speak : Speaker) (id : CueId) (cue : Cue) (q : Queue) :
    Except GenerationError Report × Queue :=
  match speak id cue.text with
  | .error e => (.error (.unreachable (requestUrl t.server cue.text) e), q)
  | .ok u => t.enqueue id cue u q

end Target

end Overdub
