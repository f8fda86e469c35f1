import Overdub.CommandLine
import Overdub.Dubbing.Pipeline
import Overdub.Voice.Server
import Overdub.Wave.Reader
import Overdub.Wave.Writer

/-!
A whole run: one wave file is dubbed into another. Files and speech come in as values. Once the
output is open it ends up as a well-formed file, however the run ends.
-/

namespace Overdub

inductive RunError
  | config (path : String) (cause : ConfigError)
  | invalid (cause : ConfigFlaw)
  | subtitles (path : String) (cause : Subtitle.Error)
  | opening (path : String) (cause : Wave.Error)
  | creating (path : String) (cause : Wave.Error)
  | server (cause : VoiceError)
  | pipeline (cause : PipelineError)
  | wave (cause : Wave.Error)
  | finishing (cause : Wave.Error)

def ConfigError.chain (e : ConfigError) : List String :=
  e.message ::
    match e with
    | .flaw _ => []
    | .io cause => [cause.message]

def Subtitle.Error.chain (e : Subtitle.Error) : List String :=
  e.message ::
    match e with
    | .io _ cause => [cause.message]
    | _ => []

def Wave.Error.chain (e : Wave.Error) : List String :=
  e.message ::
    match e with
    | .file cause => [cause.message]
    | _ => []

def PipelineError.chain (e : PipelineError) : List String :=
  e.message ::
    match e with
    | .subtitle cause => cause.chain
    | .mix cause => [cause.message]
    | _ => []

namespace RunError

def chain : RunError → List String
  | config path cause => s!"loading config {path}" :: cause.chain
  | invalid cause => "invalid configuration" :: (ConfigError.flaw cause).chain
  | subtitles path cause => s!"reading subtitles {path}" :: cause.chain
  | opening path cause => s!"opening {path}" :: cause.chain
  | creating path cause => s!"creating {path}" :: cause.chain
  | server cause => ["configuring synthesis backend", cause.message]
  | pipeline cause => cause.chain
  | wave cause => cause.chain
  | finishing cause => "finalizing output" :: cause.chain

def render (e : RunError) : String :=
  match e.chain with
  | [] => "Error: "
  | [message] => s!"Error: {message}"
  | [message, cause] => s!"Error: {message}\n\nCaused by:\n    {cause}"
  | message :: causes =>
    let numbered := causes.zipIdx.map fun c => s!"\n    {c.2}: {c.1}"
    s!"Error: {message}\n\nCaused by:" ++ .join numbered

end RunError

def CommandLine.configure (l : CommandLine) (file : FileContent) : Except RunError Config := do
  let base ←
    match l.given.config with
    | none => pure {}
    | some path => (Config.load path file).mapError (.config path)
  match (l.overlay base).flaw? with
  | some flaw => throw (.invalid flaw)
  | none => return l.overlay base

structure Session where
  reader : Wave.Reader
  writer : Wave.Writer
  pipeline : Pipeline

namespace Session

def open? (l : CommandLine) (c : Config) (subtitles : FileContent) (input : Option (List UInt8)) :
    Except RunError Session := do
  let track ← (Subtitle.Track.load c.subtitle subtitles).mapError (.subtitles c.subtitle)
  let reader ← (Wave.Reader.start? l.input input c.frameSize).mapError (.opening l.input)
  let writer ← (Wave.Writer.start? reader.spec).mapError (.creating l.output)
  let target := ⟨reader.stream, reader.timeBase, c.speeds, c.server⟩
  let pipeline ← (Pipeline.start? target c.gains track).mapError .pipeline
  return { reader, writer, pipeline }

def connect (c : Config) : Except RunError VoiceServer :=
  (VoiceServer.start? c.server).mapError .server

def next (s : Session) : Except RunError (Option Frame × Session) :=
  match s.reader.next with
  | .error e => .error (.wave e)
  | .ok (frame, reader) => .ok (frame, { s with reader })

def dub (speaker : Speaker) (s : Session) (frame : Frame) : Except RunError Unit × Session :=
  let (result, pipeline) := s.pipeline.process speaker frame
  let s := { s with pipeline }
  match result with
  | .error e => (.error (.pipeline e), s)
  | .ok frame =>
    match s.writer.write frame with
    | .error e => (.error (.wave e), s)
    | .ok writer => (.ok (), { s with writer })

theorem reader_dub (speaker : Speaker) (s : Session) (frame : Frame) :
    (s.dub speaker frame).2.reader = s.reader := by
  unfold dub
  grind

theorem left_lt {s t : Session} {frame : Frame} (h : s.next = .ok (some frame, t)) :
    t.reader.left < s.reader.left := by
  unfold next at h
  split at h
  · contradiction
  · next frame' reader e =>
    have : frame' = some frame ∧ { s with reader } = t := by simpa using h
    exact this.2 ▸ Wave.Reader.left_lt (this.1 ▸ e)

def run (speaker : Speaker) (s : Session) : Except RunError Unit × Session :=
  match _h : s.next with
  | .error e => (.error e, s)
  | .ok (none, s) => (.ok (), s)
  | .ok (some frame, t) =>
    match _d : t.dub speaker frame with
    | (.error e, t) => (.error e, t)
    | (.ok (), u) => run speaker u
termination_by s.reader.left
decreasing_by
  have := reader_dub speaker t frame
  have := left_lt _h
  grind

end Session

end Overdub
