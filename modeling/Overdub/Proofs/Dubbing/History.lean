import Overdub.Dubbing.Pipeline
import Overdub.Proofs.Playback.Mix

/-!
What a pipeline did so far: the cues it took up, with what came of their generation, and the cue of
every sample it mixed. A pipeline is reached by any number of calls, each with cues of its own, a
speaker of its own and a primary frame of any kind.
-/

namespace Overdub

/-- A cue that was taken up; there is no result where its text was blank. -/
structure Spoken where
  cue : CueId
  result : Option (Except GenerationError Report)

namespace Spoken

def report? (s : Spoken) : Option Report :=
  match s.result with
  | some (.ok report) => some report
  | _ => none

def frames (s : Spoken) : Nat := (s.report?.map Report.frames).getD 0

def samples (s : Spoken) : Nat := (s.report?.map Report.samples).getD 0

def voices (s : Spoken) : List CueId := .replicate s.samples s.cue

theorem mem_cues {spoken : List Spoken} {x : CueId} (h : x ∈ spoken.flatMap voices) :
    x ∈ spoken.map (·.cue) := by
  obtain ⟨s, mem, same⟩ := List.mem_flatMap.mp h
  rw [List.eq_of_mem_replicate same]
  exact List.mem_map_of_mem mem

end Spoken

structure History where
  spoken : List Spoken := []
  heard : List CueId := []

namespace Pipeline

def resultOf (p : Pipeline) (speaker : Speaker) (cue : Cue) :
    Option (Except GenerationError Report) :=
  if cue.isBlank then none
  else some (p.target.generate speaker p.ledger.nextId cue p.queue).1

def spokenBy (speaker : Speaker) : List Cue → Pipeline → List Spoken
  | [], _ => []
  | cue :: cues, p =>
    ⟨p.ledger.nextId, p.resultOf speaker cue⟩ ::
      match p.speak speaker cue with
      | (some _, _) => []
      | (none, p) => spokenBy speaker cues p

def heardIn (p : Pipeline) (frame : Frame) : List CueId :=
  match (p.mixer.mix frame (p.startOf frame) p.queue).1 with
  | .ok o => (p.mixer.pendingVoices p.queue).take o.mixed
  | .error _ => []

end Pipeline

def History.after (h : History) (p : Pipeline) (speaker : Speaker) (cues : List Cue)
    (frame : Frame) : History where
  spoken := h.spoken ++ p.spokenBy speaker cues
  heard := h.heard ++
    match p.speakAll speaker cues with
    | (some _, _, _) => []
    | (none, _, p) => p.heardIn frame

namespace Pipeline

/-- From `p` with history `h`, calls lead to another pipeline and its history. Where the cues come
from is not the pipeline's concern, so the track may be any after each call. -/
inductive Reaches (p : Pipeline) (h : History) : Pipeline → History → Prop
  | here : Reaches p h p h
  | call {q : Pipeline} {k : History} (speaker : Speaker) (cues : List Cue) (frame : Frame)
      (track : Subtitle.Track) : Reaches p h q k →
      Reaches p h { (q.advance speaker cues frame).2.2 with track }
        (k.after q speaker cues frame)

variable {p q : Pipeline} {h k : History}

theorem eq_of_start? {target : Target} {gains : Gains} {track : Subtitle.Track}
    (start : start? target gains track = .ok p) :
    p = { target, track, mixer := { stream := target.stream, gains } } := by
  unfold start? at start
  cases hs : target.stream.check with
  | error e =>
    rw [hs] at start
    cases start
  | ok =>
    rw [hs] at start
    cases start
    rfl

theorem exists_start? (target : Target) (rate : target.stream.rate ≠ 0)
    (channels : target.stream.channels ≠ 0) (gains : Gains) (track : Subtitle.Track) :
    ∃ p, start? target gains track = .ok p := by
  unfold start? Stream.check
  rw [if_neg rate, if_neg channels]
  exact ⟨_, rfl⟩

theorem Reaches.process (r : p.Reaches h q k) (speaker : Speaker) (frame : Frame) :
    p.Reaches h (q.process speaker frame).2 (k.after q speaker (q.due frame).1 frame) :=
  r.call speaker (q.due frame).1 frame
    ⟨(q.advance speaker (q.due frame).1 frame).2.1 ++ (q.due frame).2⟩

end Pipeline

def Speaker.steady (n : Nat) (x : Single) : Speaker := fun _ _ =>
  let frame := Frame.mono .f32 48000 (by decide) 0 (List.replicate n x)
  .ok ⟨frame.stream, frame.timeBase, ⟨0⟩, [frame], .finished⟩

def Pipeline.single (x : Frame) : Pipeline where
  target := ⟨x.stream, x.timeBase, {}, ""⟩
  mixer := { stream := x.stream, gains := {} }
  track := ⟨[⟨"a", ⟨0⟩, ⟨1⟩⟩]⟩

end Overdub
