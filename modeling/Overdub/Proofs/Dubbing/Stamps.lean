import Overdub.Proofs.Dubbing.Punctual
import Overdub.Proofs.Dubbing.Source

/-!
Frames without time stamps. A pipeline places such a frame by the samples before it, so the same
frames stamped by a clock of samples are dubbed in the same way, call by call.
-/

namespace Overdub

namespace Mixer

theorem length_overlay (g : Gains) (fmt : Format) (c : Nat) (slices : List (Slice fmt.kind c))
    (offset : Nat) (last : Option CueId) (frames : List QueuedFrame) :
    (overlay g fmt c slices offset last frames).slices.length = slices.length := by
  induction frames generalizing slices offset last with
  | nil => rfl
  | cons f frames ih =>
    rw [overlay]
    split
    · rfl
    · next speech _ =>
      have few : (slices.zipWith (Slice.mix g) (speech.drop offset)).length =
          min slices.length (speech.length - offset) := by
        rw [List.length_zipWith, List.length_drop]
      dsimp only
      generalize slices.zipWith (Slice.mix g) (speech.drop offset) = head at few
      split
      · rfl
      · split
        · dsimp only
          omega
        · rw [Pass.slices_after, List.length_append]
          have rest : (slices.drop head.length).length = slices.length - head.length :=
            List.length_drop
          split
          · next none =>
            rw [List.isEmpty_iff.mp none] at rest
            dsimp only [List.length_nil] at rest ⊢
            omega
          · rw [ih, rest]
            omega

theorem length_mix (m : Mixer) (frame : Frame) (now : Int) (q : Queue) :
    (m.mix frame now q).2.1.length = frame.length := by
  unfold mix
  split
  · split
    · exact length_overlay ..
    · rfl
  · rfl

theorem mix_withPts (m : Mixer) (frame : Frame) (pts : Option Int) (now : Int) (q : Queue) :
    m.mix (frame.withPts pts) now q =
      ((m.mix frame now q).1, (m.mix frame now q).2.1.withPts pts, (m.mix frame now q).2.2) := by
  unfold mix
  by_cases fits : frame.stream.format = m.stream.format ∧ frame.stream.channels = m.stream.channels
  · by_cases ready : due q frame.timeBase now
    · rw [if_pos fits, if_pos ready]
      exact (if_pos fits).trans (if_pos ready)
    · rw [if_pos fits, if_neg ready]
      exact (if_pos fits).trans (if_neg ready)
  · rw [if_neg fits]
    exact if_neg fits

end Mixer

def Frame.stampAll (stamp : Nat → Frame → Option Int) : Nat → List Frame → List Frame
  | _, [] => []
  | n, x :: xs => x.withPts (stamp n x) :: stampAll stamp (n + x.length) xs

theorem Frame.stampAll_none (n : Nat) (xs : List Frame) :
    stampAll (fun _ _ => none) n xs = xs.map (·.withPts none) := by
  induction xs generalizing n with
  | nil => rfl
  | cons x xs ih => exact congrArg (_ :: ·) (ih _)

namespace Pipeline

variable {σ : Type} {src : Source σ} {speaker : Speaker} {now : Duration} {frame x : Frame}
  {s t : σ} {p q : Pipeline} {a b : Option Int}

theorem position_speak (p : Pipeline) (speaker : Speaker) (cue : Cue) :
    (p.speak speaker cue).2.position = p.position := by
  unfold speak
  dsimp only
  split
  · rfl
  · split <;> rfl

theorem Serves.position_eq {fault : Option PipelineError}
    (served : Serves src speaker now s p fault t q) : q.position = p.position :=
  served.keeps (P := (·.position = p.position))
    (fun r cue same => (r.position_speak speaker cue).trans same) rfl

theorem Serves.startOf_eq {fault : Option PipelineError}
    (served : Serves src speaker now s p fault t q) (frame : Frame) :
    q.startOf frame = p.startOf frame :=
  served.keeps (P := (·.startOf frame = p.startOf frame))
    (fun r cue same => (r.startOf_speak speaker cue frame).trans same) rfl

theorem mix_ok {out : Frame} (mixed : (p.mix frame).1 = .ok out) :
    out.pts = frame.pts ∧ (p.mix frame).2.position = p.position + frame.length := by
  have length := p.mixer.length_mix frame (p.startOf frame) p.queue
  have pts : (p.mixer.mix frame (p.startOf frame) p.queue).2.1.pts = frame.pts := by
    unfold Mixer.mix
    split
    · split <;> rfl
    · rfl
  unfold mix at mixed ⊢
  generalize p.mixer.mix frame (p.startOf frame) p.queue = r at length pts mixed ⊢
  obtain ⟨result, y, mixer, queue⟩ := r
  dsimp only at length pts mixed ⊢
  split at mixed <;> cases mixed
  · exact ⟨pts, congrArg (p.position + ·) length⟩
  · exact ⟨pts, congrArg (p.position + ·) length⟩

theorem mix_withPts (same : p.startOf (x.withPts a) = p.startOf (x.withPts b)) :
    p.mix (x.withPts b) = ((p.mix (x.withPts a)).1.map (·.withPts b), (p.mix (x.withPts a)).2) := by
  unfold mix
  rw [same, Mixer.mix_withPts, Mixer.mix_withPts]
  generalize p.mixer.mix x (p.startOf (x.withPts b)) p.queue = r
  obtain ⟨result, y, mixer, queue⟩ := r
  dsimp only
  split <;> rfl

theorem Dubs.withPts {result : Except PipelineError Frame}
    (call : Dubs src speaker (x.withPts a) s p result t q)
    (same : p.startOf (x.withPts a) = p.startOf (x.withPts b)) :
    Dubs src speaker (x.withPts b) s p (result.map (·.withPts b)) t q := by
  have moment : p.moment (x.withPts a) = p.moment (x.withPts b) :=
    congrArg x.timeBase.toDuration same
  cases call with
  | fault served =>
    rw [moment] at served
    exact .fault served
  | @mixed _ q served =>
    have later : q.startOf (x.withPts a) = q.startOf (x.withPts b) := by
      rw [served.startOf_eq, served.startOf_eq, same]
    rw [moment] at served
    have mixed : Dubs src speaker (x.withPts b) s p _ _ _ := .mixed served
    rw [mix_withPts later] at mixed
    exact mixed

theorem Dubs.of_ok {out : Frame} (call : Dubs src speaker frame s p (.ok out) t q) :
    out.pts = frame.pts ∧ q.target = p.target ∧ q.position = p.position + frame.length := by
  generalize result : Except.ok out = r at call
  cases call with
  | fault => cases result
  | @mixed _ q served =>
    obtain ⟨pts, position⟩ := mix_ok result.symm
    rw [served.position_eq] at position
    exact ⟨pts, (q.target_mix frame).trans served.target_eq, position⟩

def given (steps : List (Frame × Pipeline)) : List (Except PipelineError Frame × Pipeline) :=
  steps.map fun s => (.ok s.1, s.2)

theorem exists_given {results : List (Except PipelineError Frame × Pipeline)}
    (ok : ∀ r ∈ results, r.1.isOk) : ∃ steps, results = given steps := by
  induction results with
  | nil => exact ⟨[], rfl⟩
  | cons r results ih =>
    obtain ⟨steps, rest⟩ := ih fun r mem => ok r (List.mem_cons_of_mem _ mem)
    obtain ⟨_ | out, q⟩ := r
    · cases ok _ List.mem_cons_self
    · exact ⟨(out, q) :: steps, congrArg (_ :: ·) rest⟩

theorem DubsAll.stampAll {f g : Nat → Frame → Option Int} {frames : List Frame}
    {steps : List (Frame × Pipeline)}
    (run : DubsAll src speaker s p (Frame.stampAll f p.position frames) (given steps))
    (room : p.position + (frames.map Frame.length).sum < 2 ^ 63)
    (same : ∀ q : Pipeline, q.target = p.target → q.position < 2 ^ 63 →
      ∀ x : Frame, q.startOf (x.withPts (f q.position x)) = q.startOf (x.withPts (g q.position x))) :
    ∃ steps', DubsAll src speaker s p (Frame.stampAll g p.position frames) (given steps') ∧
      steps'.map Prod.snd = steps.map Prod.snd ∧
      steps'.map (·.1.withPts none) = steps.map (·.1.withPts none) ∧
      steps.map (·.1.pts) = (Frame.stampAll f p.position frames).map Frame.pts ∧
      steps'.map (·.1.pts) = (Frame.stampAll g p.position frames).map Frame.pts := by
  induction frames generalizing s p steps with
  | nil =>
    cases steps with
    | nil => exact ⟨[], .done s p, rfl, rfl, rfl, rfl⟩
    | cons => cases run
  | cons x xs ih =>
    cases steps with
    | nil => cases run
    | cons step steps =>
      obtain ⟨out, q⟩ := step
      rw [List.map_cons, List.sum_cons] at room
      cases run with
      | call call rest =>
        obtain ⟨pts, target, position⟩ := call.of_ok
        have below : p.position < 2 ^ 63 := by omega
        have call' := call.withPts (same p rfl below x)
        obtain ⟨pts', -, -⟩ := call'.of_ok
        replace position : q.position = p.position + x.length := position
        rw [← position] at rest
        obtain ⟨steps', run', ends, frames, stamps, stamps'⟩ :=
          ih rest (by rw [position]; omega) fun r aim => same r (aim.trans target)
        rw [position] at run' stamps stamps'
        exact ⟨(out.withPts (g p.position x), q) :: steps', .call call' run',
          congrArg (q :: ·) ends, congrArg (out.withPts none :: ·) frames,
          congrArg₂ List.cons pts stamps, congrArg₂ List.cons pts' stamps'⟩

/-- The time stamp that a clock of samples puts on a frame after `n` samples. -/
def clockStamp (rate : UInt32) (rate_ne : rate ≠ 0) (n : Nat) (x : Frame) : Option Int :=
  some ((TimeBase.perSample rate rate_ne).rescale n x.timeBase)

theorem startOf_clockStamp {rate : UInt32} (rate_ne : rate ≠ 0) (runs : p.target.stream.rate = rate)
    (room : p.position < 2 ^ 63) (x : Frame) :
    p.startOf (x.withPts none) = p.startOf (x.withPts (clockStamp rate rate_ne p.position x)) := by
  subst runs
  have clock : p.target.stream.timeBase? = some (.perSample p.target.stream.rate rate_ne) :=
    dif_neg rate_ne
  have within : min (p.position : Int) Ticks.most = p.position := by
    apply Int.min_eq_left
    change (p.position : Int) ≤ 2 ^ 63 - 1
    omega
  unfold startOf
  rw [clock, within]
  rfl

theorem map_fst_of_stampAll_none {steps : List (Frame × Pipeline)} {n : Nat} {frames : List Frame}
    (stamps : steps.map (·.1.pts) = (Frame.stampAll (fun _ _ => none) n frames).map Frame.pts) :
    steps.map (·.1.withPts none) = steps.map Prod.fst := by
  apply List.map_congr_left
  intro step mem
  have stamp : step.1.pts ∈ (Frame.stampAll (fun _ _ => none) n frames).map Frame.pts :=
    stamps ▸ List.mem_map_of_mem mem
  rw [Frame.stampAll_none, List.map_map] at stamp
  obtain ⟨x, -, none⟩ := List.mem_map.mp stamp
  change Option.none = step.1.pts at none
  rw [none]
  rfl

/-- Frames without time stamps are dubbed as the same frames stamped by a clock of samples: if all
calls of the one run succeed, those of the other do, give the same samples back and leave the same
pipelines behind. -/
theorem clock_stamps_change_nothing {σ : Type} (src : Source σ) (speaker : Speaker) (s : σ)
    (p : Pipeline) (rate_ne : p.target.stream.rate ≠ 0) (frames : List Frame)
    (room : p.position + (frames.map Frame.length).sum < 2 ^ 63) :
    let bare := frames.map (·.withPts none)
    let stamped := Frame.stampAll (clockStamp p.target.stream.rate rate_ne) p.position frames
    let Agree := fun steps steps' : List (Frame × Pipeline) =>
      steps.map Prod.snd = steps'.map Prod.snd ∧
      steps.map Prod.fst = steps'.map (·.1.withPts none) ∧
      steps'.map (·.1.pts) = stamped.map Frame.pts
    (∀ steps, DubsAll src speaker s p bare (given steps) →
      ∃ steps', Agree steps steps' ∧
        ∀ results, DubsAll src speaker s p stamped results ↔ results = given steps') ∧
    (∀ steps', DubsAll src speaker s p stamped (given steps') →
      ∃ steps, Agree steps steps' ∧
        ∀ results, DubsAll src speaker s p bare results ↔ results = given steps) := by
  intro bare stamped Agree
  have unstamped : bare = Frame.stampAll (fun _ _ => none) p.position frames :=
    (Frame.stampAll_none ..).symm
  have same (q : Pipeline) (aim : q.target = p.target) (below : q.position < 2 ^ 63) (x : Frame) :=
    startOf_clockStamp rate_ne (congrArg (·.stream.rate) aim) below x
  constructor
  · intro steps run
    rw [unstamped] at run
    obtain ⟨steps', run', ends, given, none, stamps⟩ := run.stampAll room same
    rw [map_fst_of_stampAll_none none] at given
    refine ⟨steps', ⟨ends.symm, given.symm, stamps⟩, fun results => ⟨(·.unique run'), ?_⟩⟩
    rintro rfl
    exact run'
  · intro steps' run'
    obtain ⟨steps, run, ends, given, stamps, none⟩ :=
      run'.stampAll (g := fun _ _ => none) room
        fun q aim below x => (same q aim below x).symm
    rw [map_fst_of_stampAll_none none] at given
    rw [← unstamped] at run
    refine ⟨steps, ⟨ends, given, stamps⟩, fun results => ⟨(·.unique run), ?_⟩⟩
    rintro rfl
    exact run

theorem clock_stamps_change_nothing_two_frames :
    let frame := Frame.mono .f32 48000 (by decide) 0 [⟨0⟩, ⟨0⟩]
    let speaker := Speaker.steady 3 ⟨0x3f000000⟩
    let p := single frame
    ∃ steps steps',
      DubsAll Subtitle.Track.pull speaker p.track p [frame.withPts none, frame.withPts none]
        (given steps) ∧
      DubsAll Subtitle.Track.pull speaker p.track p [frame, frame.withPts (some 2)] (given steps') ∧
      steps.map Prod.snd = steps'.map Prod.snd ∧
      steps.map (·.2.ledger.totals.mixed) = [2, 3] := by
  intro frame speaker p
  let calls := p.processEach speaker [frame.withPts none, frame.withPts none]
  have run := dubsAll_processEach speaker [frame.withPts none, frame.withPts none] p p.track
  have ok : ∀ r ∈ calls.map fun r => (r.1, { r.2 with track := p.track }), r.1.isOk := by
    decide +kernel
  have mixed : (calls.map fun r => (r.1, { r.2 with track := p.track })).map
      (·.2.ledger.totals.mixed) = [2, 3] := by decide +kernel
  obtain ⟨steps, all⟩ := exists_given ok
  rw [all] at run mixed
  rw [given, List.map_map] at mixed
  obtain ⟨forth, -⟩ := clock_stamps_change_nothing Subtitle.Track.pull speaker p.track p (by decide)
    [frame, frame] (by decide)
  obtain ⟨steps', ⟨ends, -, -⟩, only⟩ := forth steps run
  have stamps : Frame.stampAll (clockStamp 48000 (by decide)) 0 [frame, frame] =
      [frame, frame.withPts (some 2)] := by
    have first : clockStamp 48000 (by decide) 0 frame = some 0 := by decide +kernel
    have second : clockStamp 48000 (by decide) 2 frame = some 2 := by decide +kernel
    change [frame.withPts (clockStamp _ _ 0 frame), frame.withPts (clockStamp _ _ 2 frame)] = _
    rw [first, second]
    rfl
  have run' := (only _).mpr rfl
  exact ⟨steps, steps', run, stamps ▸ run', ends, mixed⟩

end Pipeline

end Overdub
