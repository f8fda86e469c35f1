import Overdub.Proofs.Dubbing.Safety
import Overdub.Proofs.Dubbing.Source
import Overdub.Proofs.Playback.Layout

/-!
Dubbing in another layout. Speech is made, queued and mixed in the layout of the target, and a
pipeline for the other layout does the same with the same channels, call by call.
-/

namespace Overdub

namespace Fitter

def withLayout (f : Fitter) (l : Layout) : Fitter := { f with target := f.target.withLayout l }

variable {l : Layout}

theorem start?_withLayout (source target : Stream) (tb : TimeBase) (speed : Float) :
    start? source (target.withLayout l) tb speed =
      (start? source target tb speed).map (·.withLayout l) := by
  have rate : (target.withLayout l).rate = target.rate := rfl
  have channels : (target.withLayout l).channels = target.channels := rfl
  unfold start?
  simp only [rate, channels]
  split_ifs
  · rfl
  · rfl
  · rfl
  · rfl
  · cases Stretch.start? speed <;> rfl
  · cases Stretch.start? speed <;> rfl

theorem stamp_withLayout (f : Fitter) (samples : List Float32) : (f.withLayout l).stamp samples =
    ((f.stamp samples).1.map (·.withLayout l), (f.stamp samples).2.withLayout l) := by
  unfold stamp
  split <;> rfl

theorem bounded_withLayout (out : Option Frame) (f : Fitter) :
    bounded (out.map (·.withLayout l), f.withLayout l) =
      (bounded (out, f)).map fun r => (r.1.map (·.withLayout l), r.2.withLayout l) := by
  have same : (∀ x ∈ out.map (·.withLayout l), x.Stamped) ↔ ∀ x ∈ out, x.Stamped := by
    rw [Option.forall_mem_map]
    exact Iff.rfl
  unfold bounded
  simp only [same]
  split <;> rfl

theorem emit_withLayout (f : Fitter) (samples : List Float32) : (f.withLayout l).emit samples =
    (f.emit samples).map fun r => (r.1.map (·.withLayout l), r.2.withLayout l) := by
  rw [emit, stamp_withLayout, bounded_withLayout]
  rfl

theorem push_withLayout (f : Fitter) (x : Frame) : (f.withLayout l).push x =
    (f.push x).map fun r => (r.1.map (·.withLayout l), r.2.withLayout l) := by
  by_cases accepts : f.Accepts x
  · have accepts' : (f.withLayout l).Accepts x := accepts
    rw [push_eq accepts, push_eq accepts']
    exact emit_withLayout ((f.anchor x).withStages (f.stages.push x.downmix).2)
      (f.stages.push x.downmix).1
  · have refused : f.push x = .error _ := if_neg accepts
    rw [refused]
    exact if_neg accepts

theorem flush_withLayout (f : Fitter) : (f.withLayout l).flush =
    f.flush.map fun r => (r.1.map (·.withLayout l), r.2.withLayout l) := by
  rw [flush_eq, flush_eq]
  exact emit_withLayout (f.withStages f.stages.flushed) f.stages.flush

theorem pushAll_withLayout (f : Fitter) (offset : Int) (position : Nat) (xs : List Frame) :
    (f.withLayout l).pushAll offset position xs =
      ((f.pushAll offset position xs).1.map (·.withLayout l), (f.pushAll offset position xs).2.1,
        (f.pushAll offset position xs).2.2.withLayout l) := by
  induction xs generalizing f position with
  | nil => rfl
  | cons x xs ih =>
    rw [pushAll, pushAll, push_withLayout]
    dsimp only
    generalize f.push _ = r
    obtain e | ⟨out, g⟩ := r
    · rfl
    · dsimp only [Except.map]
      rw [ih, List.map_append]
      cases out <;> rfl

end Fitter

namespace Target

def withLayout (t : Target) (l : Layout) : Target := { t with stream := t.stream.withLayout l }

variable {l : Layout}

theorem frames_withLayout (f : Fitter) (offset : Int) (u : Utterance) :
    frames (f.withLayout l) offset u =
      ((frames f offset u).1.map (·.withLayout l), (frames f offset u).2) := by
  unfold frames
  rw [Fitter.pushAll_withLayout]
  generalize f.pushAll offset 0 u.frames = r
  obtain ⟨out, pushed, g⟩ := r
  dsimp only
  rw [Fitter.flush_withLayout]
  cases fault pushed u.ending with
  | error e => rfl
  | ok fault =>
    cases g.flush with
    | error e => rfl
    | ok r =>
      dsimp only [Except.map]
      rw [List.map_append]
      cases r.1 <;> rfl

theorem enqueue_withLayout (t : Target) (id : CueId) (cue : Cue) (u : Utterance) (q : Queue) :
    (t.withLayout l).enqueue id cue u (q.withLayout l) =
      ((t.enqueue id cue u q).1, (t.enqueue id cue u q).2.withLayout l) := by
  unfold enqueue
  dsimp only [withLayout]
  cases Speed.check (t.speeds.fitting u.duration.toFloat cue.duration.toFloat) with
  | error x => rfl
  | ok speed =>
    dsimp only
    rw [Fitter.start?_withLayout]
    cases Fitter.start? u.stream t.stream t.timeBase speed with
    | error e => rfl
    | ok f =>
      dsimp only [Except.map]
      rw [frames_withLayout]
      generalize frames f (u.timeBase.ofDuration cue.start) u = made
      obtain ⟨made, result⟩ := made
      have lengths : (made.map (·.withLayout l)).map Frame.length = made.map Frame.length :=
        List.map_map ..
      dsimp only
      rw [List.length_map, lengths, Queue.withLayout_pushAll]

theorem generate_withLayout (t : Target) (speak : Speaker) (id : CueId) (cue : Cue) (q : Queue) :
    (t.withLayout l).generate speak id cue (q.withLayout l) =
      ((t.generate speak id cue q).1, (t.generate speak id cue q).2.withLayout l) := by
  unfold generate
  cases speak id cue.text with
  | error e => rfl
  | ok u => exact t.enqueue_withLayout id cue u q

end Target

def PipelineError.withLayout (l : Layout) : PipelineError → PipelineError
  | .mix e => .mix (e.withLayout l)
  | e => e

namespace Pipeline

def withLayout (p : Pipeline) (l : Layout) : Pipeline :=
  { p with
    target := p.target.withLayout l
    mixer := p.mixer.withLayout l
    queue := p.queue.withLayout l }

def restreamResult (rate : UInt32) (rate_ne : rate ≠ 0) (l : Layout) :
    Except PipelineError Frame → Except PipelineError Frame
  | .ok x => .ok (x.restream rate rate_ne l)
  | .error e => .error (e.withLayout l)

variable {p q : Pipeline} {l : Layout} {x : Frame}

theorem start?_withLayout (target : Target) (gains : Gains) (track : Subtitle.Track) :
    start? (target.withLayout l) gains track = (start? target gains track).map (·.withLayout l) := by
  have check : (target.withLayout l).stream.check = target.stream.check := rfl
  unfold start?
  rw [check]
  cases target.stream.check <;> rfl

theorem speak_withLayout (p : Pipeline) (speaker : Speaker) (cue : Cue) :
    (p.withLayout l).speak speaker cue =
      ((p.speak speaker cue).1, (p.speak speaker cue).2.withLayout l) := by
  unfold speak
  dsimp only [withLayout]
  split
  · rfl
  · rw [Target.generate_withLayout]
    generalize p.target.generate speaker p.ledger.nextId cue p.queue = r
    obtain ⟨e | report, queue⟩ := r
    · dsimp only
      rw [Queue.withLayout_without]
    · rfl

structure OneLayout (p : Pipeline) (x : Frame) : Prop where
  primary : x.stream.format.layout = p.mixer.stream.format.layout
  speech : ∀ f ∈ p.queue.frames, f.frame.stream.format.layout = p.mixer.stream.format.layout

theorem mix_withLayout (one : p.OneLayout x) (rate : UInt32) (rate_ne : rate ≠ 0) (l : Layout) :
    (p.withLayout l).mix (x.restream rate rate_ne l) =
      (restreamResult rate rate_ne l (p.mix x).1, (p.mix x).2.withLayout l) := by
  have mixed := p.mixer.mix_withLayout (p.startOf x) one.primary one.speech rate rate_ne l
  have start : (p.withLayout l).startOf (x.restream rate rate_ne l) = p.startOf x := rfl
  unfold mix
  rw [start]
  dsimp only [withLayout]
  rw [mixed]
  generalize p.mixer.mix x (p.startOf x) p.queue = r
  obtain ⟨e | o, y, mixer, queue⟩ := r
  · cases e with
    | formatMismatch =>
      dsimp only [Except.mapError, MixError.withLayout]
      rw [Queue.withLayout_without]
      rfl
    | _ => rfl
  · rfl

theorem OneLayout.of_sound {h : History} (sound : p.Sound h)
    (primary : x.stream.format.layout = p.target.stream.format.layout) : p.OneLayout x where
  primary := by rw [primary, sound.stream_eq]
  speech f mem := by rw [(sound.makes f mem).stream_eq, sound.stream_eq]

variable {σ : Type} {src : Source σ} {speaker : Speaker} {now : Duration} {s t : σ}

theorem Serves.withLayout {fault : Option PipelineError}
    (served : Serves src speaker now s p fault t q) (l : Layout) :
    Serves src speaker now s (p.withLayout l) fault t (q.withLayout l) := by
  induction served with
  | idle none => exact .idle none
  | fault some said =>
    refine .fault some ?_
    rw [speak_withLayout, said]
  | next some said _ ih =>
    refine .next some ?_ ih
    rw [speak_withLayout, said]

theorem Dubs.withLayout {h : History} {result : Except PipelineError Frame}
    (call : Dubs src speaker x s p result t q) (sound : p.Sound h)
    (primary : x.stream.format.layout = p.target.stream.format.layout) (rate : UInt32)
    (rate_ne : rate ≠ 0) (l : Layout) :
    (∃ k, q.Sound k) ∧ q.target = p.target ∧
      Dubs src speaker (x.restream rate rate_ne l) s (p.withLayout l)
        (restreamResult rate rate_ne l result) t (q.withLayout l) := by
  have moment : (p.withLayout l).moment (x.restream rate rate_ne l) = p.moment x := rfl
  cases call with
  | fault served =>
    have served' := served.withLayout l
    rw [← moment] at served'
    refine ⟨served.sound sound, served.target_eq, ?_⟩
    obtain ⟨cause, rfl⟩ := served.exists_generation
    exact .fault served'
  | @mixed _ q served =>
    have served' := served.withLayout l
    rw [← moment] at served'
    obtain ⟨k, sound'⟩ := served.sound sound
    rw [← served.target_eq] at primary
    have mixed := mix_withLayout (.of_sound sound' primary) rate rate_ne l
    refine ⟨⟨_, sound'.mix x⟩, (q.target_mix x).trans served.target_eq, ?_⟩
    have call : Dubs src speaker (x.restream rate rate_ne l) s (p.withLayout l) _ _ _ :=
      .mixed served'
    rw [mixed] at call
    exact call

/-- A primary frame of one layout and the same frame in the other. -/
structure Relaid (l l' : Layout) (x y : Frame) : Prop where
  layout_eq : x.stream.format.layout = l
  layout_eq' : y.stream.format.layout = l'
  sounds : x.SoundsAs y

inductive SameResult (l : Layout) : Except PipelineError Frame → Except PipelineError Frame → Prop
  | ok {x y : Frame} : x.SoundsAs y → SameResult l (.ok x) (.ok y)
  | error (e : PipelineError) : SameResult l (.error e) (.error (e.withLayout l))

/-- Two calls that gave the same back and left the same records, totals and speech behind. -/
structure SameStep (l : Layout) (a b : Except PipelineError Frame × Pipeline) : Prop where
  result : SameResult l a.1 b.1
  ledger_eq : b.2.ledger = a.2.ledger
  offset_eq : b.2.mixer.offset = a.2.mixer.offset
  samples_eq : b.2.queue.samples = a.2.queue.samples
  queued : List.Forall₂ (fun f g => f.cue = g.cue ∧ f.frame.SoundsAs g.frame)
    a.2.queue.frames b.2.queue.frames

theorem Relaid.symm {l l' : Layout} {x y : Frame} (same : Relaid l l' x y) : Relaid l' l y x :=
  ⟨same.layout_eq', same.layout_eq, same.sounds.symm⟩

theorem SameStep.withLayout (result : Except PipelineError Frame) (p : Pipeline) (rate : UInt32)
    (rate_ne : rate ≠ 0) (l : Layout) :
    SameStep l (result, p) (restreamResult rate rate_ne l result, p.withLayout l) where
  result := by
    cases result with
    | ok x => exact .ok (x.soundsAs_restream rate rate_ne l)
    | error e => exact .error e
  ledger_eq := rfl
  offset_eq := rfl
  samples_eq := rfl
  queued := List.forall₂_map_right_iff.mpr <|
    List.forall₂_same.mpr fun f _ => ⟨rfl, f.frame.soundsAs_restream ..⟩

theorem DubsAll.withLayout {h : History} {frames frames' : List Frame}
    {steps : List (Except PipelineError Frame × Pipeline)}
    (run : DubsAll src speaker s p frames steps) (sound : p.Sound h)
    (same : List.Forall₂ (Relaid p.target.stream.format.layout l) frames frames') :
    ∃ steps', DubsAll src speaker s (p.withLayout l) frames' steps' ∧
      List.Forall₂ (SameStep l) steps steps' := by
  induction run generalizing h frames' with
  | done =>
    cases same
    exact ⟨[], .done .., .nil⟩
  | call first _ ih =>
    cases same with
    | cons one same =>
      obtain ⟨primary, rfl, sounds⟩ := one
      obtain ⟨⟨k, sound⟩, target, first'⟩ := first.withLayout sound primary _ (Frame.rate_ne _) _
      rw [← sounds.eq_restream] at first'
      rw [← target] at same
      obtain ⟨steps', rest', agree⟩ := ih sound same
      exact ⟨_, .call first' rest', .cons (.withLayout ..) agree⟩

/-- A pipeline for the one layout and a pipeline for the other, on frames of the same channels. Their
calls give the same channels back and leave the same records, totals and speech behind. -/
theorem layout_changes_nothing {σ : Type} (src : Source σ) (speaker : Speaker) (s : σ)
    {target : Target} {gains : Gains} {track : Subtitle.Track} {p : Pipeline}
    (start : start? target gains track = .ok p) (l : Layout) {frames frames' : List Frame}
    (same : List.Forall₂ (Relaid target.stream.format.layout l) frames frames') :
    ∃ q, start? (target.withLayout l) gains track = .ok q ∧
      ((∃ steps, DubsAll src speaker s p frames steps) ↔
        ∃ steps', DubsAll src speaker s q frames' steps') ∧
      ∀ steps steps', DubsAll src speaker s p frames steps → DubsAll src speaker s q frames' steps' →
        List.Forall₂ (SameStep l) steps steps' := by
  have start' : start? (target.withLayout l) gains track = .ok (p.withLayout l) := by
    rw [start?_withLayout, start]
    rfl
  have forth {steps} (run : DubsAll src speaker s p frames steps) :
      ∃ steps', DubsAll src speaker s (p.withLayout l) frames' steps' ∧
        List.Forall₂ (SameStep l) steps steps' := by
    cases eq_of_start? start
    exact run.withLayout (Sound.start start) same
  have back {steps'} (run' : DubsAll src speaker s (p.withLayout l) frames' steps') :
      ∃ steps, DubsAll src speaker s p frames steps := by
    cases eq_of_start? start
    obtain ⟨steps, run, -⟩ := run'.withLayout (Sound.start start') (same.flip.imp fun _ _ => .symm)
    exact ⟨steps, run⟩
  refine ⟨_, start', ⟨?_, fun ⟨_, run'⟩ => back run'⟩, ?_⟩
  · rintro ⟨steps, run⟩
    obtain ⟨steps', run', -⟩ := forth run
    exact ⟨steps', run'⟩
  · intro steps results run run'
    obtain ⟨steps', run'', agree⟩ := forth run
    rwa [run'.unique run'']

theorem layout_changes_nothing_two_channels :
    let frame : Frame := {
      stream := ⟨48000, 2, ⟨.s16, .interleaved⟩⟩
      timeBase := .perSample 48000 (by decide)
      pts := some 0
      slices := [#v[(1 : Int16), 2], #v[(3 : Int16), 4]]
      rate_ne := by decide
      channels_pos := by decide }
    let other := frame.withLayout .planar
    let speaker := Speaker.steady 3 ⟨0x3f000000⟩
    let calls (p : Pipeline) (frames : List Frame) :=
      (p.processEach speaker frames).map fun r => (r.1, { r.2 with track := p.track })
    frame.planes = ([[1, 2, 3, 4]] : List (List Int16)) ∧
      other.planes = ([[1, 3], [2, 4]] : List (List Int16)) ∧
      start? (single frame).target {} (single frame).track = .ok (single frame) ∧
      start? (single other).target {} (single other).track = .ok (single other) ∧
      (calls (single frame) [frame, frame]).map (·.2.ledger.totals.mixed) = [2, 3] ∧
      List.Forall₂ (SameStep .planar) (calls (single frame) [frame, frame])
        (calls (single other) [other, other]) := by
  intro frame other speaker calls
  have start : start? (single frame).target {} (single frame).track = .ok (single frame) := rfl
  have same : List.Forall₂ (Relaid .interleaved .planar) [frame, frame] [other, other] :=
    have one : Relaid .interleaved .planar frame other := ⟨rfl, rfl, frame.soundsAs_restream ..⟩
    .cons one (.cons one .nil)
  obtain ⟨q, start', -, agree⟩ := layout_changes_nothing Subtitle.Track.pull speaker
    (single frame).track start .planar same
  cases start'
  have run := dubsAll_processEach speaker [frame, frame] (single frame) (single frame).track
  have run' := dubsAll_processEach speaker [other, other] (single other) (single other).track
  exact ⟨rfl, rfl, start, rfl, by decide +kernel, agree _ _ run run'⟩

end Pipeline

end Overdub
