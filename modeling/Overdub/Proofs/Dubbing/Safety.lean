import Overdub.Proofs.Dubbing.Reach
import Overdub.Proofs.Dubbing.Voicing

/-!
What can go wrong. Whatever cues, speakers and primary frames a pipeline met, its queue can be
mixed, so a call fails for want of memory, for the format of its frame or because speech goes on for
longer than time stamps do, and for nothing else.
-/

namespace Overdub

namespace Pipeline

variable {p q : Pipeline} {h k : History}

/-- Every queued frame is as the target wants it, and the front one has a sample left. -/
structure Mixable (p : Pipeline) : Prop where
  makes : ∀ f ∈ p.queue.frames, p.target.Makes f.frame
  offset_zero : p.queue.frames = [] → p.mixer.offset = 0
  offset_lt : ∀ f ∈ p.queue.front?, p.mixer.offset < f.frame.length

theorem Sound.mixable (sound : p.Sound h) : p.Mixable where
  makes := sound.makes
  offset_zero := by
    intro empty
    rcases sound.within with zero | ⟨f, front, _⟩
    · exact zero
    · rw [empty] at front
      cases front
  offset_lt := by
    intro f front
    rcases sound.within with zero | ⟨f', front', lt⟩
    · rw [zero]
      exact (sound.makes f (List.mem_of_mem_head? front)).length_pos
    · cases front.symm.trans front'
      exact lt

theorem target_speak (p : Pipeline) (speaker : Speaker) (cue : Cue) :
    (p.speak speaker cue).2.target = p.target := by
  unfold speak
  dsimp only
  split
  · rfl
  · split <;> rfl

theorem target_speakAll (speaker : Speaker) (cues : List Cue) (p : Pipeline) :
    (p.speakAll speaker cues).2.2.target = p.target := by
  induction cues generalizing p with
  | nil => rfl
  | cons cue cues ih =>
    have one := p.target_speak speaker cue
    rw [speakAll]
    generalize p.speak speaker cue = r at one
    obtain ⟨_ | e, q⟩ := r
    · exact (ih q).trans one
    · exact one

theorem target_mix (p : Pipeline) (frame : Frame) : (p.mix frame).2.target = p.target := by
  unfold mix
  dsimp only
  split <;> rfl

theorem target_advance (p : Pipeline) (speaker : Speaker) (cues : List Cue) (frame : Frame) :
    (p.advance speaker cues frame).2.2.target = p.target := by
  have spoken := target_speakAll speaker cues p
  unfold advance
  generalize p.speakAll speaker cues = r at spoken
  obtain ⟨_ | e, left, q⟩ := r
  · exact (q.target_mix frame).trans spoken
  · exact spoken

theorem Reaches.target_eq (r : p.Reaches h q k) : q.target = p.target := by
  induction r with
  | here => rfl
  | call speaker cues frame track _ ih => exact (target_advance ..).trans ih

/-- What ends all work before a frame. -/
inductive Fatal (t : Target) (speaker : Speaker) (cues : List Cue) : PipelineError → Prop
  | memory {cue : Cue} {id : CueId} {u : Utterance} (mem : cue ∈ cues)
      (spoken : speaker id cue.text = .ok u) (full : u.ending = .outOfMemory) :
      Fatal t speaker cues (.generation .outOfMemory)
  | late {cue : Cue} {id : CueId} {u : Utterance} (mem : cue ∈ cues)
      (spoken : speaker id cue.text = .ok u) (late : t.Late cue u) :
      Fatal t speaker cues (.generation .overflow)

theorem Fatal.mono {t : Target} {speaker : Speaker} {cues cues' : List Cue} {e : PipelineError}
    (fatal : Fatal t speaker cues e) (more : cues ⊆ cues') : Fatal t speaker cues' e := by
  cases fatal with
  | memory mem spoken full => exact .memory (more mem) spoken full
  | late mem spoken late => exact .late (more mem) spoken late

theorem speak_fault {speaker : Speaker} {cue : Cue} {e : PipelineError}
    (fault : (p.speak speaker cue).1 = some e) : Fatal p.target speaker [cue] e := by
  unfold speak at fault
  dsimp only at fault
  split at fault
  · cases fault
  · split at fault
    · cases fault
    · next cause _ generated =>
      unfold Target.generate at generated
      split at generated
      · cases generated
        cases fault
      · next u spoken =>
        rw [Target.enqueue_eq] at generated
        have failed := congrArg Prod.fst generated
        rcases Target.utter_error failed with ⟨rfl, full⟩ | ⟨rfl, late⟩ | ⟨_, mild⟩
        · cases fault
          exact .memory List.mem_cons_self spoken full
        · cases fault
          exact .late List.mem_cons_self spoken late
        · rw [mild] at fault
          cases fault

theorem speakAll_fault {speaker : Speaker} {cues : List Cue} {e : PipelineError}
    (fault : (p.speakAll speaker cues).1 = some e) : Fatal p.target speaker cues e := by
  induction cues generalizing p with
  | nil => cases fault
  | cons cue cues ih =>
    rw [speakAll] at fault
    have one := @speak_fault p speaker cue
    have same := p.target_speak speaker cue
    generalize p.speak speaker cue = r at one same fault
    obtain ⟨_ | e', q⟩ := r
    · exact (same ▸ ih fault).mono (List.subset_cons_self cue cues)
    · cases fault
      exact (one rfl).mono (List.cons_subset_cons cue (List.nil_subset cues))

def wrongFormat (t : Target) (frame : Frame) : MixError :=
  .primaryFormat t.stream.format t.stream.channels frame.format frame.channels

theorem Sound.mix_error (sound : p.Sound h) {frame : Frame} {e : MixError}
    (fault : (p.mixer.mix frame (p.startOf frame) p.queue).1 = .error e) :
    e = wrongFormat p.target frame := by
  by_cases hf : p.mixer.Fits frame
  · obtain ⟨o, slices, n, r, ok, _⟩ :=
      Mixer.mix_of_fits hf sound.fits sound.within (p.startOf frame)
    rw [ok] at fault
    cases fault
  · rw [Mixer.mix_of_not_fits hf] at fault
    cases fault
    rw [sound.stream_eq]
    rfl

/-- Between calls and within them the queue can be mixed. A call fails just if memory or time stamps
run out while cues are spoken or else its frame is not of the target's format. -/
theorem fails_only_on_format {target : Target} {gains : Gains} {track : Subtitle.Track}
    {p₀ : Pipeline} (start : start? target gains track = .ok p₀) (reached : p₀.Reaches {} p h) :
    p.target = target ∧ p.Mixable ∧
    ∀ speaker cues frame,
      let q := (p.speakAll speaker cues).2.2
      q.Mixable ∧
      (∀ e, (q.mixer.mix frame (q.startOf frame) q.queue).1 = .error e →
        e = wrongFormat target frame) ∧
      match (p.speakAll speaker cues).1 with
      | some e => Fatal target speaker cues e ∧ (p.advance speaker cues frame).1 = .error e
      | none =>
        if frame.Fits target.stream.format target.stream.channels then
          ∃ out, (p.advance speaker cues frame).1 = .ok out
        else (p.advance speaker cues frame).1 = .error (.mix (wrongFormat target frame)) := by
  have sound := reached.sound (.start start)
  have aim : p.target = target := by rw [reached.target_eq, eq_of_start? start]
  refine ⟨aim, sound.mixable, ?_⟩
  intro speaker cues frame
  have spoken := sound.speakAll speaker cues
  have same := (target_speakAll speaker cues p).trans aim
  have fatal := @speakAll_fault p speaker cues
  unfold advance
  generalize p.speakAll speaker cues = r at spoken same fatal
  obtain ⟨fault, left, q⟩ := r
  dsimp only at spoken same fatal ⊢
  refine ⟨spoken.mixable, fun e fault => same ▸ spoken.mix_error fault, ?_⟩
  cases fault with
  | some e => exact ⟨aim ▸ fatal rfl, rfl⟩
  | none =>
    dsimp only
    rw [← same]
    split
    · next hf =>
      obtain ⟨out, _, ok, _⟩ := mix_of_fits spoken hf
      exact ⟨out, congrArg Prod.fst ok⟩
    · next hf => exact congrArg Prod.fst (mix_of_not_fits spoken hf).1

theorem fails_only_on_format_sixteen_bits :
    let frame := Frame.mono .f32 48000 (by decide) 0 [⟨0⟩, ⟨0⟩]
    let other := Frame.mono .s16 48000 (by decide) 0 [0]
    let p := ((single frame).process (.steady 3 ⟨0⟩) frame).2
    start? (single frame).target {} (single frame).track = .ok (single frame) ∧
    p.mixer.offset = 2 ∧ p.Mixable ∧
    (p.advance (.steady 3 ⟨0⟩) [] other).1 =
      .error (.mix (wrongFormat (single frame).target other)) := by
  intro frame other p
  have start : start? (single frame).target {} (single frame).track = .ok (single frame) := rfl
  have reached := (Reaches.here (p := single frame) (h := {})).process (.steady 3 ⟨0⟩) frame
  obtain ⟨_, mixable, fails⟩ := fails_only_on_format start reached
  obtain ⟨_, _, result⟩ := fails (.steady 3 ⟨0⟩) [] other
  have wrong : ¬ other.Fits (single frame).target.stream.format
    (single frame).target.stream.channels := by decide
  change if _ then _ else _ at result
  rw [if_neg wrong] at result
  exact ⟨start, by decide +kernel, mixable, result⟩

/-- The speech of a cue at the last microsecond there is has two samples. The clock of the pipeline
has no tick for the second. -/
theorem fails_on_late_speech :
    let part (start : Int) := Frame.mono .f32 48000 (by decide) start [⟨0⟩]
    let speaker : Speaker := fun _ _ =>
      .ok ⟨(part 0).stream, (part 0).timeBase, ⟨0⟩, [part 0, part 1], .finished⟩
    let frame : Frame :=
      { Frame.mono .s16 48000 (by decide) Ticks.most [0] with
        timeBase := .perSample 1000000 (by decide) }
    let target : Target := ⟨frame.stream, .perSample 1000000000 (by decide), {}, ""⟩
    let track : Subtitle.Track := ⟨[⟨"a", ⟨Ticks.most.toNat * 1000⟩, ⟨1⟩⟩]⟩
    ∃ p, start? target {} track = .ok p ∧
      frame.Fits target.stream.format target.stream.channels ∧
      (p.process speaker frame).1 = .error (.generation .overflow) := by
  intro part speaker frame target track
  let p : Pipeline := { target, track, mixer := { stream := target.stream, gains := {} } }
  have lost : (p.process speaker frame).1 matches .error (.generation .overflow) := by decide +kernel
  refine ⟨p, rfl, ⟨rfl, rfl⟩, ?_⟩
  generalize (p.process speaker frame).1 = result at lost ⊢
  split at lost
  · rfl
  · cases lost

end Pipeline

end Overdub
