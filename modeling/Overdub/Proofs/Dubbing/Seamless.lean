import Overdub.Proofs.Dubbing.Safety
import Overdub.Proofs.Playback.Front

/-!
Speech plays without gaps. The frames of a cue meet on a clock of samples, and primary frames that
follow one another move on by as many ticks as samples are laid; so once the first frame of a cue is
due, the speech of the cue stays due until it is used up.
-/

namespace Overdub

namespace Pipeline

variable {p q : Pipeline} {h k : History}

theorem gains_mix (p : Pipeline) (frame : Frame) :
    (p.mix frame).2.mixer.gains = p.mixer.gains := by
  have same : (p.mixer.mix frame (p.startOf frame) p.queue).2.2.1.gains = p.mixer.gains := by
    unfold Mixer.mix
    split
    · split <;> rfl
    · rfl
  unfold mix
  dsimp only
  split <;> exact same

theorem Sound.speakAll_queues (sound : p.Sound h) (clock : p.target.Sampled)
    (seamless : Queue.Seamless p.queue.frames) (speaker : Speaker) (cues : List Cue) :
    ∃ added, (p.speakAll speaker cues).2.2.queue.frames = p.queue.frames ++ added ∧
      (∀ f ∈ added, p.ledger.nextId ≤ f.cue) ∧
      (p.speakAll speaker cues).2.2.mixer = p.mixer ∧
      Queue.Seamless (p.speakAll speaker cues).2.2.queue.frames := by
  induction cues generalizing p h with
  | nil => exact ⟨[], (List.append_nil _).symm, nofun, rfl, seamless⟩
  | cons cue cues ih =>
    obtain ⟨made, spoke⟩ := exists_spoke sound.tallied sound.counted sound.below speaker cue
    have next := sound.spoke spoke
    have meets := seamless.append (fun f mem => Nat.ne_of_lt (sound.below f mem))
      (spoke.meets clock)
    rw [← spoke.frames_eq] at meets
    have one : ∀ f ∈ made.map (QueuedFrame.mk p.ledger.nextId), p.ledger.nextId ≤ f.cue := by
      simp
    have target := spoke.target_eq
    have nextId := spoke.moves.nextId_eq
    have frames := spoke.frames_eq
    have mixer := spoke.mixer_eq
    rw [Pipeline.speakAll]
    generalize p.speak speaker cue = r at next meets target nextId frames mixer
    obtain ⟨_ | e, q⟩ := r
    · dsimp only at next meets target nextId frames mixer ⊢
      obtain ⟨added, rest, later, mixer', whole⟩ := ih next (target ▸ clock) meets
      refine ⟨_, by rw [rest, frames, List.append_assoc], ?_, mixer'.trans mixer, whole⟩
      intro f mem
      rcases List.mem_append.mp mem with mem | mem
      · exact one f mem
      · exact Nat.le_trans (nextId ▸ Nat.le_succ _) (later f mem)
    · exact ⟨_, frames, one, mixer, meets⟩

theorem Sound.mix_suffix (sound : p.Sound h) (frame : Frame) :
    (p.mix frame).2.queue.frames <:+ p.queue.frames := by
  by_cases hf : p.mixer.Fits frame
  · obtain ⟨o, slices, n, r, e, spent⟩ :=
      Mixer.mix_of_fits hf sound.fits sound.within (p.startOf frame)
    obtain ⟨used, split, _⟩ := spent.exists_retired
    unfold Pipeline.mix
    rw [e]
    exact ⟨used, split.symm⟩
  · unfold Pipeline.mix
    rw [Mixer.mix_of_not_fits hf]

theorem Reaches.seamless (r : p.Reaches h q k) (sound : p.Sound h)
    (clock : p.target.Sampled) (seamless : Queue.Seamless p.queue.frames) :
    Queue.Seamless q.queue.frames ∧ q.mixer.gains = p.mixer.gains := by
  induction r with
  | here => exact ⟨seamless, rfl⟩
  | @call q k speaker cues frame track r ih =>
    have sound' := r.sound sound
    obtain ⟨_, _, _, mixer, spoken⟩ :=
      sound'.speakAll_queues (r.target_eq ▸ clock) ih.1 speaker cues
    have sound'' := sound'.speakAll speaker cues
    unfold advance
    generalize q.speakAll speaker cues = s at mixer spoken sound''
    obtain ⟨_ | e, left, q'⟩ := s
    · refine ⟨spoken.suffix (sound''.mix_suffix frame), (q'.gains_mix frame).trans ?_⟩
      rw [mixer, ih.2]
    · exact ⟨spoken, (congrArg Mixer.gains mixer).trans ih.2⟩

structure Call where
  speaker : Speaker
  cues : List Cue
  frame : Frame
  track : Subtitle.Track

def spoken (p : Pipeline) (c : Call) : Pipeline := (p.speakAll c.speaker c.cues).2.2

def after (p : Pipeline) (c : Call) : Pipeline :=
  { (p.advance c.speaker c.cues c.frame).2.2 with track := c.track }

/-- Calls that all give a frame back. The first primary frame starts at `now` and each one where the
one before it ends. -/
inductive Plays : Pipeline → Int → List Call → List Frame → Prop
  | done (p now) : Plays p now [] []
  | call {p now c calls out outs} : c.frame.timeBase = p.target.timeBase → c.frame.pts = some now →
      (p.advance c.speaker c.cues c.frame).1 = .ok out →
      Plays (p.after c) (now + c.frame.length) calls outs →
      Plays p now (c :: calls) (out :: outs)

def onTrack (p : Pipeline) (speaker : Speaker) (frame : Frame) : Call where
  speaker
  cues := (p.due frame).1
  frame
  track := ⟨(p.advance speaker (p.due frame).1 frame).2.1 ++ (p.due frame).2⟩

theorem Plays.process {speaker : Speaker} {frame out : Frame} {now : Int} {calls : List Call}
    {outs : List Frame} (base : frame.timeBase = p.target.timeBase) (start : frame.pts = some now)
    (ok : (p.process speaker frame).1 = .ok out)
    (run : (p.process speaker frame).2.Plays (now + frame.length) calls outs) :
    p.Plays now (p.onTrack speaker frame :: calls) (out :: outs) :=
  .call base start ok run

/-- Cue `x` is at the front of the queue with `rest` still to be laid, and its front frame is late
enough to go on at `now`; or nothing of it is left. -/
structure Underway (p : Pipeline) (fmt : Format) (c : Nat) (x : CueId) (now : Int)
    (rest : List (Slice fmt.kind c)) : Prop where
  least_le : Ticks.least ≤ now
  ongoing : rest ≠ [] → ∃ f ∈ p.queue.front?, f.cue = x ∧
    (∃ s ∈ f.frame.pts, s + p.mixer.offset ≤ now) ∧
    rest = (Queue.speech fmt c (Queue.own x p.queue.frames)).drop p.mixer.offset

section Underway

variable {fmt : Format} {c : Nat} {x : CueId} {now : Int} {rest : List (Slice fmt.kind c)}

theorem Underway.spoken (u : p.Underway fmt c x now rest) (sound : p.Sound h)
    (clock : p.target.Sampled) (seamless : Queue.Seamless p.queue.frames) (call : Call) :
    (p.spoken call).Underway fmt c x now rest where
  least_le := u.least_le
  ongoing some := by
    obtain ⟨f, front, cue, late, e⟩ := u.ongoing some
    obtain ⟨added, frames, later, mixer, _⟩ :=
      sound.speakAll_queues clock seamless call.speaker call.cues
    have absent : ∀ g ∈ added, g.cue ≠ x := by
      intro g mem
      have below := sound.below f (List.mem_of_mem_head? front)
      rw [← cue]
      exact Nat.ne_of_gt (Nat.lt_of_lt_of_le below (later g mem))
    unfold Pipeline.spoken
    refine ⟨f, ?_, cue, mixer ▸ late, ?_⟩
    · unfold Queue.front? at front ⊢
      rw [frames, List.head?_append, front]
      rfl
    · rw [frames, mixer, Queue.own_append, Queue.own_eq_nil absent, List.append_nil, e]

theorem Underway.due (u : p.Underway fmt c x now rest) (some : rest ≠ []) (sound : p.Sound h) :
    Mixer.due p.queue p.target.timeBase now := by
  obtain ⟨f, front, _, ⟨s, stamp, late⟩, _⟩ := u.ongoing some
  apply Mixer.due_iff.mpr
  refine ⟨f, front, ?_⟩
  intro pts start
  cases stamp.symm.trans start
  rw [(sound.makes f (List.mem_of_mem_head? front)).timeBase_eq, TimeBase.rescale_self]
  exact Ticks.clamp_le u.least_le (by omega)

theorem Underway.laid {frame : Frame}
    {rest : List (Slice frame.stream.format.kind frame.stream.channels)}
    (u : p.Underway _ _ x now rest) (some : rest ≠ []) (sound : p.Sound h)
    (seamless : Queue.Seamless p.queue.frames) (fits : p.mixer.Fits frame) {o : Mixer.Outcome}
    {slices : List (Slice frame.stream.format.kind frame.stream.channels)} {n : Mixer} {r : Queue}
    (laid : Mixer.Laid p.mixer frame p.queue o slices n r) :
    slices.take rest.length = frame.slices.zipWith (Slice.mix p.mixer.gains) rest ∧
    (rest.drop frame.length ≠ [] → ∃ f ∈ r.front?, f.cue = x ∧
      (∃ s ∈ f.frame.pts, s + n.offset ≤ now + frame.length) ∧
      rest.drop frame.length = (Queue.speech _ _ (Queue.own x r.frames)).drop n.offset) := by
  obtain ⟨f, front, rfl, ⟨s, stamp, late⟩, rfl⟩ := u.ongoing some
  have fits := fits.frames sound.fits
  obtain ⟨others, split, foreign⟩ := Queue.exists_own_append front sound.sorted
  have meets := seamless f.cue
  have mine : ∀ g ∈ Queue.own f.cue p.queue.frames, g.cue = f.cue := by simp [Queue.own]
  unfold Queue.front? at front
  generalize Queue.own f.cue p.queue.frames = fs at *
  have kept : ∀ g ∈ fs, g ∈ p.queue.frames := fun g mem => split ▸ List.mem_append_left _ mem
  have fits' : ∀ g ∈ fs, g.frame.Fits frame.stream.format frame.stream.channels :=
    fun g mem => fits g (kept g mem)
  have length := Queue.length_speech fits'
  have begun : p.mixer.offset < Queue.count fs := by
    rw [← length]
    exact Nat.lt_of_not_le fun all => some (List.drop_eq_nil_of_le all)
  have pending : p.mixer.pendingFor p.queue frame =
      (Queue.speech _ _ fs).drop p.mixer.offset ++ Queue.speech _ _ others := by
    rw [Mixer.pendingFor, split, Queue.speech_append,
      List.drop_append_of_le_length (by rw [length]; omega)]
  refine ⟨laid.take_slices pending, ?_⟩
  intro more
  have longer : p.mixer.offset + frame.length < Queue.count fs := by
    rw [List.drop_drop] at more
    rw [← length]
    exact Nat.lt_of_not_le fun all => more (List.drop_eq_nil_of_le all)
  obtain ⟨used, left, rfl, frames, some, count⟩ := laid.exists_left fits split longer
  obtain ⟨g, left, rfl⟩ := List.exists_cons_of_ne_nil some
  have mem : g ∈ used ++ g :: left := List.mem_append_right _ List.mem_cons_self
  obtain ⟨t, stamp'⟩ := Option.isSome_iff_exists.mp (sound.makes g (kept g mem)).pts_isSome
  have own : Queue.own f.cue r.frames = g :: left := by
    rw [frames, Queue.own_append, Queue.own_eq_nil foreign, List.append_nil]
    exact Queue.own_eq_self fun k known => mine k (List.mem_append_right _ known)
  have front' : f ∈ (used ++ g :: left).head? := by
    rw [split] at front
    cases used <;> exact front
  have later := Queue.pts_le_of_meets meets front' stamp stamp'
  refine ⟨g, by rw [Queue.front?, frames]; rfl, mine g mem, ⟨t, stamp', by omega⟩, ?_⟩
  rw [own, List.drop_drop, ← count]
  exact Queue.drop_speech_append (fun k known => fits' k (List.mem_append_left _ known)) _ _

theorem mix_of_mixer_ok {frame out : Frame} {o : Mixer.Outcome} {n : Mixer} {r : Queue}
    (e : p.mixer.mix frame (p.startOf frame) p.queue = (.ok o, out, n, r)) :
    ∃ q, p.mix frame = (.ok out, q) ∧ q.mixer = n ∧ q.queue = r := by
  unfold mix
  rw [e]
  exact ⟨_, rfl, rfl, rfl⟩

/-- One frame: the head of `rest` is laid over it, and the tail is due when the frame ends. -/
theorem Underway.mix {frame : Frame}
    {rest : List (Slice frame.stream.format.kind frame.stream.channels)}
    (u : p.Underway _ _ x now rest) (sound : p.Sound h)
    (seamless : Queue.Seamless p.queue.frames)
    (hf : frame.Fits p.target.stream.format p.target.stream.channels)
    (clock : frame.timeBase = p.target.timeBase) (start : frame.pts = some now) :
    ∃ slices q, p.mix frame = (.ok { frame with slices }, q) ∧ slices.length = frame.length ∧
      slices.take rest.length = frame.slices.zipWith (Slice.mix p.mixer.gains) rest ∧
      q.Underway _ _ x (now + frame.length) (rest.drop frame.length) := by
  have fits : p.mixer.Fits frame := by
    rw [Mixer.Fits, sound.stream_eq]
    exact hf
  have starts : p.startOf frame = now := by rw [startOf, start]; rfl
  have low : Ticks.least ≤ now + frame.length := by
    have := u.least_le
    omega
  by_cases due : Mixer.due p.queue frame.timeBase now
  · obtain ⟨o, slices, n, r, e, laid⟩ := Mixer.mix_of_due fits sound.fits sound.within due
    rw [← starts] at e
    obtain ⟨q, mixed, rfl, rfl⟩ := mix_of_mixer_ok e
    refine ⟨slices, q, mixed, laid.length_eq, ?_⟩
    by_cases some : rest = []
    · subst some
      exact ⟨by simp, low, fun more => absurd List.drop_nil more⟩
    · obtain ⟨laid, next⟩ := u.laid some sound seamless fits laid
      exact ⟨laid, low, next⟩
  · -- Speech that is under way is due, so there is none.
    have none : rest = [] := by
      by_contra some
      exact due (clock ▸ u.due some sound)
    subst none
    have e := Mixer.mix_of_not_due fits due
    rw [← starts] at e
    obtain ⟨q, mixed, _, _⟩ := mix_of_mixer_ok e
    exact ⟨frame.slices, q, mixed, rfl, by simp, low, fun more => absurd List.drop_nil more⟩

end Underway

theorem advance_of_ok {c : Call} {out : Frame}
    (ok : (p.advance c.speaker c.cues c.frame).1 = .ok out) :
    ((p.spoken c).mix c.frame).1 = .ok out ∧
      p.after c = { ((p.spoken c).mix c.frame).2 with track := c.track } := by
  unfold after spoken
  unfold advance at ok ⊢
  generalize p.speakAll c.speaker c.cues = r at ok ⊢
  obtain ⟨_ | e, left, q⟩ := r
  · exact ⟨ok, rfl⟩
  · cases ok

theorem Underway.call (sound : p.Sound h) (clock : p.target.Sampled)
    (seamless : Queue.Seamless p.queue.frames) {c : Call} {out : Frame} {x : CueId} {now : Int}
    {fmt : Format} {channels : Nat} (aim : p.target.stream.format = fmt)
    (aim' : p.target.stream.channels = channels) {rest : List (Slice fmt.kind channels)}
    (base : c.frame.timeBase = p.target.timeBase) (start : c.frame.pts = some now)
    (ok : (p.advance c.speaker c.cues c.frame).1 = .ok out)
    (u : (p.spoken c).Underway fmt channels x now rest) :
    c.frame.Fits fmt channels ∧ out.Fits fmt channels ∧ out.length = c.frame.length ∧
      (Frame.audio fmt channels [out]).take rest.length =
        (Frame.audio fmt channels [c.frame]).zipWith (Slice.mix p.mixer.gains) rest ∧
      (p.after c).Underway fmt channels x (now + c.frame.length) (rest.drop c.frame.length) := by
  obtain ⟨mixed, next⟩ := advance_of_ok ok
  have sound' : (p.spoken c).Sound _ := sound.speakAll c.speaker c.cues
  obtain ⟨_, _, _, mixer, seamless'⟩ := sound.speakAll_queues clock seamless c.speaker c.cues
  have target : (p.spoken c).target = p.target := target_speakAll c.speaker c.cues p
  have hf : c.frame.Fits fmt channels := by
    by_contra not
    rw [← aim, ← aim', ← target] at not
    rw [(mix_of_not_fits sound' not).1] at mixed
    cases mixed
  obtain ⟨rfl, rfl⟩ := hf
  obtain ⟨slices, q, e, length, laid, under⟩ :=
    u.mix sound' seamless' (by rw [target]; exact ⟨aim.symm, aim'.symm⟩) (by rw [target, base]) start
  rw [e] at mixed next
  cases mixed
  refine ⟨⟨rfl, rfl⟩, ⟨rfl, rfl⟩, length, ?_, ?_⟩
  · have whole : ∀ x : Frame, Frame.audio x.stream.format x.stream.channels [x] = x.slices := by
      intro x
      rw [Frame.audio, List.flatMap_singleton, Frame.slicesAs?, dif_pos ⟨rfl, rfl⟩]
      rfl
    have gains : (p.spoken c).mixer.gains = p.mixer.gains := congrArg Mixer.gains mixer
    rw [whole c.frame, ← gains, ← laid]
    exact congrArg _ (whole { c.frame with slices })
  · rw [next]
    exact ⟨under.least_le, under.ongoing⟩

/-- A run of calls after the speech of `x` has come to the front. -/
theorem Plays.lays {now : Int} {calls : List Call} {outs : List Frame} (run : p.Plays now calls outs)
    (sound : p.Sound h) (clock : p.target.Sampled) (seamless : Queue.Seamless p.queue.frames)
    {fmt : Format} {channels : Nat} (aim : p.target.stream.format = fmt)
    (aim' : p.target.stream.channels = channels) {x : CueId} {rest : List (Slice fmt.kind channels)}
    (u : ∀ c ∈ calls.head?, (p.spoken c).Underway fmt channels x now rest) :
    (∀ y ∈ calls.map (·.frame) ++ outs, y.Fits fmt channels) ∧
    outs.map Frame.length = calls.map (·.frame.length) ∧
    (Frame.audio fmt channels outs).take rest.length =
      (Frame.audio fmt channels (calls.map (·.frame))).zipWith (Slice.mix p.mixer.gains) rest := by
  induction run generalizing h rest with
  | done => exact ⟨nofun, rfl, by simp [Frame.audio]⟩
  | @call p now c calls out outs base start ok run ih =>
    obtain ⟨fits, fits', length, laid, under⟩ :=
      Underway.call sound clock seamless aim aim' base start ok (u c rfl)
    have step : p.Reaches h (p.after c) _ := .call c.speaker c.cues c.frame c.track .here
    have sound' := step.sound sound
    have target := step.target_eq
    obtain ⟨seamless', gains⟩ := step.seamless sound clock seamless
    obtain ⟨all, lengths, later⟩ := ih sound' (target ▸ clock) seamless' (target ▸ aim)
      (target ▸ aim') fun c' _ => under.spoken sound' (target ▸ clock) seamless' c'
    refine ⟨?_, ?_, ?_⟩
    · intro y mem
      rcases List.mem_append.mp mem with mem | mem <;> rcases List.mem_cons.mp mem with rfl | mem
      · exact fits
      · exact all y (List.mem_append_left _ mem)
      · exact fits'
      · exact all y (List.mem_append_right _ mem)
    · rw [List.map_cons, List.map_cons, lengths, length]
    · rw [Frame.audio_cons _ _ out, List.map_cons, Frame.audio_cons _ _ c.frame, zipWith_append_left, List.take_append,
        laid, Frame.length_audio fits', Frame.length_audio fits, length, ← gains, ← later,
        List.length_drop]

/-- On a clock of samples: once the first frame of a cue is at the front of the queue and due, every
sample of the primary from there on receives a sample of speech until the frames of the cue are used
up, however both are cut into frames. -/
theorem plays_without_gap {target : Target} {gains : Gains} {track : Subtitle.Track}
    {p₀ : Pipeline} (start : start? target gains track = .ok p₀) (reached : p₀.Reaches {} p h)
    (clock : target.Sampled) {now : Int} {c : Call} {calls : List Call} {outs : List Frame}
    (run : p.Plays now (c :: calls) outs) {f : QueuedFrame}
    (front : f ∈ (p.spoken c).queue.front?) (unheard : (p.spoken c).mixer.offset = 0)
    (due : Mixer.due (p.spoken c).queue c.frame.timeBase now)
    (room : ∀ s ∈ f.frame.pts, s ≤ Ticks.most) :
    let fmt := target.stream.format
    let channels := target.stream.channels
    let frames := (c :: calls).map (·.frame)
    let speech := Queue.speech fmt channels (Queue.own f.cue (p.spoken c).queue.frames)
    (∀ y ∈ frames ++ outs, y.Fits fmt channels) ∧
    outs.map Frame.length = frames.map Frame.length ∧
    (Frame.audio fmt channels outs).take speech.length =
      (Frame.audio fmt channels frames).zipWith (Slice.mix gains) speech := by
  intro fmt channels frames speech
  have sound₀ := Sound.start start
  have sound := reached.sound sound₀
  have eq := eq_of_start? start
  have aim : p.target = target := by rw [reached.target_eq, eq]
  obtain ⟨seamless, gains'⟩ := reached.seamless sound₀ (by rw [eq]; exact clock)
    (by rw [eq]; exact Queue.seamless_nil)
  replace gains' : p.mixer.gains = gains := by rw [gains', eq]
  have spoken : (p.spoken c).Sound _ := sound.speakAll c.speaker c.cues
  have base : c.frame.timeBase = (p.spoken c).target.timeBase := by
    have same : (p.spoken c).target = p.target := target_speakAll c.speaker c.cues p
    cases run with
    | call base => rw [base, same]
  have under : (p.spoken c).Underway fmt channels f.cue now speech := by
    obtain ⟨f', front', late⟩ := Mixer.due_iff.mp due
    cases front.symm.trans front'
    have makes := spoken.makes f (List.mem_of_mem_head? front)
    obtain ⟨s, stamp⟩ := Option.isSome_iff_exists.mp makes.pts_isSome
    have late := late s stamp
    rw [base, makes.timeBase_eq, TimeBase.rescale_self] at late
    have low := Ticks.least_le_clamp s
    have high := Ticks.le_clamp (room s stamp)
    refine ⟨by omega, fun _ => ⟨f, front, rfl, ⟨s, stamp, ?_⟩, ?_⟩⟩
    · rw [unheard]
      omega
    · rw [unheard]
      rfl
  have lays := run.lays sound (aim ▸ clock) seamless (by rw [aim]) (by rw [aim]) fun c' first => by
    cases first
    exact under
  rw [gains'] at lays
  rw [List.map_map]
  exact lays

theorem plays_without_gap_three_samples :
    let frame := Frame.mono .f32 48000 (by decide) 0 [⟨0⟩, ⟨0⟩]
    let next := Frame.mono .f32 48000 (by decide) 2 [⟨0⟩, ⟨0⟩]
    let p := single frame
    let speaker := Speaker.steady 3 ⟨0x3f000000⟩
    let fmt := frame.stream.format
    ∃ calls outs, p.Plays 0 calls outs ∧ calls.map (·.frame) = [frame, next] ∧
      ∃ speech : List (Slice fmt.kind 1),
        speech = Queue.speech fmt 1 (p.spoken (p.onTrack speaker frame)).queue.frames ∧
        speech.length = 3 ∧
        (Frame.audio fmt 1 outs).take 3 =
          (Frame.audio fmt 1 [frame, next]).zipWith (Slice.mix {}) speech := by
  intro frame next p speaker fmt
  have exists_ok : ∀ {x : Except PipelineError Frame}, x.toBool = true → ∃ y, x = .ok y := by
    intro x ok
    cases x with
    | ok y => exact ⟨y, rfl⟩
    | error e => cases ok
  let q := (p.process speaker frame).2
  obtain ⟨out, ok⟩ := @exists_ok (p.process speaker frame).1 (by decide +kernel)
  obtain ⟨out', ok'⟩ := @exists_ok (q.process speaker next).1 (by decide +kernel)
  have run : p.Plays 0 [p.onTrack speaker frame, q.onTrack speaker next] [out, out'] :=
    .process rfl rfl ok (.process (by decide +kernel) rfl ok' (.done _ _))
  let g := p.spoken (p.onTrack speaker frame)
  obtain ⟨f, front⟩ : ∃ f, f ∈ g.queue.front? :=
    Option.isSome_iff_exists.mp (by decide +kernel)
  have start : g.queue.front?.map (fun f => (f.cue, f.frame.pts)) = some (0, some 0) := by
    decide +kernel
  rw [front] at start
  obtain ⟨cue, stamp⟩ := Prod.mk.inj (Option.some.inj start)
  have own : Queue.own f.cue g.queue.frames = g.queue.frames := by
    have all : g.queue.frames.all (·.cue = 0) := by decide +kernel
    exact Queue.own_eq_self fun k mem => cue ▸ of_decide_eq_true (List.all_eq_true.mp all k mem)
  have room : ∀ s ∈ f.frame.pts, s ≤ Ticks.most := by
    rw [stamp]
    intro s mem
    cases mem
    decide
  have started : start? p.target {} p.track = .ok p := rfl
  have reached : p.Reaches {} p {} := .here
  have length : (Queue.speech fmt 1 g.queue.frames).length = 3 := by decide +kernel
  obtain ⟨_, _, laid⟩ := plays_without_gap started reached ⟨by decide, rfl⟩ run front
    (by decide +kernel) (by decide +kernel) room
  rw [own] at laid
  refine ⟨_, _, run, rfl, _, rfl, length, ?_⟩
  rw [← length]
  exact laid

end Pipeline

end Overdub
