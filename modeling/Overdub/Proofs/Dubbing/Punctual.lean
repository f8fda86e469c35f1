import Overdub.Proofs.Dubbing.Conservation
import Overdub.Proofs.Dubbing.Delivery
import Overdub.Proofs.Speech.Timeline
import Overdub.Proofs.Time.Lag

/-!
When speech is first heard. A cue falls due by its time in microseconds, but its speech starts at a
tick that is reached by way of the clock of the speech. Where the two agree, the frame that makes a
cue due is the one in which its speech starts; where they do not, the speech waits for a later frame.
-/

namespace Overdub

namespace Fitter

variable {f g : Fitter} {offset : Int}

def stamped (offset : Int) : Nat → List Frame → List Frame
  | _, [] => []
  | position, x :: xs =>
    x.withPts (some (Ticks.clamp (x.pts.getD (min position Ticks.most) + offset))) ::
      stamped offset (position + x.length) xs

theorem length_stamped (offset : Int) (position : Nat) (xs : List Frame) :
    (stamped offset position xs).map Frame.length = xs.map Frame.length := by
  induction xs generalizing position with
  | nil => rfl
  | cons x xs ih => exact congrArg (x.length :: ·) (ih _)

theorem accepts_stamped {xs : List Frame} (h : ∀ x ∈ xs, f.Accepts x) (offset : Int)
    (position : Nat) : ∀ x ∈ stamped offset position xs, f.Accepts x := by
  induction xs generalizing position with
  | nil => exact nofun
  | cons x xs ih =>
    intro y mem
    rcases List.mem_cons.mp mem with rfl | mem
    · exact h x List.mem_cons_self
    · exact ih (fun y mem => h y (List.mem_cons_of_mem _ mem)) _ y mem

theorem pushAll_of_pushEach {position : Nat} {xs out : List Frame}
    (h : f.pushEach (stamped offset position xs) = .ok (out, g)) :
    f.pushAll offset position xs = (out, none, g) := by
  induction xs generalizing f position out with
  | nil =>
    cases h
    rfl
  | cons x xs ih =>
    rw [stamped, pushEach] at h
    rw [pushAll]
    dsimp only
    cases pushed : f.push (x.withPts
        (some (Ticks.clamp (x.pts.getD (min position Ticks.most) + offset)))) with
    | error e =>
      rw [pushed] at h
      cases h
    | ok p =>
      obtain ⟨head, f'⟩ := p
      rw [pushed] at h
      dsimp only at h ⊢
      cases rest : f'.pushEach (stamped offset (position + x.length) xs) with
      | error e =>
        rw [rest] at h
        cases h
      | ok r =>
        rw [rest] at h
        cases h
        rw [ih rest]

end Fitter

theorem Target.length_frames {f : Fitter} {source target : Stream} {timeBase : TimeBase}
    {speed : Float} (fresh : f.Fresh source target timeBase speed) (inward : f.inward.Delivers)
    (outward : f.outward.Delivers) (offset : Int) {u : Utterance}
    (accepts : ∀ x ∈ u.frames, f.Accepts x) (ending : u.ending = .finished)
    (fits : ∀ y ∈ Fitter.Exact.fit f (Fitter.stamped offset 0 u.frames), y.Stamped) :
    (frames f offset u).2 = .ok none ∧ ((frames f offset u).1.map Frame.length).sum =
      RateConverter.lengthAt 48000 target.rate.toNat (Stretch.lengthAt speed
        (RateConverter.lengthAt source.rate.toNat 48000 (u.frames.map Frame.length).sum)) := by
  obtain ⟨ps, exact, samples, -⟩ := fresh.fit (Fitter.stamped offset 0 u.frames)
  have length := fresh.length_whole inward outward
    ((Fitter.stamped offset 0 u.frames).flatMap Frame.downmix)
  rw [← samples, ← f.length_pieces 0, Fitter.length_downmix, Fitter.length_stamped, ← exact] at length
  rw [← length]
  have fit := Fitter.fit_eq (Fitter.accepts_stamped accepts offset 0)
  rw [if_pos fits, Fitter.fit] at fit
  cases pushed : f.pushEach (Fitter.stamped offset 0 u.frames) with
  | error e =>
    rw [pushed] at fit
    cases fit
  | ok r =>
    rw [pushed] at fit
    replace fit : (r.2.flush >>= fun p => pure (r.1 ++ p.1.toList)) = _ := fit
    cases flushed : r.2.flush with
    | error e =>
      rw [flushed] at fit
      cases fit
    | ok last =>
      rw [flushed] at fit
      rw [← Except.ok.inj fit, frames, Fitter.pushAll_of_pushEach pushed, ending]
      dsimp only [fault]
      rw [flushed]
      exact ⟨rfl, rfl⟩

/-- The first frame is told to be the first moment of the speech. -/
def Utterance.FromZero (u : Utterance) : Prop :=
  ∀ x ∈ u.frames.head?, x.timeBase = u.timeBase ∧ x.pts.getD 0 = 0

theorem Target.generate_of_answer {t : Target} {speaker : Speaker} {id : CueId} {cue : Cue}
    {u : Utterance} (answer : speaker id cue.text = .ok u) (q : Queue) :
    t.generate speaker id cue q =
      ((t.utter cue u).2, (t.utter cue u).1.foldl (fun q x => q.push ⟨id, x⟩) q) := by
  rw [generate, answer]
  exact t.enqueue_eq id cue u q

theorem Target.utter_eq {t : Target} {cue : Cue} {u : Utterance} {speed : Float} {f : Fitter}
    (checked : Speed.check (t.speeds.fitting u.duration.toFloat cue.duration.toFloat) = .ok speed)
    (started : Fitter.start? u.stream t.stream t.timeBase speed = .ok f) :
    t.utter cue u =
      let (made, result) := frames f (u.timeBase.ofDuration cue.start) u
      (made, result.map fun fault =>
        { duration := u.duration
          speed
          frames := made.length
          samples := (made.map Frame.length).sum
          fault }) := by
  rw [utter]
  dsimp only
  rw [checked]
  dsimp only
  rw [started]

theorem Target.pts_of_head_utter {t : Target} {cue : Cue} {u : Utterance} (zero : u.FromZero)
    {y : Frame} (made : y ∈ (t.utter cue u).1.head?) :
    y.pts = some (t.timeBase.ofDurationVia u.timeBase cue.start) := by
  unfold utter at made
  dsimp only at made
  split at made
  · cases made
  · split at made
    · cases made
    · next fitter started =>
      obtain ⟨x, first, start⟩ := exists_pts_of_head_frames (Fitter.fresh_of_start? started) made
      obtain ⟨clock, stamp⟩ := zero x first
      have low : Ticks.least ≤ u.timeBase.ofDuration cue.start :=
        Int.le_trans (by decide) (u.timeBase.ofDuration_nonneg cue.start)
      rw [start, clock, stamp, Int.zero_add, Ticks.clamp_of_mem low (TimeBase.rescale_le_most ..)]
      rfl

namespace Pipeline

variable {p q : Pipeline} {h : History} {speaker : Speaker} {frame : Frame} {cue : Cue}
  {u : Utterance}

theorem speakAll_append {xs : List Cue} (spoken : p.speakAll speaker xs = (none, [], q))
    (ys : List Cue) : p.speakAll speaker (xs ++ ys) = q.speakAll speaker ys := by
  induction xs generalizing p with
  | nil =>
    cases spoken
    rfl
  | cons cue xs ih =>
    rw [speakAll] at spoken
    rw [List.cons_append, speakAll]
    generalize p.speak speaker cue = r at spoken ⊢
    obtain ⟨_ | e, p'⟩ := r
    · exact ih spoken
    · cases spoken

theorem startOf_speak (p : Pipeline) (speaker : Speaker) (cue : Cue) (frame : Frame) :
    (p.speak speaker cue).2.startOf frame = p.startOf frame := by
  unfold speak
  dsimp only
  split
  · rfl
  · split <;> rfl

theorem startOf_speakAll (p : Pipeline) (speaker : Speaker) (cues : List Cue) (frame : Frame) :
    (p.speakAll speaker cues).2.2.startOf frame = p.startOf frame := by
  induction cues generalizing p with
  | nil => rfl
  | cons cue cues ih =>
    have one := p.startOf_speak speaker cue frame
    rw [speakAll]
    generalize p.speak speaker cue = r at one
    obtain ⟨_ | e, q⟩ := r
    · exact (ih q).trans one
    · exact one

theorem frames_speak (counted : p.queue.Counted) (silent : p.queue.frames = [])
    (answer : speaker p.ledger.nextId cue.text = .ok u)
    (queued : (p.speak speaker cue).2.queue.frames ≠ []) :
    (p.speak speaker cue).2.queue.frames =
      (p.target.utter cue u).1.map (⟨p.ledger.nextId, ·⟩) := by
  have pushed := Target.push_frames p.ledger.nextId (p.target.utter cue u).1 p.queue
  unfold speak at queued ⊢
  dsimp only at queued ⊢
  split at queued
  · exact absurd silent queued
  · next spoken =>
    rw [if_neg spoken]
    rw [Target.generate_of_answer answer] at queued ⊢
    cases result : (p.target.utter cue u).2 with
    | ok report =>
      rw [silent, List.nil_append] at pushed
      exact pushed
    | error e =>
      have absent : ∀ f ∈ p.queue.frames, f.cue ≠ p.ledger.nextId := by
        rw [silent]
        exact nofun
      rw [result] at queued
      dsimp only at queued
      rw [Queue.without_eq counted absent pushed] at queued
      exact absurd silent queued

theorem speak_of_utter (words : ¬ cue.isBlank) (answer : speaker p.ledger.nextId cue.text = .ok u)
    {report : Report} (told : (p.target.utter cue u).2 = .ok report) :
    (p.speak speaker cue).1 = none ∧ (p.speak speaker cue).2.queue.frames =
      p.queue.frames ++ (p.target.utter cue u).1.map (⟨p.ledger.nextId, ·⟩) := by
  unfold speak
  dsimp only
  rw [if_neg words, Target.generate_of_answer answer, told]
  exact ⟨rfl, Target.push_frames ..⟩

/-- In the call for `frame`, `cue` is the first to queue speech, which is that of `u`. Before it the
queue is empty, and the pipeline has become `q`. Neither memory nor time stamps run out. -/
structure Opens (p : Pipeline) (speaker : Speaker) (frame : Frame) (q : Pipeline) (cue : Cue)
    (u : Utterance) : Prop where
  exists_due : ∃ before after, (p.due frame).1 = before ++ cue :: after ∧
    p.speakAll speaker before = (none, [], q)
  silent : q.queue.frames = []
  answer : speaker q.ledger.nextId cue.text = .ok u
  queued : (q.speak speaker cue).2.queue.frames ≠ []
  room : (p.speakAll speaker (p.due frame).1).1 = none

theorem Opens.start_le (opens : p.Opens speaker frame q cue u) : cue.start ≤ p.moment frame := by
  obtain ⟨before, after, due, -⟩ := opens.exists_due
  have mem : cue ∈ (p.due frame).1 := by
    rw [due]
    exact List.mem_append_right _ List.mem_cons_self
  rw [Pipeline.due, List.span_eq_takeWhile_dropWhile] at mem
  exact of_decide_eq_true (List.all_eq_true.mp List.all_takeWhile cue mem)

theorem Opens.exists_front (opens : p.Opens speaker frame q cue u) (sound : p.Sound h)
    (zero : u.FromZero) : ∃ r, p.speakAll speaker (p.due frame).1 = (none, [], r) ∧
      q.ledger.nextId ∉ h.heard ∧
      ∃ f ∈ r.queue.front?, f.cue = q.ledger.nextId ∧
        f.frame.pts = some (p.target.timeBase.ofDurationVia u.timeBase cue.start) := by
  obtain ⟨before, after, due, spoken⟩ := opens.exists_due
  obtain ⟨r, all, -⟩ := exists_speakAll opens.room
  have sound' := sound.speakAll speaker before
  rw [spoken] at sound'
  have target : q.target = p.target := by
    have same := target_speakAll speaker before p
    rwa [spoken] at same
  have later : q.speakAll speaker (cue :: after) = (none, [], r) := by
    rw [← speakAll_append spoken, ← due, all]
  have own := frames_speak sound'.counted opens.silent opens.answer opens.queued
  rw [target] at own
  have queued := opens.queued
  refine ⟨r, all, fun mem => Nat.lt_irrefl _ (sound'.lt_of_heard mem), ?_⟩
  cases made : (p.target.utter cue u).1 with
  | nil =>
    rw [own, made] at queued
    exact absurd rfl queued
  | cons y ys =>
    refine ⟨⟨q.ledger.nextId, y⟩, ?_, rfl, Target.pts_of_head_utter zero (by rw [made]; rfl)⟩
    have one := sound'.speak speaker cue
    rw [speakAll] at later
    generalize q.speak speaker cue = r' at own one later
    obtain ⟨_ | e, q'⟩ := r'
    · obtain ⟨-, -, more, rest⟩ := one.speakAll_adds speaker after
      dsimp only at rest later own
      rw [later, own, made] at rest
      rw [Queue.front?, ← rest]
      rfl
    · cases later

theorem Sound.head?_pendingVoices (sound : p.Sound h) {f : QueuedFrame}
    (front : f ∈ p.queue.front?) : f.cue ∈ (p.mixer.pendingVoices p.queue).head? := by
  obtain ⟨more, frames⟩ := List.head?_eq_some_iff.mp front
  have long := (sound.makes f (List.mem_of_mem_head? front)).length_pos
  have below : p.mixer.offset < f.frame.length := by
    rcases sound.within with none | ⟨f', front', lt⟩
    · rwa [none]
    · cases front.symm.trans front'
      exact lt
  obtain ⟨n, left⟩ := Nat.exists_eq_add_of_lt below
  rw [Mixer.pendingVoices, frames, Queue.voices_cons,
    List.drop_append_of_le_length (by simp; omega), List.drop_replicate]
  have some : f.frame.length - p.mixer.offset = n + 1 := by omega
  rw [some]
  rfl

theorem mem_heardIn_of_due (sound : p.Sound h)
    (fits : frame.Fits p.target.stream.format p.target.stream.channels) (long : 0 < frame.length)
    (due : Mixer.due p.queue frame.timeBase (p.startOf frame)) {f : QueuedFrame}
    (front : f ∈ p.queue.front?) : f.cue ∈ p.heardIn frame := by
  obtain ⟨voices, first⟩ := List.head?_eq_some_iff.mp (sound.head?_pendingVoices front)
  rw [← sound.stream_eq] at fits
  obtain ⟨o, _, _, _, e, laid⟩ := Mixer.mix_of_due fits sound.fits sound.within due
  have mixed := laid.mixed_eq
  rw [← Mixer.length_pendingVoices _ (Mixer.Fits.frames fits sound.fits), first] at mixed
  obtain ⟨n, some⟩ : ∃ n, o.mixed = n + 1 :=
    Nat.exists_eq_succ_of_ne_zero (by rw [mixed, List.length_cons]; omega)
  rw [heardIn, e]
  dsimp only
  rw [first, some, List.take_succ_cons]
  exact List.mem_cons_self

theorem mix_of_late (sound : p.Sound h)
    (fits : frame.Fits p.target.stream.format p.target.stream.channels)
    (late : ¬ Mixer.due p.queue frame.timeBase (p.startOf frame)) :
    (p.mix frame).1 = .ok frame ∧ (p.mix frame).2.queue = p.queue ∧ p.heardIn frame = [] := by
  rw [← sound.stream_eq] at fits
  have e := Mixer.mix_of_not_due fits late
  unfold mix heardIn
  rw [e]
  exact ⟨rfl, rfl, rfl⟩

theorem due_iff_le (sound : p.Sound h) (base : frame.timeBase = p.target.timeBase) {f : QueuedFrame}
    (front : f ∈ p.queue.front?) {tick now : Int} (stamp : f.frame.pts = some tick)
    (low : Ticks.least ≤ tick) (high : tick ≤ Ticks.most) :
    Mixer.due p.queue frame.timeBase now ↔ tick ≤ now := by
  have clock := (sound.makes f (List.mem_of_mem_head? front)).timeBase_eq
  have same : f.frame.timeBase.rescale tick frame.timeBase = tick := by
    rw [clock, base, TimeBase.rescale_self_of_mem _ low high]
  rw [Mixer.due_iff]
  constructor
  · rintro ⟨f', front', late⟩
    cases front.symm.trans front'
    have := late tick stamp
    rwa [same] at this
  · intro le
    refine ⟨f, front, ?_⟩
    intro pts e
    cases stamp.symm.trans e
    rwa [same]

namespace Opens

variable (opens : p.Opens speaker frame q cue u) (sound : p.Sound h) (zero : u.FromZero)
  (base : frame.timeBase = p.target.timeBase)
  (fits : frame.Fits p.target.stream.format p.target.stream.channels)

include opens sound zero base fits

theorem exists_ready : ∃ r, p.speakAll speaker (p.due frame).1 = (none, [], r) ∧
    (∃ k : History, k.heard = h.heard ∧ r.Sound k) ∧
    frame.Fits r.target.stream.format r.target.stream.channels ∧
    q.ledger.nextId ∉ h.heard ∧ (∃ f ∈ r.queue.front?, f.cue = q.ledger.nextId) ∧
    (Mixer.due r.queue frame.timeBase (r.startOf frame) ↔
      p.target.timeBase.ofDurationVia u.timeBase cue.start ≤ p.startOf frame) := by
  obtain ⟨r, spoken, unheard, f, front, own, stamp⟩ := opens.exists_front sound zero
  have sound' := sound.speakAll speaker (p.due frame).1
  have same := target_speakAll speaker (p.due frame).1 p
  have now := p.startOf_speakAll speaker (p.due frame).1 frame
  rw [spoken] at sound' same now
  have history : ∃ k : History, k.heard = h.heard ∧ r.Sound k :=
    ⟨{ h with spoken := h.spoken ++ p.spokenBy speaker (p.due frame).1 }, rfl, sound'⟩
  refine ⟨r, spoken, history, by rwa [same], unheard, ⟨f, front, own⟩, ?_⟩
  rw [now]
  refine due_iff_le sound' (by rw [base, same]) front stamp ?_ (TimeBase.rescale_le_most ..)
  exact Int.le_trans (by decide) (TimeBase.rescale_nonneg (u.timeBase.ofDuration_nonneg _))

theorem starts (long : 0 < frame.length)
    (early : p.target.timeBase.ofDurationVia u.timeBase cue.start ≤ p.startOf frame) :
    q.ledger.nextId ∈ (p.speakAll speaker (p.due frame).1).2.2.heardIn frame ∧
      ((p.process speaker frame).2.ledger.state q.ledger.nextId = .mixing ∨
        (p.process speaker frame).2.ledger.state q.ledger.nextId = .retired) := by
  obtain ⟨r, spoken, ⟨k, -, sound'⟩, fits', -, ⟨f, front, own⟩, due⟩ :=
    opens.exists_ready sound zero base fits
  have heard := mem_heardIn_of_due sound' fits' long (due.mpr early) front
  rw [own] at heard
  rw [process_of_speakAll rfl spoken, spoken]
  refine ⟨heard, ?_⟩
  have mixed := sound'.mix frame
  have mem := List.mem_append_right k.heard heard
  change (r.mix frame).2.ledger.state _ = _ ∨ (r.mix frame).2.ledger.state _ = _
  rw [mixed.state _ (mixed.lt_of_heard mem), stage, if_pos mem, if_pos mem]
  split
  · exact .inl rfl
  · exact .inr rfl

theorem waits (late : p.startOf frame < p.target.timeBase.ofDurationVia u.timeBase cue.start) :
    (p.process speaker frame).1 = .ok frame ∧
      (p.process speaker frame).2.ledger.state q.ledger.nextId = .queued := by
  obtain ⟨r, spoken, ⟨k, past, sound'⟩, fits', unheard, ⟨f, front, own⟩, due⟩ :=
    opens.exists_ready sound zero base fits
  obtain ⟨kept, queue, silent⟩ := mix_of_late sound' fits' (mt due.mp (Int.not_le.mpr late))
  rw [process_of_speakAll rfl spoken]
  refine ⟨kept, ?_⟩
  have mixed := sound'.mix frame
  have left : f ∈ (r.mix frame).2.queue.frames := queue ▸ List.mem_of_mem_head? front
  have known : q.ledger.nextId ∈ (r.mix frame).2.queue.frames.map (·.cue) :=
    List.mem_map.mpr ⟨f, left, own⟩
  change (r.mix frame).2.ledger.state _ = _
  rw [mixed.state _ (own ▸ mixed.below f left), stage, if_pos known, if_neg]
  rwa [silent, List.append_nil, past]

end Opens

/-- The first speech of a call starts in its frame just if its tick is not after the start of the
frame. It is so if the clock of the speech is that of the primary, or if the ticks of the primary are
not much shorter than those of the speech; else the tick may be late, but never by more than half a
tick of each of the clocks it was rounded to. -/
theorem starts_speech_in_due_frame {target : Target} {gains : Gains} {track : Subtitle.Track}
    {p₀ : Pipeline} (start : start? target gains track = .ok p₀) (reached : p₀.Reaches {} p h)
    {rate_ne : target.stream.rate ≠ 0} (clock : target.timeBase = .perSample target.stream.rate rate_ne)
    (base : frame.timeBase = target.timeBase)
    (fits : frame.Fits target.stream.format target.stream.channels) (long : 0 < frame.length)
    (later : 0 ≤ p.startOf frame) (opens : p.Opens speaker frame q cue u) (zero : u.FromZero)
    {remote : UInt32} {remote_ne : remote ≠ 0} (via : u.timeBase = .perSample remote remote_ne) :
    let id := q.ledger.nextId
    let now := p.startOf frame
    let tick := target.timeBase.ofDurationVia u.timeBase cue.start
    let after := (p.process speaker frame).2.ledger
    let primary := target.stream.rate.toNat
    (∃ out, (p.process speaker frame).1 = .ok out) ∧
      (tick ≤ now → id ∈ (p.speakAll speaker (p.due frame).1).2.2.heardIn frame ∧
        (after.state id = .mixing ∨ after.state id = .retired)) ∧
      (now < tick → (p.process speaker frame).1 = .ok frame ∧ after.state id = .queued) ∧
      2 * ((tick - now) * (1000000 * remote.toNat)) ≤
        primary * remote.toNat + 1000000 * primary + 1000000 * remote.toNat ∧
      (primary * (remote.toNat + 1000000) < 1000000 * remote.toNat ∨
        remote = target.stream.rate ∧ primary ≤ 1000000 → tick ≤ now) := by
  intro id now tick after primary
  have sound := reached.sound (Sound.start start)
  obtain rfl : p.target = target := by rw [reached.target_eq, eq_of_start? start]
  have early := opens.start_le
  rw [moment, base, clock] at early
  refine ⟨?_, opens.starts sound zero base fits long, opens.waits sound zero base fits, ?_, ?_⟩
  · obtain ⟨r, spoken, ⟨_, -, sound'⟩, fits', -⟩ := opens.exists_ready sound zero base fits
    obtain ⟨out, _, mixed, -⟩ := mix_of_fits sound' fits'
    exact ⟨out, by rw [process_of_speakAll rfl spoken, mixed]⟩
  · have lag := TimeBase.lag_le remote_ne later early
    rwa [← via, ← clock] at lag
  · rintro (coarse | ⟨rfl, slow⟩)
    · have le := TimeBase.ofDurationVia_le remote_ne later early coarse
      rwa [← via, ← clock] at le
    · have le := TimeBase.ofDurationVia_self_le later early slow
      change p.target.timeBase.ofDurationVia u.timeBase cue.start ≤ now
      rwa [via, clock]

theorem starts_speech_in_due_frame_three_samples :
    let frame := Frame.mono .f32 48000 (by decide) 3 [⟨0⟩, ⟨0⟩]
    let speech := Frame.mono .f32 48000 (by decide) 0 (.replicate 3 ⟨0x3f000000⟩)
    let u : Utterance := ⟨speech.stream, speech.timeBase, ⟨0⟩, [speech], .finished⟩
    let blank : Cue := ⟨" ", ⟨0⟩, ⟨1⟩⟩
    let cue : Cue := ⟨"a", .ofMicros 63, ⟨1⟩⟩
    let p := { single frame with track := ⟨[blank, cue]⟩ }
    let speaker : Speaker := fun _ _ => .ok u
    let q := (p.speak speaker blank).2
    p.Opens speaker frame q cue u ∧ u.FromZero ∧
      frame.timeBase.ofDurationVia u.timeBase cue.start = 3 ∧
      (∃ out, (p.process speaker frame).1 = .ok out) ∧
      q.ledger.nextId ∈ (p.speakAll speaker (p.due frame).1).2.2.heardIn frame := by
  intro frame speech u blank cue p speaker q
  have due : (p.due frame).1 = [blank, cue] := by decide +kernel
  have opens : p.Opens speaker frame q cue u := by
    have silent : (p.speak speaker blank).1.isNone ∧ q.queue.frames.isEmpty := by decide +kernel
    have spoken : p.speakAll speaker [blank] = (none, [], q) :=
      speakAll_cons_of_ok (Option.isNone_iff_eq_none.mp silent.1) []
    refine ⟨⟨[blank], [], due, spoken⟩, List.isEmpty_iff.mp silent.2, rfl, ?_, ?_⟩
    · have queued : (q.speak speaker cue).2.queue.frames.length = 1 := by decide +kernel
      exact List.ne_nil_of_length_eq_add_one queued
    · have room : (p.speakAll speaker (p.due frame).1).1.isNone := by decide +kernel
      exact Option.isNone_iff_eq_none.mp room
  have zero : u.FromZero := by
    intro x front
    cases front
    exact ⟨rfl, rfl⟩
  have tick : frame.timeBase.ofDurationVia u.timeBase cue.start = 3 := by decide +kernel
  have start : start? p.target {} p.track = .ok p := rfl
  have now : p.startOf frame = 3 := rfl
  have reached : p.Reaches {} p {} := .here
  have clock : p.target.timeBase = .perSample p.target.stream.rate (by decide) := rfl
  have base : frame.timeBase = p.target.timeBase := rfl
  have later : 0 ≤ p.startOf frame := by
    rw [now]
    decide
  have via : u.timeBase = .perSample 48000 (by decide) := rfl
  obtain ⟨ok, heard, -, -, -⟩ := starts_speech_in_due_frame start reached clock base ⟨rfl, rfl⟩
    (by decide) later opens zero via
  exact ⟨opens, zero, tick, ok, (heard (by rw [now]; exact Int.le_of_eq tick)).1⟩

/-- A cue at ten milliseconds is due with the frame that starts there, but its speech is at tick 221
of its own clock, and that is tick 442 of the primary, which is one too many. -/
theorem waits_at_ten_milliseconds :
    let frame := Frame.mono .f32 44100 (by decide) 441 [⟨0⟩]
    let speech := Frame.mono .f32 22050 (by decide) 0 [⟨0x3f000000⟩]
    let u : Utterance := ⟨speech.stream, speech.timeBase, ⟨0⟩, [speech], .finished⟩
    let cue : Cue := ⟨"a", .ofMicros 10000, ⟨1⟩⟩
    let speaker : Speaker := fun _ _ => .ok u
    let p := { single frame with track := ⟨[cue]⟩ }
    start? p.target {} p.track = .ok p ∧ p.startOf frame = 441 ∧ p.Opens speaker frame p cue u ∧
      u.FromZero ∧ (p.process speaker frame).1 = .ok frame ∧
      (p.process speaker frame).2.ledger.state 0 = .queued := by
  intro frame speech u cue speaker p
  have start : start? p.target {} p.track = .ok p := rfl
  have speed : Speed.check (p.target.speeds.fitting u.duration.toFloat cue.duration.toFloat) = .ok 1 := by
    have usable : Speed.usable u.duration.toFloat = false := by decide +kernel
    rw [SpeedRange.fitting, usable]
    exact if_pos (by decide +kernel)
  obtain ⟨f, started⟩ : ∃ f, Fitter.start? u.stream p.target.stream p.target.timeBase 1 = .ok f :=
    ⟨_, Fitter.start?_eq _ (by decide) (by decide) (by decide) (by decide) (by decide +kernel)⟩
  have fresh := Fitter.fresh_of_start? started
  have inward : f.inward.Delivers := by
    obtain ⟨rate_ne, first⟩ := fresh.exists_inward
    replace first : f.inward = .start 22050 48000 rate_ne := first
    rw [first]
    exact RateConverter.delivers_start rate_ne (by decide) (by decide)
  have outward : f.outward.Delivers := by
    have last : f.outward = .start 48000 44100 (by decide) := fresh.outward_eq
    rw [last]
    exact RateConverter.delivers_start (by decide) (by decide) (by decide)
  have accepts : ∀ x ∈ u.frames, f.Accepts x := by
    intro x mem
    cases List.mem_singleton.mp mem
    rw [Fitter.Accepts, fresh.source_eq]
    exact ⟨rfl, rfl⟩
  have fits : ∀ y ∈ Fitter.Exact.fit f (Fitter.stamped (u.timeBase.ofDuration cue.start) 0 u.frames),
      y.Stamped := by
    obtain ⟨ps, exact, samples, -, known, -⟩ :=
      fresh.fit (Fitter.stamped (u.timeBase.ofDuration cue.start) 0 u.frames)
    rw [exact]
    have clock : f.timeBase = .perSample f.target.rate f.rate_ne := by
      rw [fresh.timeBase_eq]
      simp only [fresh.target_eq]
      rfl
    refine fun y => Fitter.stamped_of_mem_pieces clock (known _ rfl _ rfl) (by decide +kernel) ?_
    rw [samples, fresh.length_whole inward outward]
    decide +kernel
  obtain ⟨told, length⟩ :=
    Target.length_frames fresh inward outward (u.timeBase.ofDuration cue.start) accepts rfl fits
  have utter := Target.utter_eq speed started
  have made : (p.target.utter cue u).1 ≠ [] := by
    intro nil
    rw [utter] at nil
    rw [nil] at length
    exact absurd length (by decide +kernel)
  have report : ∃ report, (p.target.utter cue u).2 = .ok report := by
    rw [utter]
    dsimp only
    rw [told]
    exact ⟨_, rfl⟩
  obtain ⟨report, told⟩ := report
  have answer : speaker p.ledger.nextId cue.text = .ok u := rfl
  obtain ⟨ok, queued⟩ := speak_of_utter (by decide) answer told
  have due : (p.due frame).1 = [cue] := by decide +kernel
  have opens : p.Opens speaker frame p cue u := by
    refine ⟨⟨[], [], due, rfl⟩, rfl, rfl, ?_, ?_⟩
    · rw [queued]
      exact List.append_ne_nil_of_right_ne_nil _ (mt List.map_eq_nil_iff.mp made)
    · rw [due, speakAll_cons_of_ok ok]
      rfl
  have zero : u.FromZero := by
    intro x front
    cases front
    exact ⟨rfl, rfl⟩
  obtain ⟨same, state⟩ := opens.waits (.start start) zero rfl ⟨rfl, rfl⟩ (by decide +kernel)
  exact ⟨start, rfl, opens, zero, same, state⟩

end Pipeline

end Overdub
