import Overdub.Proofs.Playback.Heard

/-!
What mixing does. Over a due queue whose frames have the format of the mixer it lays as many
pending samples as the primary has room for and takes exactly those out of the queue.
-/

namespace Overdub

namespace Queue

def Counted (q : Queue) : Prop := q.samples = count q.frames

@[simp] theorem count_cons (f : QueuedFrame) (frames : List QueuedFrame) :
    count (f :: frames) = f.frame.length + count frames := rfl

@[simp] theorem count_append (fs gs : List QueuedFrame) : count (fs ++ gs) = count fs + count gs := by
  simp [count]

theorem Counted.push {q : Queue} (h : q.Counted) (f : QueuedFrame) : (q.push f).Counted := by
  change q.samples + f.frame.length = count (q.frames ++ [f])
  rw [h, count_append]
  rfl

theorem Counted.pop {q : Queue} (h : q.Counted) : q.pop.Counted := by
  obtain ⟨_ | ⟨f, frames⟩, n⟩ := q
  · exact h
  · change n = f.frame.length + count frames at h
    change n - f.frame.length = count frames
    omega

theorem Counted.popMany {q : Queue} (h : q.Counted) (n : Nat) : (q.popMany n).Counted := by
  induction n generalizing q with
  | zero => exact h
  | succ n ih => exact ih h.pop

theorem Counted.length_front_le {q : Queue} (h : q.Counted) {f : QueuedFrame}
    (hf : q.front? = some f) : f.frame.length ≤ q.samples := by
  obtain ⟨_ | ⟨f', frames⟩, n⟩ := q
  · cases hf
  · cases hf
    change n = f.frame.length + count frames at h
    change f.frame.length ≤ n
    omega

@[simp] theorem frames_popMany (q : Queue) (n : Nat) : (q.popMany n).frames = q.frames.drop n := by
  induction n generalizing q with
  | zero => rfl
  | succ n ih =>
    rw [popMany, ih, frames_pop, List.drop_tail]

section Map

variable (g : QueuedFrame → QueuedFrame) (long : ∀ f, (g f).frame.length = f.frame.length)
include long

theorem map_pop (q : Queue) :
    pop { q with frames := q.frames.map g } = { q.pop with frames := q.pop.frames.map g } := by
  obtain ⟨_ | ⟨f, frames⟩, samples⟩ := q
  · rfl
  · exact congrArg (Queue.mk _ <| samples - ·) (long f)

theorem map_popMany (q : Queue) (n : Nat) : popMany n { q with frames := q.frames.map g } =
    { q.popMany n with frames := (q.popMany n).frames.map g } := by
  induction n generalizing q with
  | zero => rfl
  | succ n ih => rw [popMany, popMany, map_pop g long, ih]

theorem map_pushAll (f : Frame → QueuedFrame) (made : List Frame) (q : Queue) :
    let r := made.foldl (fun q x => q.push (f x)) q
    { r with frames := r.frames.map g } =
      made.foldl (fun q x => q.push (g (f x))) { q with frames := q.frames.map g } := by
  induction made generalizing q with
  | nil => rfl
  | cons x made ih =>
    have one : (push { q with frames := q.frames.map g } (g (f x))) =
        { q.push (f x) with frames := (q.push (f x)).frames.map g } := by
      simp [push, long]
    rw [List.foldl_cons, List.foldl_cons, one]
    exact ih (q.push (f x))

end Map

theorem frames_popMany_of_suffix {q : Queue} {frames : List QueuedFrame} (h : frames <:+ q.frames) :
    (q.popMany (q.frames.length - frames.length)).frames = frames := by
  rw [frames_popMany]
  exact (List.suffix_iff_eq_drop.mp h).symm

theorem length_speech {fmt : Format} {c : Nat} {frames : List QueuedFrame}
    (hf : ∀ f ∈ frames, f.frame.Fits fmt c) : (speech fmt c frames).length = count frames := by
  induction frames with
  | nil => rfl
  | cons f frames ih =>
    obtain ⟨s, hs⟩ := Frame.exists_slicesAs? (hf f List.mem_cons_self)
    rw [speech_cons hs, List.length_append, ih fun f mem => hf f (List.mem_cons_of_mem _ mem),
      Frame.length_of_slicesAs? hs, count_cons]

end Queue

theorem Queue.Within.le_count {offset : Nat} {frames : List QueuedFrame} (h : Within offset frames) :
    offset ≤ count frames := by
  rcases h with rfl | ⟨f, front, lt⟩
  · exact Nat.zero_le _
  · cases frames with
    | nil => cases front
    | cons f' frames =>
      cases front
      exact Nat.le_add_right_of_le (Nat.le_of_lt lt)

namespace Mixer

open Queue (Within speech voices)

def Fits (m : Mixer) (frame : Frame) : Prop := frame.Fits m.stream.format m.stream.channels

def pendingFor (m : Mixer) (q : Queue) (frame : Frame) :
    List (Slice frame.stream.format.kind frame.stream.channels) :=
  (speech frame.stream.format frame.stream.channels q.frames).drop m.offset

def pendingVoices (m : Mixer) (q : Queue) : List CueId := (voices q.frames).drop m.offset

/-- What came of laying the speech of `q` over `frame`. -/
structure Laid (m : Mixer) (frame : Frame) (q : Queue) (o : Outcome)
    (slices : List (Slice frame.stream.format.kind frame.stream.channels)) (n : Mixer) (r : Queue) :
    Prop where
  stream_eq : n.stream = m.stream
  gains_eq : n.gains = m.gains
  mixed_eq : o.mixed = min frame.length (m.pendingFor q frame).length
  slices_eq : slices = frame.slices.zipWith (Slice.mix m.gains) (m.pendingFor q frame) ++
    frame.slices.drop o.mixed
  pending_eq : n.pendingFor r frame = (m.pendingFor q frame).drop o.mixed
  voices_eq : n.pendingVoices r = (m.pendingVoices q).drop o.mixed
  touched_eq : o.touched = runs none ((m.pendingVoices q).take o.mixed)
  exists_retired : ∃ used, q.frames = used ++ r.frames ∧
    o.retired = ends (used.map (·.cue)) (r.frames.map (·.cue))
  within : Within n.offset r.frames
  counted : q.Counted → r.Counted

theorem Laid.length_eq {m n : Mixer} {frame : Frame} {q r : Queue} {o : Outcome}
    {slices : List (Slice frame.stream.format.kind frame.stream.channels)}
    (h : Laid m frame q o slices n r) : slices.length = frame.length := by
  have mixed := h.mixed_eq
  rw [h.slices_eq, List.length_append, List.length_zipWith, List.length_drop]
  change o.mixed = min frame.slices.length _ at mixed
  change _ = frame.slices.length
  omega

theorem due_iff {q : Queue} {tb : TimeBase} {now : Int} :
    due q tb now ↔
      ∃ f ∈ q.front?, ∀ pts, f.frame.pts = some pts → f.frame.timeBase.rescale pts tb ≤ now := by
  unfold due
  cases q.front? with
  | none => simp
  | some f => cases h : f.frame.pts <;> simp [h]

theorem Fits.frames {m : Mixer} {frame : Frame} {frames : List QueuedFrame} (h : m.Fits frame)
    (hq : ∀ f ∈ frames, f.frame.Fits m.stream.format m.stream.channels) :
    ∀ f ∈ frames, f.frame.Fits frame.stream.format frame.stream.channels :=
  fun f mem => ⟨(hq f mem).1.trans h.1.symm, (hq f mem).2.trans h.2.symm⟩

theorem length_pendingVoices (m : Mixer) {q : Queue} {frame : Frame}
    (hq : ∀ f ∈ q.frames, f.frame.Fits frame.stream.format frame.stream.channels) :
    (m.pendingVoices q).length = (m.pendingFor q frame).length := by
  rw [pendingVoices, pendingFor, List.length_drop, List.length_drop, Queue.length_voices,
    Queue.length_speech hq]

theorem mix_of_not_fits {m : Mixer} {frame : Frame} (h : ¬ m.Fits frame) (now : Int) (q : Queue) :
    m.mix frame now q =
      (.error (.primaryFormat m.stream.format m.stream.channels frame.format frame.channels),
        frame, m, q) := if_neg h

theorem mix_of_not_due {m : Mixer} {frame : Frame} {now : Int} {q : Queue} (hf : m.Fits frame)
    (h : ¬ due q frame.timeBase now) : m.mix frame now q = (.ok {}, frame, m, q) :=
  (if_pos hf).trans (if_neg h)

theorem mix_of_due {m : Mixer} {frame : Frame} {now : Int} {q : Queue} (hf : m.Fits frame)
    (hq : ∀ f ∈ q.frames, f.frame.Fits m.stream.format m.stream.channels)
    (ho : Within m.offset q.frames) (h : due q frame.timeBase now) :
    ∃ o slices n r, m.mix frame now q = (.ok o, { frame with slices }, n, r) ∧
      Laid m frame q o slices n r := by
  have fits := hf.frames hq
  have lays := overlay_lays (g := m.gains) fits frame.slices ho none
  have e : m.mix frame now q = _ := (if_pos hf).trans (if_pos h)
  generalize overlay m.gains _ _ frame.slices m.offset none q.frames = p at lays e
  obtain ⟨o, ok, (mixed : o.mixed = min frame.slices.length (m.pendingFor q frame).length)⟩ :=
    lays.exists_outcome
  -- The queue drops as many frames as the pass used up, and these were its first ones.
  have left := Queue.frames_popMany_of_suffix lays.frames_suffix
  have unheard : ((voices q.frames).drop m.offset).length = _ := m.length_pendingVoices fits
  dsimp only at e
  rw [ok] at e
  refine ⟨o, p.slices, { m with offset := p.offset }, _, e, ?_⟩
  exact {
    stream_eq := rfl
    gains_eq := rfl
    mixed_eq := mixed
    slices_eq := by
      rw [lays.slices_eq, mixed, Nat.min_comm, ← List.drop_eq_drop_min]
      rfl
    pending_eq := by
      rw [pendingFor, left, lays.pending_eq, mixed, ← List.drop_eq_drop_min]
      rfl
    voices_eq := by
      rw [pendingVoices, left, lays.voices_eq, List.drop_eq_drop_min, unheard, ← mixed,
        pendingVoices]
    touched_eq := by
      rw [lays.touched_eq ok, List.take_eq_take_min, unheard, ← mixed, pendingVoices]
    exists_retired := by
      rw [left]
      exact lays.exists_retired ok
    within := by
      rw [left]
      exact lays.within ho
    counted := fun counted => counted.popMany _ }

/-- What an outcome says of the queue: `mixed` samples were taken from its front, and nothing
else. -/
structure Spent (m : Mixer) (q : Queue) (o : Outcome) (n : Mixer) (r : Queue) : Prop where
  stream_eq : n.stream = m.stream
  mixed_le : o.mixed ≤ (m.pendingVoices q).length
  voices_eq : n.pendingVoices r = (m.pendingVoices q).drop o.mixed
  touched_eq : o.touched = runs none ((m.pendingVoices q).take o.mixed)
  exists_retired : ∃ used, q.frames = used ++ r.frames ∧
    o.retired = ends (used.map (·.cue)) (r.frames.map (·.cue))
  within : Within n.offset r.frames
  counted : q.Counted → r.Counted

theorem mix_of_fits {m : Mixer} {frame : Frame} {q : Queue} (hf : m.Fits frame)
    (hq : ∀ f ∈ q.frames, f.frame.Fits m.stream.format m.stream.channels)
    (ho : Within m.offset q.frames) (now : Int) :
    ∃ o slices n r, m.mix frame now q = (.ok o, { frame with slices }, n, r) ∧ Spent m q o n r := by
  by_cases h : due q frame.timeBase now
  · obtain ⟨o, slices, n, r, e, laid⟩ := mix_of_due hf hq ho h
    refine ⟨o, slices, n, r, e, laid.stream_eq, ?_, laid.voices_eq, laid.touched_eq,
      laid.exists_retired, laid.within, laid.counted⟩
    rw [laid.mixed_eq, m.length_pendingVoices (hf.frames hq)]
    exact Nat.min_le_right _ _
  · exact ⟨{}, frame.slices, m, q, mix_of_not_due hf h, rfl, Nat.zero_le _, rfl, rfl,
      ⟨[], rfl, rfl⟩, ho, fun counted => counted⟩

end Mixer

end Overdub
