import Overdub.Proofs.Dubbing.Voicing

/-!
Speech that breaks off, because a frame cannot be decoded or is of another format than the rest, is
queued like speech that comes to its end there. Only the report tells of the fault. Speech that
fails before its first frame leaves the queue alone.
-/

namespace Overdub

namespace Utterance

def Admits (u : Utterance) (x : Frame) : Prop :=
  x.stream.rate = u.stream.rate ∧ x.stream.channels = u.stream.channels

/-- The speech breaks off after the frames `xs`, all of which are taken in. -/
inductive BreaksAfter (u : Utterance) (xs : List Frame) : DecodeError → Prop
  /-- What comes next cannot be decoded. -/
  | decoding {e : DecodeError} (admits : ∀ x ∈ xs, u.Admits x) (frames_eq : u.frames = xs)
      (ending : u.ending = .broken e) : BreaksAfter u xs e
  /-- A frame comes next that does not fit. What would follow it is not looked at. -/
  | format {x : Frame} {later : List Frame} (admits : ∀ y ∈ xs, u.Admits y)
      (frames_eq : u.frames = xs ++ x :: later) (other : ¬ u.Admits x) :
      BreaksAfter u xs (.fit (.inputFormat u.stream.rate.toNat u.stream.channels
        x.stream.rate.toNat x.stream.channels))

/-- The speech of the frames `xs` only, which then ends. -/
def endingAfter (u : Utterance) (xs : List Frame) : Utterance :=
  { u with frames := xs, ending := .finished }

end Utterance

namespace Fitter

variable {f g : Fitter} {offset : Int} {position : Nat}

theorem accepts_withPts (f : Fitter) (x : Frame) (pts : Option Int) :
    f.Accepts (x.withPts pts) ↔ f.Accepts x := Iff.rfl

theorem push_of_not_accepts {x : Frame} (h : ¬ f.Accepts x) :
    f.push x = .error (.inputFormat f.source.rate.toNat f.source.channels x.stream.rate.toNat
      x.stream.channels) :=
  if_neg h

theorem exists_pushAll {xs : List Frame} (h : ∀ x ∈ xs, f.Accepts x) (offset : Int)
    (position : Nat) : ∃ out fault g, f.pushAll offset position xs = (out, fault, g) ∧
      (fault = none ∧ g.source = f.source ∨ fault = some .overflow) := by
  induction xs generalizing f position with
  | nil => exact ⟨[], none, f, rfl, .inl ⟨rfl, rfl⟩⟩
  | cons x xs ih =>
    let start := Ticks.clamp (x.pts.getD (min position Ticks.most) + offset)
    have taken := push_eq ((f.accepts_withPts x (some start)).mpr (h x List.mem_cons_self))
    rw [pushAll]
    dsimp only
    rw [taken]
    cases pushed : bounded (Exact.push f (x.withPts (some start))) with
    | error e =>
      obtain ⟨rfl, -⟩ := exists_of_bounded_error pushed
      exact ⟨_, _, _, rfl, .inr rfl⟩
    | ok r =>
      obtain ⟨rfl, -⟩ := bounded_eq_ok_iff.mp pushed
      have accepts : ∀ y ∈ xs, (Exact.push f (x.withPts (some start))).2.Accepts y :=
        fun y mem => (f.accepts_push _ y).mpr (h y (List.mem_cons_of_mem _ mem))
      obtain ⟨out, fault, g, rest, how⟩ := ih accepts (position + x.length)
      rw [(f.gives_push (x.withPts (some start))).source_eq] at how
      dsimp only
      rw [rest]
      exact ⟨_, _, _, rfl, how⟩

theorem pushAll_append_of_fault {xs out : List Frame} {e : FitError} (ys : List Frame)
    (h : f.pushAll offset position xs = (out, some e, g)) :
    f.pushAll offset position (xs ++ ys) = (out, some e, g) := by
  induction xs generalizing f position out with
  | nil => cases h
  | cons x xs ih =>
    rw [pushAll] at h
    rw [List.cons_append, pushAll]
    dsimp only at h ⊢
    split at h
    · exact h
    · obtain ⟨rfl, tail⟩ := Prod.mk.inj h
      rw [ih (Prod.ext rfl tail)]

theorem pushAll_append {xs ys out : List Frame} (h : f.pushAll offset position xs = (out, none, g)) :
    f.pushAll offset position (xs ++ ys) =
      let (rest, fault, last) := g.pushAll offset (position + (xs.map Frame.length).sum) ys
      (out ++ rest, fault, last) := by
  induction xs generalizing f position out with
  | nil =>
    cases h
    rfl
  | cons x xs ih =>
    rw [pushAll] at h
    rw [List.cons_append, pushAll]
    dsimp only at h ⊢
    split at h
    · cases h
    · next head f' pushed =>
      obtain ⟨rfl, tail⟩ := Prod.mk.inj h
      rw [ih (Prod.ext rfl tail)]
      simp only [List.map_cons, List.sum_cons, Nat.add_assoc, List.append_assoc]

theorem pushAll_of_not_accepts {xs out : List Frame} {x : Frame} (later : List Frame)
    (h : f.pushAll offset position xs = (out, none, g)) (other : ¬ g.Accepts x) :
    f.pushAll offset position (xs ++ x :: later) =
      (out, some (.inputFormat g.source.rate.toNat g.source.channels x.stream.rate.toNat
        x.stream.channels), g) := by
  rw [pushAll_append h, pushAll]
  simp only [push_of_not_accepts (mt (g.accepts_withPts x _).mp other), List.append_nil]
  rfl

end Fitter

namespace Target

variable {u : Utterance} {xs : List Frame} {fault : DecodeError}

theorem frames_of_breaksAfter {f : Fitter} (source : f.source = u.stream) (offset : Int)
    (h : u.BreaksAfter xs fault) :
    frames f offset u = ((frames f offset (u.endingAfter xs)).1,
        (frames f offset (u.endingAfter xs)).2.map fun _ => some fault) ∧
      ∀ r, (frames f offset (u.endingAfter xs)).2 = .ok r → r = none := by
  have accepts : ∀ x, f.Accepts x ↔ u.Admits x := by
    intro x
    rw [Fitter.Accepts, source]
    rfl
  have admits : ∀ x ∈ xs, u.Admits x := by
    cases h <;> assumption
  obtain ⟨out, stopped, g, pushed, ⟨rfl, same⟩ | rfl⟩ :=
    Fitter.exists_pushAll (fun x mem => (accepts x).mpr (admits x mem)) offset 0
  · cases h with
    | decoding _ frames_eq ending =>
      simp only [frames, Utterance.endingAfter, frames_eq, pushed, ending, Target.fault]
      cases g.flush with
      | error e => exact ⟨rfl, nofun⟩
      | ok r => exact ⟨rfl, fun r ok => (Except.ok.inj ok).symm⟩
    | @format x later _ frames_eq other =>
      have refused : ¬ g.Accepts x := by
        rw [Fitter.Accepts, same]
        exact (accepts x).not.mpr other
      have cut := Fitter.pushAll_of_not_accepts later pushed refused
      simp only [frames, Utterance.endingAfter, frames_eq, pushed, cut, same, source, Target.fault]
      cases g.flush with
      | error e => exact ⟨rfl, nofun⟩
      | ok r => exact ⟨rfl, fun r ok => (Except.ok.inj ok).symm⟩
  · have whole : f.pushAll offset 0 u.frames = (out, some .overflow, g) := by
      cases h with
      | decoding _ frames_eq _ => rw [frames_eq, pushed]
      | format _ frames_eq _ => rw [frames_eq, Fitter.pushAll_append_of_fault _ pushed]
    simp only [frames, Utterance.endingAfter, whole, pushed, Target.fault]
    exact ⟨rfl, nofun⟩

theorem utter_of_breaksAfter (t : Target) (cue : Cue) (h : u.BreaksAfter xs fault) :
    t.utter cue u = ((t.utter cue (u.endingAfter xs)).1,
        (t.utter cue (u.endingAfter xs)).2.map fun report => { report with fault := some fault }) ∧
      ∀ report, (t.utter cue (u.endingAfter xs)).2 = .ok report → report.fault = none := by
  unfold utter
  simp only [Utterance.endingAfter]
  split
  · exact ⟨rfl, nofun⟩
  · split
    · exact ⟨rfl, nofun⟩
    · next fitter started =>
      obtain ⟨same, clean⟩ := frames_of_breaksAfter (Fitter.fresh_of_start? started).source_eq
        (u.timeBase.ofDuration cue.start) h
      simp only [Utterance.endingAfter] at same clean
      rw [same]
      dsimp only
      cases result : (frames fitter (u.timeBase.ofDuration cue.start)
          { u with frames := xs, ending := .finished }).2 with
      | error e => exact ⟨rfl, nofun⟩
      | ok r =>
        obtain rfl := clean r result
        refine ⟨rfl, ?_⟩
        intro report ok
        cases ok
        rfl

/-- A report tells of all that was queued, and that is what it would be if the speech came to its end
where it breaks off. Where there is no report, nothing was queued, unless memory or time stamps ran
out. -/
theorem queues_up_to_break (t : Target) (id : CueId) (cue : Cue) (u : Utterance) (q : Queue) :
    (∀ report, (t.enqueue id cue u q).1 = .ok report → ∃ made : List Frame,
      (t.enqueue id cue u q).2 = ⟨q.frames ++ made.map (⟨id, ·⟩), q.samples + report.samples⟩ ∧
      report.frames = made.length ∧ report.samples = (made.map Frame.length).sum) ∧
    (∀ xs fault, u.BreaksAfter xs fault →
      let ended := t.enqueue id cue (u.endingAfter xs) q
      t.enqueue id cue u q =
        (ended.1.map fun report => { report with fault := some fault }, ended.2) ∧
      ∀ report, ended.1 = .ok report → report.fault = none) ∧
    (∀ e, (t.enqueue id cue u q).1 = .error e → e ≠ .outOfMemory → e ≠ .overflow →
      (t.enqueue id cue u q).2 = q) := by
  refine ⟨?_, ?_, ?_⟩
  · intro report ok
    rw [enqueue_eq] at ok ⊢
    obtain ⟨frames_eq, samples_eq⟩ := utter_ok ok
    refine ⟨(t.utter cue u).1, ?_, frames_eq, samples_eq⟩
    rw [samples_eq, ← push_frames, ← push_samples id]
  · intro xs fault breaks ended
    obtain ⟨same, clean⟩ := utter_of_breaksAfter t cue breaks
    rw [enqueue_eq, same]
    subst ended
    rw [enqueue_eq]
    exact ⟨rfl, clean⟩
  · intro e failed memory stamps
    rw [enqueue_eq] at failed ⊢
    rcases utter_error failed with ⟨full, _⟩ | ⟨late, _⟩ | ⟨nothing, _⟩
    · exact absurd full memory
    · exact absurd late stamps
    · rw [nothing]
      rfl

theorem queues_up_to_break_three_samples :
    let frame := Frame.mono .f32 48000 (by decide) 0 (.replicate 3 ⟨0x3f000000⟩)
    let other := Frame.mono .f32 16000 (by decide) 3 [⟨0⟩]
    let t : Target := ⟨frame.stream, frame.timeBase, {}, ""⟩
    let cue : Cue := ⟨"a", ⟨0⟩, ⟨1⟩⟩
    let q : Queue := ⟨[⟨0, frame⟩], 3⟩
    let u : Utterance := ⟨frame.stream, frame.timeBase, ⟨0⟩, [frame, other], .finished⟩
    let fault := DecodeError.fit (.inputFormat 48000 1 16000 1)
    let mute : Utterance := ⟨⟨0, 1, frame.stream.format⟩, frame.timeBase, ⟨0⟩, [], .finished⟩
    u.BreaksAfter [frame] fault ∧
    (∃ (report : Report) (made : List Frame), report.samples = 3 ∧ report.fault = none ∧
      t.enqueue 1 cue (u.endingAfter [frame]) q =
        (.ok report, ⟨q.frames ++ made.map (⟨1, ·⟩), 6⟩) ∧
      t.enqueue 1 cue u q =
        (.ok { report with fault := some fault }, ⟨q.frames ++ made.map (⟨1, ·⟩), 6⟩)) ∧
    (t.enqueue 1 cue mute q).1 = .error (.fit .zeroRate) ∧ (t.enqueue 1 cue mute q).2 = q := by
  intro frame other t cue q u fault mute
  have admits : ∀ x ∈ [frame], u.Admits x := by
    intro x mem
    cases List.mem_singleton.mp mem
    exact ⟨rfl, rfl⟩
  have refused : ¬ u.Admits other := fun same => absurd same.1 (by decide)
  have breaks : u.BreaksAfter [frame] fault := .format admits rfl refused
  have samples : ((t.enqueue 1 cue (u.endingAfter [frame]) q).1.map Report.samples).toOption =
      some 3 := by
    decide +kernel
  have speed : 0 < t.speeds.fitting mute.duration.toFloat cue.duration.toFloat := by
    decide +kernel
  have zeroRate : (t.enqueue 1 cue mute q).1 = .error (.fit .zeroRate) := by
    rw [enqueue, Speed.check]
    dsimp only
    rw [if_pos speed]
    rfl
  obtain ⟨told, -, -⟩ := queues_up_to_break t 1 cue (u.endingAfter [frame]) q
  obtain ⟨-, broken, -⟩ := queues_up_to_break t 1 cue u q
  obtain ⟨-, -, failed⟩ := queues_up_to_break t 1 cue mute q
  obtain ⟨same, clean⟩ := broken [frame] fault breaks
  refine ⟨breaks, ?_, zeroRate, failed _ zeroRate nofun nofun⟩
  generalize t.enqueue 1 cue (u.endingAfter [frame]) q = ended at *
  obtain ⟨result, queue⟩ := ended
  cases result with
  | error e => cases samples
  | ok report =>
    obtain ⟨made, queued, -, -⟩ := told report rfl
    have three : report.samples = 3 := Option.some.inj samples
    rw [three] at queued
    cases queued
    exact ⟨report, made, three, clean report rfl, rfl, same⟩

end Target

end Overdub
