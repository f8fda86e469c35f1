import Overdub.Dubbing.Generation
import Overdub.Proofs.Playback.Mix
import Overdub.Proofs.Speech.Pieces

/-!
What generating a cue does to the queue. Frames are only added, all of the stream and clock of the
target, none empty and none without a start, and the report counts them. On a clock of samples there
are no gaps between them.
-/

namespace Overdub

structure Target.Makes (t : Target) (x : Frame) : Prop where
  stream_eq : x.stream = t.stream
  timeBase_eq : x.timeBase = t.timeBase
  length_pos : 0 < x.length
  pts_isSome : x.pts.isSome

/-- The clock ticks once for each sample. -/
def Target.Sampled (t : Target) : Prop :=
  ∃ rate_ne : t.stream.rate ≠ 0, t.timeBase = .perSample t.stream.rate rate_ne

namespace Fitter

structure Grounded (f : Fitter) (t : Target) : Prop where
  target_eq : f.target = t.stream
  timeBase_eq : f.timeBase = t.timeBase
  origin_isSome : f.origin.isSome

variable {f : Fitter} {t : Target}

theorem Grounded.emit (h : f.Grounded t) {samples : List Float32} {out : Option Frame} {g : Fitter}
    (e : f.emit samples = .ok (out, g)) : (∀ y ∈ out, t.Makes y) ∧ g.Grounded t := by
  replace e := (bounded_eq_ok_iff.mp e).1
  unfold stamp at e
  split at e
  · cases e
    refine ⟨?_, h⟩
    intro y mem
    cases mem
  · next some =>
    cases e
    refine ⟨?_, h.target_eq, h.timeBase_eq, h.origin_isSome⟩
    intro y mem
    cases mem
    refine ⟨h.target_eq, h.timeBase_eq, ?_, ?_⟩
    · change 0 < (samples.map _).length
      rw [List.length_map]
      exact List.length_pos_iff.mpr fun nil => some (List.isEmpty_iff.mpr nil)
    · rw [Option.isSome_map]
      exact h.origin_isSome

theorem exists_flush_eq (f : Fitter) : ∃ g samples, f.flush = emit g samples ∧
    g.target = f.target ∧ g.timeBase = f.timeBase ∧ g.origin = f.origin :=
  ⟨_, _, rfl, rfl, rfl, rfl⟩

theorem exists_push_eq {x : Frame} {p : Option Frame × Fitter} (h : f.push x = .ok p) :
    ∃ g samples, emit g samples = .ok p ∧ g.target = f.target ∧ g.timeBase = f.timeBase ∧
      g.origin = (f.origin <|> x.pts.map (x.timeBase.rescale · f.timeBase)) := by
  unfold push at h
  split at h
  · exact ⟨_, _, h, rfl, rfl, rfl⟩
  · cases h

theorem Grounded.flush (h : f.Grounded t) {out : Option Frame} {g : Fitter}
    (e : f.flush = .ok (out, g)) : ∀ y ∈ out, t.Makes y := by
  obtain ⟨f', samples, same, target, timeBase, origin⟩ := exists_flush_eq f
  have grounded : f'.Grounded t :=
    ⟨target.trans h.target_eq, timeBase.trans h.timeBase_eq, origin ▸ h.origin_isSome⟩
  exact (grounded.emit (same.symm.trans e)).1

theorem push_ok {x : Frame} (hs : f.target = t.stream) (ht : f.timeBase = t.timeBase)
    (hx : x.pts.isSome) {out : Option Frame} {g : Fitter} (h : f.push x = .ok (out, g)) :
    (∀ y ∈ out, t.Makes y) ∧ g.Grounded t := by
  obtain ⟨g', samples, e, target, timeBase, origin⟩ := exists_push_eq h
  refine Grounded.emit ⟨target.trans hs, timeBase.trans ht, ?_⟩ e
  obtain ⟨pts, start⟩ := Option.isSome_iff_exists.mp hx
  rw [origin, start]
  cases f.origin <;> rfl

theorem pushAll_makes (hs : f.target = t.stream) (ht : f.timeBase = t.timeBase) (offset : Int)
    (position : Nat) (xs : List Frame) {out : List Frame} {fault : Option FitError} {g : Fitter}
    (h : f.pushAll offset position xs = (out, fault, g)) :
    (∀ y ∈ out, t.Makes y) ∧ (g.Grounded t ∨ out = [] ∧ g = f) := by
  induction xs generalizing f position out fault g with
  | nil =>
    cases h
    exact ⟨nofun, .inr ⟨rfl, rfl⟩⟩
  | cons x xs ih =>
    rw [pushAll] at h
    dsimp only at h
    split at h
    · cases h
      exact ⟨nofun, .inr ⟨rfl, rfl⟩⟩
    · next head f' pushed =>
      cases h
      -- From the first frame on the fitter has an origin, so `ih` may be used with what it became.
      obtain ⟨made, grounded⟩ := push_ok (t := t) hs ht rfl pushed
      obtain ⟨rest, last⟩ := ih grounded.target_eq grounded.timeBase_eq _ rfl
      refine ⟨?_, ?_⟩
      · intro y mem
        rcases List.mem_append.mp mem with mem | mem
        · exact made y (Option.mem_toList.mp mem)
        · exact rest y mem
      · rcases last with last | ⟨_, same⟩
        · exact .inl last
        · rw [same]
          exact .inl grounded

theorem exists_gives_of_pushAll {offset : Int} {position : Nat} {xs : List Frame}
    {out : List Frame} {fault : Option FitError} {g : Fitter}
    (h : f.pushAll offset position xs = (out, fault, g)) : ∃ samples, Gives f out samples g := by
  induction xs generalizing f position out fault g with
  | nil =>
    cases h
    exact ⟨[], .nothing f⟩
  | cons x xs ih =>
    rw [pushAll] at h
    dsimp only at h
    split at h
    · cases h
      exact ⟨[], .nothing f⟩
    · next head f' pushed =>
      cases h
      obtain ⟨_, first⟩ := exists_gives_of_push pushed
      obtain ⟨_, rest⟩ := ih rfl
      exact ⟨_, (Gives.of_eq (f := f) first rfl rfl rfl rfl (f.mem_origin_anchor _)).trans rest⟩

theorem isSome_origin_anchor (f : Fitter) {x : Frame} (h : x.pts.isSome) :
    (f.anchor x).origin.isSome := by
  obtain ⟨pts, stamp⟩ := Option.isSome_iff_exists.mp h
  rw [anchor, stamp]
  cases f.origin <;> rfl

theorem pushAll_gives {offset : Int} {position : Nat} {xs : List Frame} {out : List Frame}
    {fault : Option FitError} {g : Fitter} (h : f.pushAll offset position xs = (out, fault, g)) :
    out = [] ∧ g = f ∨ ∃ x ∈ xs.head?, ∃ samples,
      let start := x.pts.getD (min position Ticks.most)
      Gives (f.anchor (x.withPts (some (Ticks.clamp (start + offset))))) out samples g := by
  cases xs with
  | nil =>
    cases h
    exact .inl ⟨rfl, rfl⟩
  | cons x xs =>
    rw [pushAll] at h
    dsimp only at h
    split at h
    · cases h
      exact .inl ⟨rfl, rfl⟩
    · next head f' pushed =>
      cases h
      obtain ⟨_, first⟩ := exists_gives_of_push pushed
      obtain ⟨_, rest⟩ := exists_gives_of_pushAll (f := f') rfl
      exact .inr ⟨x, rfl, _, first.trans rest⟩

theorem pushAll_overflow {o : Int} (known : o ∈ f.origin) {offset : Int} {position : Nat}
    {xs : List Frame} (h : (f.pushAll offset position xs).2.1 = some .overflow) :
    ¬ Ticks.Valid (f.timeAt o
      (f.emitted + ((f.pushAll offset position xs).1.map Frame.length).sum)) := by
  induction xs generalizing f position with
  | nil => cases h
  | cons x xs ih =>
    rw [pushAll] at h ⊢
    dsimp only at h ⊢
    cases pushed : f.push _ with
    | error e =>
      rw [pushed] at h
      cases h
      obtain ⟨o', origin, large⟩ := exists_of_push_overflow pushed
      cases Option.mem_unique origin (f.mem_origin_anchor _ o known)
      exact large
    | ok r =>
      rw [pushed] at h
      obtain ⟨samples, first⟩ := exists_gives_of_push pushed
      have later := ih (first.origin o (f.mem_origin_anchor _ o known)) h
      rw [timeAt_congr first.target_eq first.timeBase_eq, first.emitted_eq] at later
      rw [List.map_append, List.sum_append, first.sum_length, ← Nat.add_assoc]
      exact later

theorem pushAll_anchor (f : Fitter) (offset : Int) (x : Frame) (xs : List Frame) :
    let first := x.withPts (some (Ticks.clamp (x.pts.getD (min (0 : Nat) Ticks.most) + offset)))
    ((f.anchor first).pushAll offset 0 (x :: xs)).1 = (f.pushAll offset 0 (x :: xs)).1 ∧
      ((f.anchor first).pushAll offset 0 (x :: xs)).2.1 = (f.pushAll offset 0 (x :: xs)).2.1 := by
  intro first
  rw [pushAll, pushAll]
  dsimp only
  rw [push_anchor]
  cases f.push first <;> exact ⟨rfl, rfl⟩

section Late

/-- The time of the samples behind `out` is too late, where `xs` are moved by `offset`. -/
def RunsOut (f : Fitter) (offset : Int) (xs out : List Frame) : Prop :=
  ∃ x ∈ xs.head?, ¬ Ticks.Valid (f.timeAt
    (x.timeBase.rescale (Ticks.clamp (x.pts.getD 0 + offset)) f.timeBase)
    (out.map Frame.length).sum)

variable {source target : Stream} {timeBase : TimeBase} {speed : Float} {offset : Int}
  {xs out : List Frame} {g : Fitter}

theorem Fresh.mem_origin_anchor (fresh : f.Fresh source target timeBase speed) (x : Frame)
    (start : Int) :
    x.timeBase.rescale start f.timeBase ∈ (f.anchor (x.withPts (some start))).origin := by
  rw [anchor, fresh.origin_eq]
  rfl

theorem Fresh.pushAll_overflow (fresh : f.Fresh source target timeBase speed)
    (h : f.pushAll offset 0 xs = (out, some .overflow, g)) : f.RunsOut offset xs out := by
  cases xs with
  | nil => cases h
  | cons x xs =>
    obtain ⟨given, stopped⟩ := f.pushAll_anchor offset x xs
    rw [h] at given stopped
    have large := Fitter.pushAll_overflow (fresh.mem_origin_anchor x _) stopped
    change ¬ Ticks.Valid (f.timeAt _ (f.emitted + _)) at large
    rw [given, fresh.emitted_eq, Nat.zero_add] at large
    exact ⟨x, rfl, large⟩

theorem Fresh.flush_error (fresh : f.Fresh source target timeBase speed) {stopped : Option FitError}
    (h : f.pushAll offset 0 xs = (out, stopped, g)) {e : FitError} (flushed : g.flush = .error e) :
    f.RunsOut offset xs out := by
  rcases pushAll_gives h with ⟨rfl, rfl⟩ | ⟨x, front, _, gives⟩
  · obtain ⟨_, nothing⟩ := fresh.idle.flush
    cases nothing.symm.trans flushed
  · obtain ⟨-, o, origin, large⟩ := exists_of_flush_error flushed
    cases Option.mem_unique origin (gives.origin _ (fresh.mem_origin_anchor x _))
    rw [timeAt_congr gives.target_eq gives.timeBase_eq, gives.emitted_eq, ← gives.sum_length] at large
    change ¬ Ticks.Valid (f.timeAt _ (f.emitted + _)) at large
    rw [fresh.emitted_eq, Nat.zero_add] at large
    exact ⟨x, front, large⟩

end Late

end Fitter

namespace Target

theorem frames_cases {f g : Fitter} {offset : Int} {u : Utterance} {out : List Frame}
    {pushed : Option FitError} (h : f.pushAll offset 0 u.frames = (out, pushed, g)) :
    (frames f offset u).1 = out ∨
      ∃ rest last, g.flush = .ok (rest, last) ∧ (frames f offset u).1 = out ++ rest.toList := by
  unfold frames
  rw [h]
  dsimp only
  cases fault pushed u.ending with
  | error e => exact .inl rfl
  | ok fault =>
    cases g.flush with
    | error e => exact .inl rfl
    | ok r => exact .inr ⟨r.1, r.2, rfl, rfl⟩

theorem frames_makes {t : Target} {f : Fitter} (idle : f.Idle) (hs : f.target = t.stream)
    (ht : f.timeBase = t.timeBase) (offset : Int) (u : Utterance) :
    ∀ y ∈ (frames f offset u).1, t.Makes y := by
  cases pushed : f.pushAll offset 0 u.frames with
  | mk out rest =>
    obtain ⟨fault, g⟩ := rest
    obtain ⟨made, last⟩ := Fitter.pushAll_makes hs ht offset 0 u.frames pushed
    rcases frames_cases pushed with whole | ⟨rest, _, flushed, whole⟩
    · rw [whole]
      exact made
    · rw [whole]
      intro y mem
      rcases List.mem_append.mp mem with mem | mem
      · exact made y mem
      · -- A fitter that took nothing in has no origin, but it is idle and flushes nothing.
        rcases last with grounded | ⟨_, rfl⟩
        · exact grounded.flush flushed y (Option.mem_toList.mp mem)
        · obtain ⟨_, nothing⟩ := idle.flush
          cases nothing.symm.trans flushed
          cases mem

theorem frames_gives {f : Fitter} (idle : f.Idle) (offset : Int) (u : Utterance) :
    (frames f offset u).1 = [] ∨ ∃ x ∈ u.frames.head?, ∃ samples g,
      (f.anchor (x.withPts (some (Ticks.clamp (x.pts.getD 0 + offset))))).Gives
        (frames f offset u).1 samples g := by
  cases pushed : f.pushAll offset 0 u.frames with
  | mk out rest =>
    obtain ⟨fault, g⟩ := rest
    rcases Fitter.pushAll_gives pushed with ⟨rfl, rfl⟩ | ⟨x, front, _, gives⟩
    · left
      obtain ⟨_, nothing⟩ := idle.flush
      rcases frames_cases pushed with whole | ⟨rest, _, flushed, whole⟩
      · exact whole
      · cases nothing.symm.trans flushed
        exact whole
    · right
      refine ⟨x, front, ?_⟩
      rcases frames_cases pushed with whole | ⟨rest, _, flushed, whole⟩
      · rw [whole]
        exact ⟨_, _, gives⟩
      · rw [whole]
        obtain ⟨_, last⟩ := g.exists_gives_of_flush flushed
        exact ⟨_, _, gives.trans last⟩

theorem fault_error {pushed : Option FitError} {ending : Ending} {e : GenerationError}
    (h : fault pushed ending = .error e) :
    e = .outOfMemory ∧ ending = .outOfMemory ∨ e = .overflow ∧ pushed = some .overflow := by
  unfold fault at h
  split at h <;> cases h
  · exact .inr ⟨rfl, rfl⟩
  · exact .inl ⟨rfl, rfl⟩

theorem frames_error {source target : Stream} {timeBase : TimeBase} {speed : Float} {f : Fitter}
    (fresh : f.Fresh source target timeBase speed) {offset : Int} {u : Utterance}
    {e : GenerationError} (h : (frames f offset u).2 = .error e) :
    e = .outOfMemory ∧ u.ending = .outOfMemory ∨
    e = .overflow ∧ f.RunsOut offset u.frames (frames f offset u).1 := by
  cases pushed : f.pushAll offset 0 u.frames with
  | mk out rest =>
  obtain ⟨stopped, g⟩ := rest
  unfold frames at h ⊢
  rw [pushed] at h ⊢
  dsimp only at h ⊢
  cases ended : fault stopped u.ending with
  | error e' =>
    rw [ended] at h
    cases h
    refine (fault_error ended).imp id ?_
    rintro ⟨rfl, rfl⟩
    exact ⟨rfl, fresh.pushAll_overflow pushed⟩
  | ok stopped' =>
    rw [ended] at h
    cases flushed : g.flush with
    | ok r =>
      rw [flushed] at h
      cases h
    | error e' =>
      rw [flushed] at h
      cases h
      exact .inr ⟨rfl, fresh.flush_error pushed flushed⟩

theorem frames_meets {f : Fitter} (idle : f.Idle)
    (clock : f.timeBase = .perSample f.target.rate f.rate_ne) (offset : Int) (u : Utterance) :
    (frames f offset u).1.IsChain Frame.Meets := by
  rcases frames_gives idle offset u with nothing | ⟨x, _, _, _, gives⟩
  · rw [nothing]
    exact .nil
  · exact gives.meets clock (f.isSome_origin_anchor rfl)

theorem exists_pts_of_head_frames {source target : Stream} {timeBase : TimeBase} {speed : Float}
    {f : Fitter} (fresh : f.Fresh source target timeBase speed) {offset : Int} {u : Utterance}
    {y : Frame} (made : y ∈ (frames f offset u).1.head?) : ∃ x ∈ u.frames.head?,
      y.pts = some (x.timeBase.rescale (Ticks.clamp (x.pts.getD 0 + offset)) timeBase) := by
  rcases frames_gives fresh.idle offset u with nothing | ⟨x, front, _, _, gives⟩
  · rw [nothing] at made
    cases made
  · refine ⟨x, front, ?_⟩
    obtain ⟨ps, pieces, -, each⟩ := gives.exists_pieces
    have emitted : (f.anchor (x.withPts (some (Ticks.clamp (x.pts.getD 0 + offset))))).emitted = 0 :=
      fresh.emitted_eq
    rw [pieces, emitted] at made
    cases ps with
    | nil => cases made
    | cons p ps =>
      cases made
      rw [Fitter.pts_piece_zero]
      refine (each p List.mem_cons_self).2.1 _ ?_
      rw [Fitter.anchor, fresh.origin_eq, fresh.timeBase_eq]
      rfl

/-- What generating cue `id` came to: the frames that were queued for it, all as the target wants
them, and a report that counts them if there is one. -/
structure Generated (t : Target) (id : CueId) (q : Queue) (made : List Frame)
    (result : Except GenerationError Report) (r : Queue) : Prop where
  makes : ∀ x ∈ made, t.Makes x
  meets : t.Sampled → made.IsChain Frame.Meets
  frames_eq : r.frames = q.frames ++ made.map (⟨id, ·⟩)
  counted : q.Counted → r.Counted
  report_eq : ∀ report, result = .ok report →
    report.frames = made.length ∧ report.samples = (made.map Frame.length).sum

theorem Generated.nothing (t : Target) (id : CueId) (q : Queue) (e : GenerationError) :
    t.Generated id q [] (.error e) q where
  makes := nofun
  meets := fun _ => .nil
  frames_eq := (List.append_nil _).symm
  counted := fun h => h
  report_eq := nofun

theorem push_frames (id : CueId) (made : List Frame) (q : Queue) :
    (made.foldl (fun q x => q.push ⟨id, x⟩) q).frames = q.frames ++ made.map (⟨id, ·⟩) := by
  induction made generalizing q with
  | nil => exact (List.append_nil _).symm
  | cons x made ih =>
    rw [List.foldl_cons, ih, Queue.frames_push, List.append_assoc]
    rfl

theorem push_samples (id : CueId) (made : List Frame) (q : Queue) :
    (made.foldl (fun q x => q.push ⟨id, x⟩) q).samples = q.samples + (made.map Frame.length).sum := by
  induction made generalizing q with
  | nil => rfl
  | cons x made ih =>
    rw [List.foldl_cons, ih, Queue.samples_push, List.map_cons, List.sum_cons, Nat.add_assoc]

theorem push_counted (id : CueId) (made : List Frame) {q : Queue} (h : q.Counted) :
    (made.foldl (fun q x => q.push ⟨id, x⟩) q).Counted := by
  induction made generalizing q with
  | nil => exact h
  | cons x made ih => exact ih (h.push _)

theorem enqueue_generated (t : Target) (id : CueId) (cue : Cue) (u : Utterance) (q : Queue) :
    ∃ made, t.Generated id q made (t.enqueue id cue u q).1 (t.enqueue id cue u q).2 := by
  unfold enqueue
  dsimp only
  split
  · exact ⟨[], .nothing ..⟩
  · split
    · exact ⟨[], .nothing ..⟩
    · next fitter started =>
      obtain ⟨idle, hs, ht⟩ := Fitter.start?_ok started
      have makes := frames_makes (t := t) idle hs ht (u.timeBase.ofDuration cue.start) u
      have meets : t.Sampled →
          (frames fitter (u.timeBase.ofDuration cue.start) u).1.IsChain Frame.Meets := by
        rintro ⟨rate_ne, clock⟩
        apply frames_meets idle
        rw [ht, clock]
        simp only [hs]
      generalize frames fitter _ u = p at makes meets
      refine ⟨p.1, makes, meets, push_frames id p.1 q, push_counted id p.1, ?_⟩
      intro report ok
      dsimp only at ok
      cases hr : p.2 with
      | error e =>
        rw [hr] at ok
        cases ok
      | ok fault =>
        rw [hr] at ok
        cases ok
        exact ⟨rfl, rfl⟩

theorem generate_generated (t : Target) (speak : Speaker) (id : CueId) (cue : Cue) (q : Queue) :
    ∃ made, t.Generated id q made (t.generate speak id cue q).1 (t.generate speak id cue q).2 := by
  unfold generate
  split
  · exact ⟨[], .nothing ..⟩
  · exact enqueue_generated ..

end Target

end Overdub
