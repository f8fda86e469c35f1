import Overdub.Proofs.Playback.Mix
import Overdub.Proofs.Speech.Pieces

/-!
The speech of one cue at the front of a queue. Cues stand in order, so it lies before all other
speech; a pass lays its head first and uses it up before it comes to another cue. On a clock of
samples the frames of a cue meet, so what is left of it is never later than what was laid.
-/

namespace Overdub

theorem Frame.pts_le_of_meets {before after : List Frame} {x y : Frame} {s t : Int}
    (meets : (before ++ y :: after).IsChain Meets) (front : x ∈ (before ++ y :: after).head?)
    (hs : s ∈ x.pts) (ht : t ∈ y.pts) : t ≤ s + (before.map Frame.length).sum := by
  induction before generalizing x s with
  | nil =>
    cases front
    cases hs.symm.trans ht
    simp
  | cons x' before ih =>
    cases front
    obtain ⟨z, second⟩ : ∃ z, z ∈ (before ++ y :: after).head? := by
      cases before <;> exact ⟨_, rfl⟩
    have step : x'.Meets z ∧ (before ++ y :: after).IsChain Meets := by
      rw [List.cons_append] at meets
      exact ⟨List.isChain_cons.mp meets |>.1 z second, List.isChain_cons.mp meets |>.2⟩
    obtain ⟨⟨s', hs', u, hu, later⟩, rest⟩ := step
    cases hs.symm.trans hs'
    have := ih rest second hu
    rw [List.map_cons, List.sum_cons, Nat.cast_add]
    omega

theorem Frame.audio_cons (fmt : Format) (c : Nat) (x : Frame) (xs : List Frame) :
    audio fmt c (x :: xs) = audio fmt c [x] ++ audio fmt c xs := by
  simp [audio]

theorem Frame.length_audio {x : Frame} {fmt : Format} {c : Nat} (h : x.Fits fmt c) :
    (audio fmt c [x]).length = x.length := by
  obtain ⟨s, e⟩ := exists_slicesAs? h
  rw [audio, List.flatMap_singleton, e]
  exact length_of_slicesAs? e

namespace Queue

def own (x : CueId) (frames : List QueuedFrame) : List QueuedFrame := frames.filter (·.cue = x)

@[simp] theorem own_append (x : CueId) (fs gs : List QueuedFrame) :
    own x (fs ++ gs) = own x fs ++ own x gs := List.filter_append ..

theorem own_eq_nil {x : CueId} {frames : List QueuedFrame} (h : ∀ f ∈ frames, f.cue ≠ x) :
    own x frames = [] := by
  simpa [own] using h

theorem own_eq_self {x : CueId} {frames : List QueuedFrame} (h : ∀ f ∈ frames, f.cue = x) :
    own x frames = frames := by
  simpa [own] using h

theorem exists_own_append_of_le {x : CueId} {frames : List QueuedFrame}
    (least : ∀ g ∈ frames, x ≤ g.cue) (sorted : (frames.map (·.cue)).Pairwise (· ≤ ·)) :
    ∃ others, frames = own x frames ++ others ∧ ∀ g ∈ others, g.cue ≠ x := by
  induction frames with
  | nil => exact ⟨[], rfl, nofun⟩
  | cons g frames ih =>
    obtain ⟨first, sorted⟩ := List.pairwise_cons.mp sorted
    by_cases same : g.cue = x
    · obtain ⟨others, e, different⟩ := ih (fun h mem => least h (List.mem_cons_of_mem _ mem)) sorted
      refine ⟨others, ?_, different⟩
      rw [own, List.filter_cons_of_pos (by simpa using same), List.cons_append]
      exact congrArg _ e
    · -- From the first frame of another cue on there is no frame of `x`.
      have later : ∀ h ∈ g :: frames, h.cue ≠ x := by
        intro h mem
        have above := Nat.lt_of_le_of_ne (least g List.mem_cons_self) (Ne.symm same)
        rcases List.mem_cons.mp mem with rfl | mem
        · exact same
        · exact Nat.ne_of_gt (Nat.lt_of_lt_of_le above (first h.cue (List.mem_map_of_mem mem)))
      exact ⟨g :: frames, by rw [own_eq_nil later]; rfl, later⟩

theorem exists_own_append {f : QueuedFrame} {frames : List QueuedFrame} (front : f ∈ frames.head?)
    (sorted : (frames.map (·.cue)).Pairwise (· ≤ ·)) :
    ∃ others, frames = own f.cue frames ++ others ∧ ∀ g ∈ others, g.cue ≠ f.cue := by
  obtain ⟨frames, rfl⟩ := List.head?_eq_some_iff.mp front
  refine exists_own_append_of_le ?_ sorted
  intro g mem
  rcases List.mem_cons.mp mem with rfl | mem
  · exact Nat.le_refl _
  · exact (List.pairwise_cons.mp sorted).1 g.cue (List.mem_map_of_mem mem)

theorem drop_speech_append {fmt : Format} {c : Nat} {used : List QueuedFrame}
    (fits : ∀ f ∈ used, f.frame.Fits fmt c) (left : List QueuedFrame) (n : Nat) :
    (speech fmt c (used ++ left)).drop (count used + n) = (speech fmt c left).drop n := by
  rw [speech_append, ← length_speech fits, List.drop_append,
    List.drop_eq_nil_of_le (Nat.le_add_right _ _), Nat.add_sub_cancel_left, List.nil_append]

theorem pts_le_of_meets {used left : List QueuedFrame} {f g : QueuedFrame} {s t : Int}
    (meets : ((used ++ g :: left).map (·.frame)).IsChain Frame.Meets)
    (front : f ∈ (used ++ g :: left).head?) (hs : s ∈ f.frame.pts) (ht : t ∈ g.frame.pts) :
    t ≤ s + count used := by
  rw [List.map_append, List.map_cons] at meets
  have front' : f.frame ∈ (used.map (·.frame) ++ g.frame :: left.map (·.frame)).head? := by
    cases used <;> cases front <;> rfl
  have later := Frame.pts_le_of_meets meets front' hs ht
  rw [List.map_map] at later
  exact later

/-- The frames of each cue meet. -/
def Seamless (frames : List QueuedFrame) : Prop :=
  ∀ x, ((own x frames).map (·.frame)).IsChain Frame.Meets

theorem seamless_nil : Seamless [] := fun _ => .nil

theorem Seamless.suffix {fs gs : List QueuedFrame} (h : Seamless gs) (s : fs <:+ gs) :
    Seamless fs := by
  intro x
  obtain ⟨before, rfl⟩ := s
  have := h x
  rw [own_append, List.map_append] at this
  exact this.right_of_append

theorem Seamless.append {frames : List QueuedFrame} (h : Seamless frames) {id : CueId}
    (absent : ∀ f ∈ frames, f.cue ≠ id) {made : List Frame} (meets : made.IsChain Frame.Meets) :
    Seamless (frames ++ made.map (⟨id, ·⟩)) := by
  intro x
  rw [own_append]
  by_cases same : id = x
  · subst same
    have all : ∀ f ∈ made.map (QueuedFrame.mk id), f.cue = id := by simp
    rw [own_eq_nil absent, own_eq_self all, List.nil_append, List.map_map]
    simpa [Function.comp_def] using meets
  · have none : ∀ f ∈ made.map (QueuedFrame.mk id), f.cue ≠ x := by simpa using fun _ _ => same
    rw [own_eq_nil none, List.append_nil]
    exact h x

end Queue

theorem zipWith_append_left {α β γ : Type} (f : α → β → γ) (xs ys : List α) (s : List β) :
    (xs ++ ys).zipWith f s = xs.zipWith f s ++ ys.zipWith f (s.drop xs.length) := by
  rw [List.zipWith_comm, zipWith_append_right]
  congr 1 <;> exact List.zipWith_comm

namespace Mixer

variable {m n : Mixer} {frame : Frame} {q r : Queue} {o : Outcome}
  {slices : List (Slice frame.stream.format.kind frame.stream.channels)}

theorem Laid.take_slices (h : Laid m frame q o slices n r)
    {rest more : List (Slice frame.stream.format.kind frame.stream.channels)}
    (split : m.pendingFor q frame = rest ++ more) :
    slices.take rest.length = frame.slices.zipWith (Slice.mix m.gains) rest := by
  have mixed := h.mixed_eq
  change o.mixed = min frame.slices.length _ at mixed
  rw [h.slices_eq, split, zipWith_append_right, List.append_assoc]
  rw [split, List.length_append] at mixed
  rcases Nat.le_total rest.length frame.slices.length with more | few
  · rw [List.take_left' (by rw [List.length_zipWith]; omega)]
  · -- The frame is covered by `rest` alone.
    have none : frame.slices.drop rest.length = [] := List.drop_eq_nil_of_le few
    have none' : frame.slices.drop o.mixed = [] := List.drop_eq_nil_of_le (by omega)
    rw [none, none', List.zipWith_nil_left, List.append_nil, List.append_nil, List.take_of_length_le]
    rw [List.length_zipWith]
    exact Nat.min_le_right _ _

theorem Laid.exists_left (h : Laid m frame q o slices n r)
    (fits : ∀ f ∈ q.frames, f.frame.Fits frame.stream.format frame.stream.channels)
    {own others : List QueuedFrame} (split : q.frames = own ++ others)
    (longer : m.offset + frame.length < Queue.count own) :
    ∃ used left, own = used ++ left ∧ r.frames = left ++ others ∧ left ≠ [] ∧
      Queue.count used + n.offset = m.offset + frame.length := by
  obtain ⟨used, halves, _⟩ := h.exists_retired
  have rest := congrArg List.length h.pending_eq
  have mixed := h.mixed_eq
  have fits' : ∀ f ∈ r.frames, f.frame.Fits frame.stream.format frame.stream.channels :=
    fun f mem => fits f (halves ▸ List.mem_append_right _ mem)
  unfold pendingFor at rest mixed
  rw [List.length_drop, List.length_drop, List.length_drop, Queue.length_speech fits,
    Queue.length_speech fits'] at rest
  rw [List.length_drop, Queue.length_speech fits] at mixed
  have whole := congrArg Queue.count split
  have whole' := congrArg Queue.count halves
  rw [Queue.count_append] at whole whole'
  have count : Queue.count used + n.offset = m.offset + frame.length := by omega
  rcases List.append_eq_append_iff.mp (halves.symm.trans split) with ⟨left, e, e'⟩ | ⟨extra, e, e'⟩
  · refine ⟨used, left, e, e', ?_, count⟩
    rintro rfl
    rw [e, List.append_nil] at longer
    omega
  · rw [e, Queue.count_append] at count
    omega

end Mixer

end Overdub
