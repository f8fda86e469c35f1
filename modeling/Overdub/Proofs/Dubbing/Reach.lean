import Overdub.Proofs.Dubbing.Sound

/-!
Every call keeps the invariant, whether it gives a frame back or not, and no cue goes back to a
state it has left.
-/

namespace Overdub

/-- What the mixer tells of cue `x` takes it to where it stands afterwards. -/
theorem stage_spent {heard taken used left : List CueId} {x : CueId}
    (h : x ∈ used ++ left ↔ x ∈ taken ++ left) :
    (if x ∈ used ∧ x ∉ left then .retired
      else if x ∈ taken ∧ stage heard (used ++ left) x = .queued then .mixing
      else stage heard (used ++ left) x) = stage (heard ++ taken) left x := by
  simp only [List.mem_append] at h
  by_cases l : x ∈ left
  · by_cases t : x ∈ taken <;> by_cases e : x ∈ heard <;> simp [stage, l, t, e]
  · -- Nothing of `x` is left, so it was used up just if some of it was heard in this call.
    by_cases u : x ∈ used
    · have t : x ∈ taken := (h.mp (.inl u)).resolve_right l
      simp [stage, l, u, t]
    · have t : x ∉ taken := fun mem => (h.mpr (.inl mem)).elim u l
      simp [stage, l, u, t]

theorem Ledger.Tallied.outcome {l : Ledger} (h : l.Tallied) {o : Mixer.Outcome}
    (nodup : o.retired.Nodup)
    (live : ∀ x ∈ o.retired, l.state x = .queued ∨ l.state x = .mixing) :
    Moves l 0
      (fun x => if x ∈ o.retired then .retired
        else if x ∈ o.touched ∧ l.state x = .queued then .mixing else l.state x)
      (o.retired.foldl Ledger.retire (o.touched.foldl Ledger.touch l)) := by
  have touched := h.touchAll o.touched
  have retired := touched.tallied.retireAll nodup fun x mem => by
    rw [touched.state_eq]
    split
    · exact .inr rfl
    · exact live x mem
  apply (touched.trans retired).congr
  intro x
  rw [touched.state_eq]

namespace Pipeline

variable {p q : Pipeline} {h k : History}

theorem Sound.live (sound : p.Sound h) {x : CueId} (mem : x ∈ p.queue.frames.map (·.cue)) :
    p.ledger.state x = .queued ∨ p.ledger.state x = .mixing := by
  obtain ⟨f, queued, rfl⟩ := List.mem_map.mp mem
  rw [sound.state _ (sound.below f queued), stage, if_pos mem]
  split
  · exact .inr rfl
  · exact .inl rfl

theorem Sound.spent (sound : p.Sound h) {o : Mixer.Outcome} {n : Mixer} {r : Queue}
    (spent : Mixer.Spent p.mixer p.queue o n r) (position : Nat) :
    { p with
      mixer := n, queue := r, position
      ledger := { note p.ledger o with
        totals.frames := (note p.ledger o).totals.frames + 1 } }.Sound
      { h with heard := h.heard ++ (p.mixer.pendingVoices p.queue).take o.mixed } := by
  obtain ⟨used, split, retired⟩ := spent.exists_retired
  have cues : p.queue.frames.map (·.cue) = used.map (·.cue) ++ r.frames.map (·.cue) := by
    rw [split, List.map_append]
  have kept : ∀ f ∈ r.frames, f ∈ p.queue.frames := fun f mem => split ▸ List.mem_append_right _ mem
  have sorted := sound.sorted
  rw [cues] at sorted
  have grouped := Mixer.grouped_of_sorted sorted
  -- Cues are queued in order, so a cue that ends within `used` has no frame in `r`.
  have gone : ∀ x, x ∈ o.retired ↔ x ∈ used.map (·.cue) ∧ x ∉ r.frames.map (·.cue) := by
    intro x
    rw [retired, Mixer.mem_ends grouped]
  have moves := sound.tallied.outcome (retired ▸ Mixer.nodup_ends grouped) fun x mem =>
    sound.live (cues ▸ List.mem_append_left _ ((gone x).mp mem).1)
  have taken : ((p.mixer.pendingVoices p.queue).take o.mixed).length = o.mixed := by
    rw [List.length_take, Nat.min_eq_left spent.mixed_le]
  have voices : (p.mixer.pendingVoices p.queue).take o.mixed ++ n.pendingVoices r =
      p.mixer.pendingVoices p.queue := by
    rw [spent.voices_eq, List.take_append_drop]
  have makes : ∀ f ∈ r.frames, p.target.Makes f.frame := fun f mem => sound.makes f (kept f mem)
  exact {
    tallied := moves.tallied.withTotals rfl rfl rfl
    counted := spent.counted sound.counted
    makes
    stream_eq := spent.stream_eq.trans sound.stream_eq
    within := spent.within
    sorted := (List.pairwise_append.mp sorted).2.1
    below := by
      intro f mem
      apply Nat.lt_of_lt_of_eq (sound.below f (kept f mem))
      exact moves.nextId_eq.symm
    voices := by
      rw [List.append_assoc]
      change h.heard ++ (_ ++ n.pendingVoices r) = _
      rw [voices, sound.voices]
    cues := by
      refine sound.cues.trans (congrArg List.range ?_)
      exact moves.nextId_eq.symm
    spoken_pos := sound.spoken_pos
    mixed := by
      rw [List.length_append, taken, ← sound.mixed, ← moves.mixed_eq]
      rfl
    state := by
      intro x hx
      replace hx : x < p.ledger.nextId := Nat.lt_of_lt_of_eq hx moves.nextId_eq
      apply (moves.state_eq x).trans
      have left : x ∈ n.pendingVoices r ↔ _ :=
        Queue.mem_voices_drop (fun f mem => (makes f mem).length_pos) spent.within x
      have whole := sound.mem_pending x
      rw [← voices, cues, List.mem_append, left, ← List.mem_append] at whole
      simp only [gone, spent.touched_eq, Mixer.mem_runs_none, sound.state x hx, cues]
      exact stage_spent whole.symm }

theorem Sound.speak (sound : p.Sound h) (speaker : Speaker) (cue : Cue) :
    (p.speak speaker cue).2.Sound
      { h with spoken := h.spoken ++ [⟨p.ledger.nextId, p.resultOf speaker cue⟩] } := by
  obtain ⟨made, spoke⟩ := exists_spoke sound.tallied sound.counted sound.below speaker cue
  exact sound.spoke spoke

theorem Sound.speakAll (sound : p.Sound h) (speaker : Speaker) (cues : List Cue) :
    (p.speakAll speaker cues).2.2.Sound
      { h with spoken := h.spoken ++ p.spokenBy speaker cues } := by
  induction cues generalizing p h with
  | nil =>
    rw [spokenBy, List.append_nil]
    exact sound
  | cons cue cues ih =>
    have one := sound.speak speaker cue
    rw [Pipeline.speakAll, spokenBy]
    generalize p.speak speaker cue = r at one
    obtain ⟨fault, q⟩ := r
    cases fault with
    | some e => exact one
    | none =>
      have rest := ih one
      rwa [List.append_assoc] at rest

theorem Sound.fits (sound : p.Sound h) : ∀ f ∈ p.queue.frames,
    f.frame.Fits p.mixer.stream.format p.mixer.stream.channels := by
  intro f mem
  rw [sound.stream_eq, Frame.Fits, (sound.makes f mem).stream_eq]
  exact ⟨rfl, rfl⟩

theorem mix_of_not_fits (sound : p.Sound h) {frame : Frame}
    (hf : ¬ frame.Fits p.target.stream.format p.target.stream.channels) :
    p.mix frame = (.error (.mix (.primaryFormat p.target.stream.format p.target.stream.channels
      frame.format frame.channels)), p) ∧ p.heardIn frame = [] := by
  rw [← sound.stream_eq] at hf ⊢
  have e := Mixer.mix_of_not_fits hf (p.startOf frame) p.queue
  unfold mix heardIn
  rw [e]
  exact ⟨rfl, rfl⟩

theorem mix_of_fits (sound : p.Sound h) {frame : Frame}
    (hf : frame.Fits p.target.stream.format p.target.stream.channels) :
    ∃ out q, p.mix frame = (.ok out, q) ∧
      q.Sound { h with heard := h.heard ++ p.heardIn frame } := by
  rw [← sound.stream_eq] at hf
  obtain ⟨o, slices, n, r, e, spent⟩ :=
    Mixer.mix_of_fits hf sound.fits sound.within (p.startOf frame)
  have heard : p.heardIn frame = (p.mixer.pendingVoices p.queue).take o.mixed := by
    rw [heardIn, e]
  rw [heard]
  refine ⟨{ frame with slices }, _, ?_, sound.spent spent (p.position + slices.length)⟩
  unfold mix
  rw [e]
  rfl

theorem Sound.mix (sound : p.Sound h) (frame : Frame) :
    (p.mix frame).2.Sound { h with heard := h.heard ++ p.heardIn frame } := by
  by_cases hf : frame.Fits p.target.stream.format p.target.stream.channels
  · obtain ⟨out, q, e, next⟩ := mix_of_fits sound hf
    rw [e]
    exact next
  · obtain ⟨e, none⟩ := mix_of_not_fits sound hf
    rw [e, none, List.append_nil]
    exact sound

theorem Sound.advance (sound : p.Sound h) (speaker : Speaker) (cues : List Cue) (frame : Frame) :
    (p.advance speaker cues frame).2.2.Sound (h.after p speaker cues frame) := by
  have spoken := sound.speakAll speaker cues
  unfold Pipeline.advance History.after
  generalize p.speakAll speaker cues = r at spoken
  obtain ⟨fault, left, q⟩ := r
  cases fault with
  | some e =>
    dsimp only
    rw [List.append_nil]
    exact spoken
  | none => exact spoken.mix frame

theorem Sound.withTrack (sound : p.Sound h) (track : Subtitle.Track) : { p with track }.Sound h :=
  ⟨sound.tallied, sound.counted, sound.makes, sound.stream_eq, sound.within, sound.sorted,
    sound.below, sound.voices, sound.cues, sound.spoken_pos, sound.mixed, sound.state⟩

theorem Reaches.sound (r : p.Reaches h q k) (sound : p.Sound h) : q.Sound k := by
  induction r with
  | here => exact sound
  | call speaker cues frame track _ ih => exact (ih.advance speaker cues frame).withTrack track

end Pipeline

end Overdub
