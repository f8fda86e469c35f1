import Overdub.Proofs.Dubbing.Reach

/-!
No speech is lost and none is mixed twice. What was mixed and what is left of the queue add up to
what was queued for good, also over calls that fail.
-/

namespace Overdub

namespace Pipeline

variable {p q : Pipeline} {h k : History}

theorem Sound.conserves (sound : p.Sound h) :
    p.ledger.totals.mixed + (p.queue.samples - p.mixer.offset) =
      (h.spoken.map Spoken.samples).sum := by
  have voices := congrArg List.length sound.voices
  rw [List.length_append, Mixer.pendingVoices, List.length_drop, Queue.length_voices,
    List.length_flatMap] at voices
  rw [sound.mixed, sound.counted, voices]
  congr 2
  funext s
  exact List.length_replicate

theorem Sound.offset_le (sound : p.Sound h) : p.mixer.offset ≤ p.queue.samples := by
  rw [sound.counted]
  exact sound.within.le_count

theorem Sound.nothing_left (sound : p.Sound h) {s : Spoken} (mem : s ∈ h.spoken)
    (none : s.report? = none) : s.cue ∉ h.heard ∧ ∀ f ∈ p.queue.frames, f.cue ≠ s.cue := by
  have count := sound.count_eq mem
  rw [Spoken.samples, none] at count
  obtain ⟨unheard, gone⟩ := Nat.add_eq_zero_iff.mp count
  rw [List.count_eq_zero] at unheard gone
  rw [sound.mem_pending] at gone
  exact ⟨unheard, fun f queued same => gone (same ▸ List.mem_map_of_mem queued)⟩

theorem Sound.speakAll_adds (sound : p.Sound h) (speaker : Speaker) (cues : List Cue) :
    (p.speakAll speaker cues).2.2.mixer = p.mixer ∧
    (p.speakAll speaker cues).2.2.ledger.totals.mixed = p.ledger.totals.mixed ∧
    p.queue.frames <+: (p.speakAll speaker cues).2.2.queue.frames := by
  induction cues generalizing p h with
  | nil => exact ⟨rfl, rfl, List.prefix_rfl⟩
  | cons cue cues ih =>
    obtain ⟨made, spoke⟩ := exists_spoke sound.tallied sound.counted sound.below speaker cue
    have next := sound.spoke spoke
    have adds : p.queue.frames <+: _ := ⟨_, spoke.frames_eq.symm⟩
    have mixer := spoke.mixer_eq
    have mixed := spoke.moves.mixed_eq
    rw [Pipeline.speakAll]
    generalize p.speak speaker cue = r at next adds mixer mixed
    obtain ⟨_ | e, q⟩ := r
    · obtain ⟨same, still, more⟩ := ih next
      exact ⟨same.trans mixer, still.trans mixed, adds.trans more⟩
    · exact ⟨mixer, mixed, adds⟩

theorem Sound.advance_error (sound : p.Sound h) {speaker : Speaker} {cues : List Cue}
    {frame : Frame} {e : PipelineError} {left : List Cue}
    (fault : p.advance speaker cues frame = (.error e, left, q)) :
    q = (p.speakAll speaker cues).2.2 := by
  have spoken := sound.speakAll speaker cues
  unfold Pipeline.advance at fault
  generalize p.speakAll speaker cues = r at spoken fault
  obtain ⟨_ | e', left', q'⟩ := r
  · dsimp only at spoken fault ⊢
    by_cases hf : frame.Fits q'.target.stream.format q'.target.stream.channels
    · obtain ⟨out, r, ok, _⟩ := mix_of_fits spoken hf
      rw [ok] at fault
      cases fault
    · rw [(mix_of_not_fits spoken hf).1] at fault
      cases fault
      rfl
  · cases fault
    rfl

/-- What was mixed and what is pending add up to what was queued by the cues that did not fail; the
others leave nothing behind. A call that fails mixes nothing and keeps all that is queued. -/
theorem conserves_speech {target : Target} {gains : Gains} {track : Subtitle.Track}
    {p₀ : Pipeline} (start : start? target gains track = .ok p₀) (reached : p₀.Reaches {} p h) :
    p.queue.samples = Queue.count p.queue.frames ∧
    p.mixer.offset ≤ p.queue.samples ∧
    p.ledger.totals.mixed + (p.queue.samples - p.mixer.offset) =
      (h.spoken.map Spoken.samples).sum ∧
    (∀ s ∈ h.spoken, s.report? = none →
      s.cue ∉ h.heard ∧ ∀ f ∈ p.queue.frames, f.cue ≠ s.cue) ∧
    ∀ speaker cues,
      let q := (p.speakAll speaker cues).2.2
      (∀ n, let rest := q.queue.popMany n
        rest.samples = Queue.count rest.frames ∧
        ∀ f ∈ rest.front?, f.frame.length ≤ rest.samples) ∧
      ∀ frame e left r, p.advance speaker cues frame = (.error e, left, r) →
        r.mixer = p.mixer ∧ r.ledger.totals.mixed = p.ledger.totals.mixed ∧
        p.queue.frames <+: r.queue.frames ∧
        r.queue.samples =
          p.queue.samples + ((p.spokenBy speaker cues).map Spoken.samples).sum := by
  have sound := reached.sound (.start start)
  refine ⟨sound.counted, sound.offset_le, sound.conserves, fun s mem => sound.nothing_left mem, ?_⟩
  intro speaker cues
  have spoken := sound.speakAll speaker cues
  refine ⟨?_, ?_⟩
  · intro n
    have counted := spoken.counted.popMany n
    exact ⟨counted, fun f front => counted.length_front_le front⟩
  · intro frame e left r fault
    obtain ⟨mixer, mixed, adds⟩ := sound.speakAll_adds speaker cues
    rw [sound.advance_error fault]
    refine ⟨mixer, mixed, adds, ?_⟩
    have before := sound.conserves
    have after := spoken.conserves
    have offset := sound.offset_le
    have offset' := spoken.offset_le
    rw [List.map_append, List.sum_append, ← before, mixed, mixer] at after
    rw [mixer] at offset'
    omega

theorem conserves_speech_three_samples :
    let frame := Frame.mono .f32 48000 (by decide) 0 [⟨0⟩, ⟨0⟩]
    let p := ((single frame).process (.steady 3 ⟨0⟩) frame).2
    start? (single frame).target {} (single frame).track = .ok (single frame) ∧
    p.ledger.totals.mixed = 2 ∧ p.queue.samples - p.mixer.offset = 1 := by
  intro frame p
  have start : start? (single frame).target {} (single frame).track = .ok (single frame) := rfl
  have reached := (Reaches.here (p := single frame) (h := {})).process (.steady 3 ⟨0⟩) frame
  obtain ⟨_, _, whole, _⟩ := conserves_speech start reached
  have mixed : p.ledger.totals.mixed = 2 := by decide +kernel
  change p.ledger.totals.mixed + (p.queue.samples - p.mixer.offset) = _ at whole
  rw [mixed] at whole
  exact ⟨start, mixed, Nat.add_left_cancel (whole.trans (by decide +kernel))⟩

end Pipeline

end Overdub
