import Overdub.Proofs.Dubbing.Renumber
import Overdub.Proofs.Dubbing.Safety

/-!
Pipelines that are alike but for cues of which nothing was heard. A cue that both take up and a cue
that only one of them knows and that stays silent keep them alike, and so does a primary frame.
-/

namespace Overdub

namespace Pipeline

variable {ρ : CueId → CueId} {p q : Pipeline} {h k : History} {v : Voice} {cue : Cue}

theorem speak_of_blank (blank : cue.isBlank) (p : Pipeline) (speaker : Speaker) :
    p.speak speaker cue =
      (none, { p with ledger := (p.ledger.add cue).discard p.ledger.nextId .blank }) :=
  if_pos blank

def fatal : Except GenerationError Report → Option PipelineError
  | .ok _ => none
  | .error e => if e.isFatal then some (.generation e) else none

theorem speak_eq (sound : p.Sound h) (some : ¬ cue.isBlank) :
    p.speak v.speaker cue =
      (fatal (p.target.voiced v cue).2, { p with
        ledger := (p.ledger.add cue).settle p.ledger.nextId (p.target.voiced v cue).2
        queue := (p.target.heard v cue).foldl (fun q x => q.push ⟨p.ledger.nextId, x⟩) p.queue }) := by
  unfold speak Target.heard
  rw [if_neg some, Target.generate_eq]
  cases result : (p.target.voiced v cue).2 with
  | ok report => rfl
  | error e =>
    have absent : ∀ f ∈ p.queue.frames, f.cue ≠ p.ledger.nextId :=
      fun f mem => Nat.ne_of_lt (sound.below f mem)
    have taken := Queue.without_eq sound.counted absent
      (Target.push_frames p.ledger.nextId (p.target.voiced v cue).1 p.queue)
    dsimp only
    rw [taken]
    rfl

theorem Sound.lt_of_spent (sound : p.Sound h) {o : Mixer.Outcome} {n : Mixer} {r : Queue}
    (spent : Mixer.Spent p.mixer p.queue o n r) :
    (∀ x ∈ o.touched, x < p.ledger.nextId) ∧ ∀ x ∈ o.retired, x < p.ledger.nextId := by
  have below : ∀ x ∈ p.queue.frames.map (·.cue), x < p.ledger.nextId := by
    intro x mem
    obtain ⟨f, queued, rfl⟩ := List.mem_map.mp mem
    exact sound.below f queued
  obtain ⟨used, split, retired⟩ := spent.exists_retired
  refine ⟨fun x mem => below x ?_, fun x mem => below x ?_⟩
  · rw [spent.touched_eq] at mem
    exact (sound.mem_pending x).mp (List.mem_of_mem_take (Mixer.mem_runs mem))
  · rw [retired] at mem
    rw [split, List.map_append]
    exact List.mem_append_left _ (Mixer.mem_of_mem_ends mem)

structure Alike (ρ : CueId → CueId) (p q : Pipeline) : Prop where
  exists_sound : ∃ h, p.Sound h
  exists_sound' : ∃ h, q.Sound h
  target_eq : q.target = p.target
  mixer_eq : q.mixer = p.mixer
  position_eq : q.position = p.position
  queue_eq : q.queue = p.queue.renumber ρ
  ledger : Ledger.Matches ρ p.ledger q.ledger

namespace Alike

theorem start {target : Target} {gains : Gains} {track track' : Subtitle.Track}
    (started : start? target gains track = .ok p) (started' : start? target gains track' = .ok q) :
    Alike ρ p q where
  exists_sound := ⟨_, .start started⟩
  exists_sound' := ⟨_, .start started'⟩
  target_eq := by rw [eq_of_start? started, eq_of_start? started']
  mixer_eq := by rw [eq_of_start? started, eq_of_start? started']
  position_eq := by rw [eq_of_start? started, eq_of_start? started']
  queue_eq := by
    rw [eq_of_start? started, eq_of_start? started']
    rfl
  ledger := by
    rw [eq_of_start? started, eq_of_start? started']
    exact ⟨.zero ρ, nofun, rfl, rfl, rfl⟩

theorem keep (a : Alike ρ p q) (e : ρ p.ledger.nextId = q.ledger.nextId) (cue : Cue) :
    (q.speak v.speaker cue).1 = (p.speak v.speaker cue).1 ∧
      Alike ρ (p.speak v.speaker cue).2 (q.speak v.speaker cue).2 := by
  obtain ⟨h, sound⟩ := a.exists_sound
  obtain ⟨k, sound'⟩ := a.exists_sound'
  have next := sound.speak v.speaker cue
  have next' := sound'.speak v.speaker cue
  have added := a.ledger.add sound.tallied sound'.tallied e cue
  have new : p.ledger.nextId < (p.ledger.add cue).nextId := Nat.lt_succ_self _
  by_cases blank : cue.isBlank
  · have given := added.discard new .blank
    rw [e] at given
    rw [speak_of_blank blank] at next next' ⊢
    rw [speak_of_blank blank]
    exact ⟨rfl, ⟨_, next⟩, ⟨_, next'⟩, a.target_eq, a.mixer_eq, a.position_eq, a.queue_eq, given⟩
  · have given := added.settle new (p.target.voiced v cue).2
    rw [e] at given
    rw [speak_eq sound blank] at next ⊢
    rw [speak_eq sound' blank, a.target_eq] at next' ⊢
    refine ⟨rfl, ⟨_, next⟩, ⟨_, next'⟩, rfl, a.mixer_eq, a.position_eq, ?_, given⟩
    dsimp only
    rw [Queue.renumber_pushAll, a.queue_eq, e]

/-- A cue that only `q` takes up. -/
theorem insert (a : Alike ρ p q) (room : v.HasRoom) (silent : p.target.Silent v cue) :
    (q.speak v.speaker cue).1 = none ∧ Alike ρ p (q.speak v.speaker cue).2 := by
  obtain ⟨k, sound'⟩ := a.exists_sound'
  have next' := sound'.speak v.speaker cue
  by_cases blank : cue.isBlank
  · rw [speak_of_blank blank] at next' ⊢
    exact ⟨rfl, a.exists_sound, ⟨_, next'⟩, a.target_eq, a.mixer_eq, a.position_eq, a.queue_eq,
      a.ledger.addApart sound'.tallied (.discard ..)⟩
  · have nothing := silent.blank_or_nil.resolve_left blank
    rw [speak_eq sound' blank, a.target_eq] at next' ⊢
    refine ⟨?_, a.exists_sound, ⟨_, next'⟩, rfl, a.mixer_eq, a.position_eq, ?_,
      a.ledger.addApart sound'.tallied (.settle ..)⟩
    · dsimp only
      cases result : (p.target.voiced v cue).2 with
      | ok report => rfl
      | error e => exact if_neg (by rw [Target.voiced_error_of_nil room nothing result]; decide)
    · dsimp only
      rw [Target.heard_of_nil nothing]
      exact a.queue_eq

theorem startOf_eq (a : Alike ρ p q) (frame : Frame) : q.startOf frame = p.startOf frame := by
  unfold startOf
  rw [a.target_eq, a.position_eq]

theorem note {l m : Ledger} (matched : Ledger.Matches ρ l m) {o : Mixer.Outcome}
    (touched : ∀ x ∈ o.touched, x < l.nextId) (retired : ∀ x ∈ o.retired, x < l.nextId) :
    Ledger.Matches ρ (Pipeline.note l o) (Pipeline.note m (o.renumber ρ)) := by
  obtain ⟨once, same⟩ := matched.foldl Ledger.Matches.nextId_touch Ledger.Matches.touch touched
  rw [← same] at retired
  obtain ⟨twice, _⟩ := once.foldl Ledger.Matches.nextId_retire Ledger.Matches.retire retired
  exact twice.withTotals (congrArg (· + o.mixed) twice.mixed_eq) twice.retired_eq twice.frames_eq

theorem mix (a : Alike ρ p q) (frame : Frame) :
    (q.mix frame).1 = (p.mix frame).1 ∧ Alike ρ (p.mix frame).2 (q.mix frame).2 := by
  obtain ⟨h, sound⟩ := a.exists_sound
  obtain ⟨k, sound'⟩ := a.exists_sound'
  have next := sound.mix frame
  have next' := sound'.mix frame
  have renumbered : ∀ r, p.mixer.mix frame (p.startOf frame) p.queue = r →
      q.mixer.mix frame (q.startOf frame) q.queue =
        (Mixer.renumberResult ρ r.1, r.2.1, r.2.2.1, r.2.2.2.renumber ρ) := by
    rintro _ rfl
    rw [a.mixer_eq, a.queue_eq, a.startOf_eq]
    exact Mixer.mix_renumber a.ledger.renumbers p.mixer frame (p.startOf frame) sound.below
  by_cases hf : p.mixer.Fits frame
  · obtain ⟨o, slices, n, r, e, spent⟩ :=
      Mixer.mix_of_fits hf sound.fits sound.within (p.startOf frame)
    have e' := renumbered _ e
    obtain ⟨touched, retired⟩ := sound.lt_of_spent spent
    have noted := note a.ledger touched retired
    unfold Pipeline.mix at next next' ⊢
    rw [e] at next ⊢
    rw [e'] at next' ⊢
    exact ⟨rfl, ⟨_, next⟩, ⟨_, next'⟩, a.target_eq, rfl, congrArg (· + slices.length) a.position_eq,
      rfl, noted.withTotals noted.mixed_eq noted.retired_eq (congrArg (· + 1) noted.frames_eq)⟩
  · have e := Mixer.mix_of_not_fits hf (p.startOf frame) p.queue
    have e' := renumbered _ e
    unfold Pipeline.mix at next next' ⊢
    rw [e] at next ⊢
    rw [e'] at next' ⊢
    exact ⟨rfl, ⟨_, next⟩, ⟨_, next'⟩, a.target_eq, rfl, a.position_eq, rfl, a.ledger⟩

end Alike

end Pipeline

end Overdub
