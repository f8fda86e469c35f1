import Overdub.Proofs.Dubbing.Delivery

/-!
Dubbing without speech. As long as no cue has queued a frame, every primary frame is given back as
it came.
-/

namespace Overdub

namespace Ledger

theorem blind_frames : Blind Record.frames := fun _ _ _ => rfl

def queued (l : Ledger) : List Nat := l.records.map (·.frames)

/-- No cue has queued a frame. -/
def Quiet (l : Ledger) : Prop := ∀ r ∈ l.records, r.frames = 0

variable {l m : Ledger}

theorem quiet_iff : l.Quiet ↔ ∀ n ∈ l.queued, n = 0 := by
  simp [Quiet, queued]

theorem Quiet.of_prefix (quiet : m.Quiet) (more : l.queued <+: m.queued) : l.Quiet := by
  rw [quiet_iff] at *
  exact fun n mem => quiet n (more.subset mem)

theorem queued_settle (tallied : l.Tallied) (cue : Cue) (result : Except GenerationError Report) :
    ((l.add cue).settle l.nextId result).queued =
      l.queued ++ [(Spoken.mk l.nextId (some result)).frames] := by
  cases result with
  | error e =>
    unfold queued settle
    dsimp only
    rw [blind_frames.discard]
    exact List.map_append
  | ok report =>
    have old : ∀ r ∈ l.records, r.id ≠ l.nextId := fun r mem => Nat.ne_of_lt (tallied.lt_of_mem mem)
    have told : ∀ f : Record → Record, (∀ r, (f r).frames = report.frames) →
        ((l.add cue).update l.nextId f).queued = l.queued ++ [report.frames] := by
      intro f hf
      unfold queued update add
      dsimp only
      rw [List.map_append, map_update_of_ne old, List.map_append]
      simp [hf]
    unfold queued settle at *
    dsimp only
    split
    · rw [blind_frames.discard]
      exact told _ fun _ => rfl
    · rw [blind_frames.setState]
      exact told _ fun _ => rfl

end Ledger

namespace Pipeline

variable {p q : Pipeline} {h : History} {speaker : Speaker}

theorem queued_speak (tallied : p.ledger.Tallied) (speaker : Speaker) (cue : Cue) :
    (p.speak speaker cue).2.ledger.queued =
      p.ledger.queued ++ [(Spoken.mk p.ledger.nextId (p.resultOf speaker cue)).frames] := by
  unfold speak resultOf
  dsimp only
  split
  · unfold Ledger.queued
    dsimp only
    rw [Ledger.blind_frames.discard]
    exact List.map_append
  · have settled := Ledger.queued_settle tallied cue
      (p.target.generate speaker p.ledger.nextId cue p.queue).1
    generalize p.target.generate speaker p.ledger.nextId cue p.queue = g at settled
    obtain ⟨_ | _, _⟩ := g <;> exact settled

theorem queued_mix (p : Pipeline) (frame : Frame) :
    (p.mix frame).2.ledger.queued = p.ledger.queued := map_mix Ledger.blind_frames p frame

theorem Sound.speak_grows (sound : p.Sound h) (speaker : Speaker) (cue : Cue) :
    p.ledger.queued <+: (p.speak speaker cue).2.ledger.queued ∧
      ((p.speak speaker cue).2.ledger.Quiet →
        (p.speak speaker cue).2.queue.frames = p.queue.frames) := by
  have queued := queued_speak sound.tallied speaker cue
  refine ⟨⟨_, queued.symm⟩, ?_⟩
  intro quiet
  obtain ⟨made, spoke⟩ := exists_spoke sound.tallied sound.counted sound.below speaker cue
  rw [Ledger.quiet_iff, queued] at quiet
  have none := quiet _ (List.mem_append_right _ List.mem_cons_self)
  rw [spoke.spoken_frames, List.length_eq_zero_iff] at none
  rw [spoke.frames_eq, none, List.map_nil, List.append_nil]

theorem Sound.speakAll_grows (sound : p.Sound h) (speaker : Speaker) (cues : List Cue) :
    p.ledger.queued <+: (p.speakAll speaker cues).2.2.ledger.queued ∧
      ((p.speakAll speaker cues).2.2.ledger.Quiet →
        (p.speakAll speaker cues).2.2.queue.frames = p.queue.frames) := by
  induction cues generalizing p h with
  | nil => exact ⟨List.prefix_rfl, fun _ => rfl⟩
  | cons cue cues ih =>
    have one := sound.speak_grows speaker cue
    have next := sound.speak speaker cue
    rw [Pipeline.speakAll]
    generalize p.speak speaker cue = r at one next
    obtain ⟨_ | e, q⟩ := r
    · obtain ⟨more, same⟩ := ih next
      -- What is quiet after all cues was so after the first.
      exact ⟨one.1.trans more, fun quiet => (same quiet).trans (one.2 (quiet.of_prefix more))⟩
    · exact one

theorem Sound.process_grows (sound : p.Sound h) (speaker : Speaker) (frame : Frame) :
    p.ledger.queued <+: (p.process speaker frame).2.ledger.queued := by
  have spoken := sound.speakAll_grows speaker (p.due frame).1
  unfold Pipeline.process Pipeline.advance
  dsimp only
  generalize p.speakAll speaker (p.due frame).1 = r at spoken
  obtain ⟨_ | e, left, q⟩ := r
  · dsimp only at spoken ⊢
    rw [queued_mix]
    exact spoken.1
  · exact spoken.1

/-- Nothing waits to be mixed. -/
structure Vacant (t : Target) (p : Pipeline) : Prop where
  exists_sound : ∃ h, p.Sound h
  target_eq : p.target = t
  queue_eq : p.queue.frames = []

namespace Vacant

variable {t : Target}

theorem start {gains : Gains} {track : Subtitle.Track} (started : start? t gains track = .ok p) :
    Vacant t p := by
  refine ⟨⟨_, .start started⟩, ?_, ?_⟩ <;> rw [eq_of_start? started]

theorem process (v : Vacant t p) {frame : Frame}
    (room : hasRoom (p.process speaker frame).1)
    (quiet : (p.process speaker frame).2.ledger.Quiet) :
    (p.process speaker frame).1 = untouched t frame ∧ Vacant t (p.process speaker frame).2 := by
  obtain ⟨h, sound⟩ := v.exists_sound
  have spoken := sound.speakAll speaker (p.due frame).1
  have grows := (sound.speakAll_grows speaker (p.due frame).1).2
  have aim := (target_speakAll speaker (p.due frame).1 p).trans v.target_eq
  obtain ⟨q, done, -⟩ := exists_speakAll_due room
  rw [done] at spoken grows aim
  rw [process_of_speakAll rfl done] at quiet ⊢
  have empty := (grows (quiet.of_prefix (queued_mix q frame ▸ List.prefix_rfl))).trans v.queue_eq
  obtain ⟨same, queue⟩ := spoken.mix_of_empty empty frame
  dsimp only at aim
  rw [aim] at same
  exact ⟨same, ⟨_, (spoken.mix frame).withTrack _⟩, (target_mix ..).trans aim, queue⟩

end Vacant

end Pipeline

end Overdub
