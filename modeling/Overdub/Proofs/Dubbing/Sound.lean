import Overdub.Proofs.Dubbing.Generation
import Overdub.Proofs.Dubbing.History
import Overdub.Proofs.Dubbing.Ledger

/-!
The invariant of a dubbing pipeline. Ledger, queue and mixer are tied to the history: what was
heard and what is pending make up what was spoken, and where a cue stands is told by whether it was
heard and whether some of it is left.
-/

namespace Overdub

def stage (heard left : List CueId) (x : CueId) : CueState :=
  if x ∈ left then if x ∈ heard then .mixing else .queued
  else if x ∈ heard then .retired
  else .discarded

theorem stage_append_self {heard left : List CueId} {x : CueId} (unheard : x ∉ heard)
    (absent : x ∉ left) (n : Nat) :
    stage heard (left ++ List.replicate n x) x = if n = 0 then .discarded else .queued := by
  cases n <;> simp [stage, unheard, absent]

theorem stage_append_of_ne {x y : CueId} (other : x ≠ y) (heard left : List CueId) (n : Nat) :
    stage heard (left ++ List.replicate n y) x = stage heard left x := by
  simp [stage, other]

namespace Queue

theorem voices_map (id : CueId) (made : List Frame) :
    voices (made.map (⟨id, ·⟩)) = List.replicate (made.map Frame.length).sum id := by
  induction made with
  | nil => rfl
  | cons x made ih =>
    rw [List.map_cons, voices_cons, ih, List.replicate_append_replicate, List.map_cons,
      List.sum_cons]

theorem cues_map (id : CueId) (made : List Frame) :
    (made.map fun x => QueuedFrame.mk id x).map (·.cue) = List.replicate made.length id := by
  rw [List.map_map]
  exact List.map_const'

theorem without_eq {q : Queue} (counted : q.Counted) {id : CueId} {r : Queue} {made : List Frame}
    (absent : ∀ f ∈ q.frames, f.cue ≠ id) (e : r.frames = q.frames ++ made.map (⟨id, ·⟩)) :
    r.without id = q := by
  have kept : r.frames.filter (·.cue ≠ id) = q.frames := by
    rw [e, List.filter_append, List.filter_eq_self.mpr fun f mem => decide_eq_true (absent f mem)]
    simp [List.filter_map, Function.comp_def]
  obtain ⟨frames, samples⟩ := q
  change Queue.mk _ _ = _
  rw [kept]
  congr 1
  exact counted.symm

end Queue

namespace Pipeline

/-- What speaking a cue came to: `made` was queued for good and the cue stands accordingly. -/
structure Spoke (p : Pipeline) (s : Spoken) (made : List Frame) (q : Pipeline) : Prop where
  target_eq : q.target = p.target
  mixer_eq : q.mixer = p.mixer
  makes : ∀ x ∈ made, p.target.Makes x
  meets : p.target.Sampled → made.IsChain Frame.Meets
  frames_eq : q.queue.frames = p.queue.frames ++ made.map (⟨p.ledger.nextId, ·⟩)
  counted : q.queue.Counted
  cue_eq : s.cue = p.ledger.nextId
  spoken_frames : s.frames = made.length
  spoken_samples : s.samples = (made.map Frame.length).sum
  moves : Ledger.Moves p.ledger 1
    (fun x => if x = p.ledger.nextId then if made = [] then .discarded else .queued
      else p.ledger.state x) q.ledger

variable {p q : Pipeline} {h : History}

theorem exists_spoke (tallied : p.ledger.Tallied) (counted : p.queue.Counted)
    (below : ∀ f ∈ p.queue.frames, f.cue < p.ledger.nextId) (speaker : Speaker) (cue : Cue) :
    ∃ made, Spoke p ⟨p.ledger.nextId, p.resultOf speaker cue⟩ made (p.speak speaker cue).2 := by
  have added := tallied.add cue
  have fresh : (p.ledger.add cue).state p.ledger.nextId = .generating := by
    rw [added.state_eq, if_pos rfl]
  have absent : ∀ f ∈ p.queue.frames, f.cue ≠ p.ledger.nextId :=
    fun f mem => Nat.ne_of_lt (below f mem)
  unfold speak resultOf
  dsimp only
  split
  · exact ⟨[], rfl, rfl, nofun, fun _ => .nil, (List.append_nil _).symm, counted, rfl, rfl, rfl,
      tallied.add_trans (added.tallied.discard fresh .blank)⟩
  · obtain ⟨made, generated⟩ :=
      p.target.generate_generated speaker p.ledger.nextId cue p.queue
    generalize p.target.generate speaker p.ledger.nextId cue p.queue = g at generated
    obtain ⟨result, queue⟩ := g
    have settled := tallied.add_trans (added.tallied.settle fresh result)
    cases result with
    | ok report =>
      obtain ⟨count, total⟩ := generated.report_eq report rfl
      refine ⟨made, rfl, rfl, generated.makes, generated.meets, generated.frames_eq,
        generated.counted counted, rfl, count, total, ?_⟩
      rw [Ledger.settled, count] at settled
      simpa only [List.length_eq_zero_iff] using settled
    | error e =>
      -- What the cue had queued is taken back, and nothing else was of its number.
      have same := Queue.without_eq counted absent generated.frames_eq
      refine ⟨[], rfl, rfl, nofun, fun _ => .nil, ?_, ?_, rfl, rfl, rfl, settled⟩
      · change (queue.without _).frames = _
        rw [same, List.map_nil, List.append_nil]
      · change (queue.without _).Counted
        rw [same]
        exact counted

/-- What holds of every pipeline and its history. -/
structure Sound (p : Pipeline) (h : History) : Prop where
  tallied : p.ledger.Tallied
  counted : p.queue.Counted
  makes : ∀ f ∈ p.queue.frames, p.target.Makes f.frame
  stream_eq : p.mixer.stream = p.target.stream
  within : Queue.Within p.mixer.offset p.queue.frames
  sorted : (p.queue.frames.map (·.cue)).Pairwise (· ≤ ·)
  below : ∀ f ∈ p.queue.frames, f.cue < p.ledger.nextId
  voices : h.heard ++ p.mixer.pendingVoices p.queue = h.spoken.flatMap Spoken.voices
  cues : h.spoken.map (·.cue) = List.range p.ledger.nextId
  spoken_pos : ∀ s ∈ h.spoken, 0 < s.frames ↔ 0 < s.samples
  mixed : p.ledger.totals.mixed = h.heard.length
  state : ∀ x < p.ledger.nextId,
    p.ledger.state x = stage h.heard (p.queue.frames.map (·.cue)) x

namespace Sound

theorem lt_of_heard (sound : p.Sound h) {x : CueId} (mem : x ∈ h.heard) : x < p.ledger.nextId := by
  have mem : x ∈ h.spoken.flatMap Spoken.voices := sound.voices ▸ List.mem_append_left _ mem
  have known := Spoken.mem_cues mem
  rwa [sound.cues, List.mem_range] at known

theorem nodup (sound : p.Sound h) : (h.spoken.map (·.cue)).Nodup := by
  rw [sound.cues]
  exact List.nodup_range

theorem mem_pending (sound : p.Sound h) (x : CueId) :
    x ∈ p.mixer.pendingVoices p.queue ↔ x ∈ p.queue.frames.map (·.cue) :=
  Queue.mem_voices_drop (fun f mem => (sound.makes f mem).length_pos) sound.within x

theorem count_eq (sound : p.Sound h) {s : Spoken} (mem : s ∈ h.spoken) :
    h.heard.count s.cue + (p.mixer.pendingVoices p.queue).count s.cue = s.samples := by
  rw [← List.count_append, sound.voices]
  have nodup := sound.nodup
  generalize h.spoken = spoken at mem nodup
  -- Cues are numbered apart: the entry of `s` holds all samples of its cue, the others none.
  induction spoken with
  | nil => cases mem
  | cons t spoken ih =>
    obtain ⟨once, nodup⟩ := List.nodup_cons.mp nodup
    change t.cue ∉ spoken.map (·.cue) at once
    rw [List.flatMap_cons, List.count_append, Spoken.voices]
    rcases List.mem_cons.mp mem with rfl | mem
    · have gone : s.cue ∉ spoken.flatMap Spoken.voices := fun later => once (Spoken.mem_cues later)
      rw [List.count_replicate_self, List.count_eq_zero.mpr gone, Nat.add_zero]
    · have other : ¬ t.cue = s.cue := by
        intro same
        rw [same] at once
        exact once (List.mem_map_of_mem mem)
      rw [ih mem nodup, List.count_replicate, if_neg (by simpa using other), Nat.zero_add]

theorem start {target : Target} {gains : Gains} {track : Subtitle.Track}
    (start : start? target gains track = .ok p) : p.Sound {} := by
  rw [eq_of_start? start]
  exact {
    tallied := ⟨rfl, rfl, rfl, rfl⟩
    counted := rfl
    makes := nofun
    stream_eq := rfl
    within := .inl rfl
    sorted := .nil
    below := nofun
    voices := rfl
    cues := rfl
    spoken_pos := nofun
    mixed := rfl
    state := nofun }

end Sound

theorem sum_length_pos {made : List Frame} (h : ∀ x ∈ made, 0 < x.length) :
    0 < made.length ↔ 0 < (made.map Frame.length).sum := by
  cases made with
  | nil => exact Iff.rfl
  | cons x made =>
    have := h x List.mem_cons_self
    simp only [List.length_cons, List.map_cons, List.sum_cons]
    omega

theorem Sound.spoke (sound : p.Sound h) {s : Spoken} {made : List Frame} (spoke : Spoke p s made q) :
    q.Sound { h with spoken := h.spoken ++ [s] } where
  tallied := spoke.moves.tallied
  counted := spoke.counted
  makes := by
    intro f mem
    rw [spoke.frames_eq, List.mem_append, List.mem_map] at mem
    rw [spoke.target_eq]
    rcases mem with mem | ⟨x, mem, rfl⟩
    · exact sound.makes f mem
    · exact spoke.makes x mem
  stream_eq := by rw [spoke.mixer_eq, spoke.target_eq, sound.stream_eq]
  within := by
    rw [spoke.mixer_eq, spoke.frames_eq]
    exact sound.within.append _
  sorted := by
    rw [spoke.frames_eq, List.map_append, List.pairwise_append]
    rw [Queue.cues_map]
    refine ⟨sound.sorted, List.pairwise_replicate.mpr (.inr (Nat.le_refl _)), ?_⟩
    intro x mem y last
    obtain ⟨f, queued, rfl⟩ := List.mem_map.mp mem
    rw [List.eq_of_mem_replicate last]
    exact Nat.le_of_lt (sound.below f queued)
  below := by
    intro f mem
    rw [spoke.frames_eq, List.mem_append, List.mem_map] at mem
    rw [spoke.moves.nextId_eq]
    rcases mem with mem | ⟨x, mem, rfl⟩
    · exact Nat.lt_succ_of_lt (sound.below f mem)
    · exact Nat.lt_succ_self _
  voices := by
    have before := sound.within.le_count
    rw [spoke.mixer_eq, Mixer.pendingVoices, spoke.frames_eq, Queue.voices_append,
      List.drop_append_of_le_length (by rwa [Queue.length_voices]), ← List.append_assoc,
      List.flatMap_append, ← sound.voices, Queue.voices_map, List.flatMap_singleton, Spoken.voices,
      spoke.spoken_samples, spoke.cue_eq]
    rfl
  cues := by
    rw [List.map_append, sound.cues, spoke.moves.nextId_eq, List.range_succ, ← spoke.cue_eq]
    rfl
  spoken_pos := by
    intro s' mem
    rcases List.mem_append.mp mem with mem | mem
    · exact sound.spoken_pos s' mem
    · cases List.mem_singleton.mp mem
      rw [spoke.spoken_frames, spoke.spoken_samples]
      exact sum_length_pos fun x mem => (spoke.makes x mem).length_pos
  mixed := spoke.moves.mixed_eq.trans sound.mixed
  state := by
    intro x hx
    rw [spoke.moves.nextId_eq] at hx
    rw [spoke.moves.state_eq, spoke.frames_eq, List.map_append, Queue.cues_map]
    by_cases new : x = p.ledger.nextId
    · -- A new cue was neither heard nor queued before.
      subst new
      have unheard : p.ledger.nextId ∉ h.heard := fun mem => Nat.lt_irrefl _ (sound.lt_of_heard mem)
      have absent : p.ledger.nextId ∉ p.queue.frames.map (·.cue) := by
        intro mem
        obtain ⟨f, queued, same⟩ := List.mem_map.mp mem
        exact Nat.ne_of_lt (sound.below f queued) same
      rw [if_pos rfl, stage_append_self unheard absent]
      simp only [List.length_eq_zero_iff]
    · have old : x < p.ledger.nextId := Nat.lt_of_le_of_ne (Nat.le_of_lt_succ hx) new
      rw [if_neg new, sound.state x old, stage_append_of_ne new]

end Pipeline

end Overdub
