import Overdub.Proofs.Dubbing.Reach

/-!
The life of a cue. After any run of calls every cue that was taken up stands where its speech is:
still in the queue, all heard, or given up unheard. No call takes a cue back.
-/

namespace Overdub

namespace CueState

/-- One step in the life of a cue. -/
inductive Next : CueState → CueState → Prop
  | take : Next .awaiting .generating
  | queue : Next .generating .queued
  | discard : Next .generating .discarded
  | hear : Next .queued .mixing
  | retire : Next .mixing .retired

inductive Leads : CueState → CueState → Prop
  | refl (s : CueState) : Leads s s
  | step {s t u : CueState} : Next s t → Leads t u → Leads s u

namespace Leads

theorem mixing_retired : Leads .mixing .retired := .step .retire (.refl _)

theorem queued_mixing : Leads .queued .mixing := .step .hear (.refl _)

theorem queued_retired : Leads .queued .retired := .step .hear mixing_retired

theorem of_awaiting (s : CueState) : Leads .awaiting s := by
  cases s with
  | awaiting => exact .refl _
  | generating => exact .step .take (.refl _)
  | queued => exact .step .take (.step .queue (.refl _))
  | mixing => exact .step .take (.step .queue queued_mixing)
  | retired => exact .step .take (.step .queue queued_retired)
  | discarded => exact .step .take (.step .discard (.refl _))

theorem eq_of_retired {s : CueState} (h : Leads .retired s) : s = .retired := by
  cases h with
  | refl => rfl
  | step next _ => cases next

theorem eq_of_discarded {s : CueState} (h : Leads .discarded s) : s = .discarded := by
  cases h with
  | refl => rfl
  | step next _ => cases next

end Leads

end CueState

section Stage

variable {heard taken left left' : List CueId} {x : CueId}

theorem stage_live : stage heard left x = .queued ∨ stage heard left x = .mixing ↔ x ∈ left := by
  unfold stage
  by_cases l : x ∈ left <;> by_cases e : x ∈ heard <;> simp [l, e]

theorem stage_eq_mixing : stage heard left x = .mixing ↔ x ∈ left ∧ x ∈ heard := by
  unfold stage
  by_cases l : x ∈ left <;> by_cases e : x ∈ heard <;> simp [l, e]

theorem stage_eq_retired : stage heard left x = .retired ↔ x ∉ left ∧ x ∈ heard := by
  unfold stage
  by_cases l : x ∈ left <;> by_cases e : x ∈ heard <;> simp [l, e]

theorem stage_eq_discarded : stage heard left x = .discarded ↔ x ∉ left ∧ x ∉ heard := by
  unfold stage
  by_cases l : x ∈ left <;> by_cases e : x ∈ heard <;> simp [l, e]

theorem stage_leads (h : x ∈ left ↔ x ∈ taken ∨ x ∈ left') :
    (stage heard left x).Leads (stage (heard ++ taken) left' x) := by
  unfold stage
  by_cases e : x ∈ heard <;> by_cases t : x ∈ taken <;> by_cases l : x ∈ left' <;>
    simp only [h, e, t, l, List.mem_append, or_true, or_false, if_true, if_false]
  all_goals first
    | exact .refl _
    | exact .mixing_retired
    | exact .queued_mixing
    | exact .queued_retired

end Stage

namespace Pipeline

variable {p q : Pipeline} {h k : History}

theorem Reaches.grows (r : p.Reaches h q k) : h.spoken <+: k.spoken ∧ h.heard <+: k.heard := by
  induction r with
  | here => exact ⟨List.prefix_rfl, List.prefix_rfl⟩
  | call speaker cues frame track _ ih =>
    exact ⟨ih.1.trans (List.prefix_append _ _), ih.2.trans (List.prefix_append _ _)⟩

namespace Sound

theorem exists_spoken (sound : p.Sound h) {x : CueId} (hx : x < p.ledger.nextId) :
    ∃ s ∈ h.spoken, s.cue = x := by
  have mem : x ∈ h.spoken.map (·.cue) := by
    rw [sound.cues]
    exact List.mem_range.mpr hx
  exact List.mem_map.mp mem

theorem mem_pending_of_grows (sp : p.Sound h) (sq : q.Sound k) (spoken : h.spoken <+: k.spoken)
    {taken : List CueId} (heard : k.heard = h.heard ++ taken) {x : CueId}
    (hx : x < p.ledger.nextId) :
    x ∈ p.queue.frames.map (·.cue) ↔ x ∈ taken ∨ x ∈ q.queue.frames.map (·.cue) := by
  obtain ⟨more, spoken⟩ := spoken
  -- What was spoken since belongs to cues that were taken up since.
  have new : x ∉ more.flatMap Spoken.voices := by
    intro mem
    obtain ⟨s, old, rfl⟩ := sp.exists_spoken hx
    have nodup := sq.nodup
    rw [← spoken, List.map_append, List.nodup_append] at nodup
    exact nodup.2.2 s.cue (List.mem_map_of_mem old) s.cue (Spoken.mem_cues mem) rfl
  have flow : p.mixer.pendingVoices p.queue ++ more.flatMap Spoken.voices =
      taken ++ q.mixer.pendingVoices q.queue := by
    have whole := sq.voices
    rw [← spoken, List.flatMap_append, ← sp.voices, heard, List.append_assoc,
      List.append_assoc] at whole
    exact (List.append_cancel_left whole).symm
  have same := congrArg (x ∈ ·) flow
  simp only [List.mem_append, new, or_false, sp.mem_pending, sq.mem_pending] at same
  exact iff_of_eq same

theorem leads (sp : p.Sound h) (sq : q.Sound k) (spoken : h.spoken <+: k.spoken)
    (heard : h.heard <+: k.heard) (x : CueId) :
    (p.ledger.state x).Leads (q.ledger.state x) := by
  by_cases hx : x < p.ledger.nextId
  · obtain ⟨taken, heard⟩ := heard
    have later : x < q.ledger.nextId := by
      have grown := spoken.length_le
      have before := congrArg List.length sp.cues
      have after := congrArg List.length sq.cues
      rw [List.length_map, List.length_range] at before after
      rw [before, after] at grown
      exact Nat.lt_of_lt_of_le hx grown
    rw [sp.state x hx, sq.state x later, ← heard]
    exact stage_leads (sp.mem_pending_of_grows sq spoken heard.symm hx)
  · rw [Ledger.state_of_find?_none (sp.tallied.find?_eq_none (Nat.le_of_not_lt hx))]
    exact .of_awaiting _

theorem state_of_mem (sound : p.Sound h) {r : Record} (mem : r ∈ p.ledger.records) :
    r.state = stage h.heard (p.queue.frames.map (·.cue)) r.id := by
  rw [← sound.state _ (sound.tallied.lt_of_mem mem),
    Ledger.state_of_find? (sound.tallied.find?_of_mem mem)]

theorem retired_iff (sound : p.Sound h) {x : CueId} (hx : x < p.ledger.nextId) :
    stage h.heard (p.queue.frames.map (·.cue)) x = .retired ↔
      ∃ s ∈ h.spoken, s.cue = x ∧ 0 < s.frames ∧ h.heard.count x = s.samples := by
  have left := sound.mem_pending x
  rw [stage_eq_retired, ← left]
  constructor
  · rintro ⟨out, heard⟩
    obtain ⟨s, mem, rfl⟩ := sound.exists_spoken hx
    have count := sound.count_eq mem
    rw [List.count_eq_zero.mpr out, Nat.add_zero] at count
    refine ⟨s, mem, rfl, ?_, count⟩
    rw [sound.spoken_pos s mem, ← count]
    exact List.count_pos_iff.mpr heard
  · rintro ⟨s, mem, rfl, some, all⟩
    have count := sound.count_eq mem
    rw [sound.spoken_pos s mem, ← all] at some
    refine ⟨List.count_eq_zero.mp ?_, List.count_pos_iff.mp some⟩
    omega

end Sound

/-- Wherever a pipeline gets, every cue taken up stands where its speech is, the totals count the
records, and from there on no cue goes back. -/
theorem cues_live_once {target : Target} {gains : Gains} {track : Subtitle.Track} {p₀ : Pipeline}
    (start : start? target gains track = .ok p₀) (reached : p₀.Reaches {} p h) :
    p.ledger.records.map (·.id) = List.range p.ledger.totals.pulled ∧
    (p.queue.frames.map (·.cue)).Pairwise (· ≤ ·) ∧
    (∀ r ∈ p.ledger.records,
      r.state ≠ .awaiting ∧ r.state ≠ .generating ∧
      (r.state = .queued ∨ r.state = .mixing ↔ ∃ f ∈ p.queue.frames, f.cue = r.id) ∧
      (r.state = .mixing ↔ (∃ f ∈ p.queue.frames, f.cue = r.id) ∧ r.id ∈ h.heard) ∧
      (r.state = .retired ↔
        ∃ s ∈ h.spoken, s.cue = r.id ∧ 0 < s.frames ∧ h.heard.count r.id = s.samples) ∧
      (r.state = .discarded ↔ (¬ ∃ f ∈ p.queue.frames, f.cue = r.id) ∧ r.id ∉ h.heard)) ∧
    p.ledger.totals.retired = p.ledger.records.countP (·.state = .retired) ∧
    p.ledger.totals.discarded = p.ledger.records.countP (·.state = .discarded) ∧
    ∀ q k, p.Reaches h q k → ∀ x,
      (p.ledger.state x).Leads (q.ledger.state x) ∧
      (p.ledger.state x = .retired ∨ p.ledger.state x = .discarded →
        q.ledger.state x = p.ledger.state x) := by
  have sound := reached.sound (.start start)
  refine ⟨?_, sound.sorted, ?_, sound.tallied.retired, sound.tallied.discarded, ?_⟩
  · rw [sound.tallied.pulled, sound.tallied.ids]
  · intro r mem
    have old := sound.tallied.lt_of_mem mem
    have left : (∃ f ∈ p.queue.frames, f.cue = r.id) ↔ r.id ∈ p.queue.frames.map (·.cue) :=
      List.mem_map.symm
    rw [sound.state_of_mem mem, left]
    refine ⟨?_, ?_, stage_live, stage_eq_mixing, sound.retired_iff old, stage_eq_discarded⟩
    · unfold stage
      split <;> split <;> nofun
    · unfold stage
      split <;> split <;> nofun
  · intro q k later x
    obtain ⟨spoken, heard⟩ := later.grows
    have leads := sound.leads (later.sound sound) spoken heard x
    refine ⟨leads, ?_⟩
    rintro (last | last) <;> rw [last] at leads ⊢
    · exact leads.eq_of_retired
    · exact leads.eq_of_discarded

theorem cues_live_once_three_samples :
    let frame := Frame.mono .f32 48000 (by decide) 0 [⟨0⟩, ⟨0⟩]
    let p := ((single frame).process (.steady 3 ⟨0⟩) frame).2
    start? (single frame).target {} (single frame).track = .ok (single frame) ∧
    p.ledger.records.map (·.id) = [0] ∧ ∀ r ∈ p.ledger.records, r.state = .mixing := by
  intro frame p
  have start : start? (single frame).target {} (single frame).track = .ok (single frame) := rfl
  have reached := (Reaches.here (p := single frame) (h := {})).process (.steady 3 ⟨0⟩) frame
  obtain ⟨ids, _, states, _⟩ := cues_live_once start reached
  have pulled : p.ledger.totals.pulled = 1 := by decide +kernel
  rw [pulled] at ids
  refine ⟨start, ids, ?_⟩
  intro r mem
  have zero : r.id ∈ List.range 1 := ids ▸ List.mem_map_of_mem mem
  replace zero : r.id = 0 := Nat.lt_one_iff.mp (List.mem_range.mp zero)
  obtain ⟨_, _, _, mixing, _⟩ := states r mem
  rw [mixing, zero]
  exact ⟨List.mem_map.mp (by decide +kernel), by decide +kernel⟩

end Pipeline

end Overdub
